/-
**The next event of a lifecycle, as the use cases build and reduce it.**

A use case that has decided on a fact builds the event with the next sequence and reduces it.
`reduceNext` is both steps with what they raise; `reduceNext_of_accepts` and `reduceNext_of_refuses`
are the rules for it: it returns when the branch of the fact accepts, and only then.
-/

import TradingKernel.Domain.Commands
import TradingKernel.Domain.Reducer

namespace TradingKernel

open Text

/-- What a use case, a repository or the database raises. -/
inductive Raised where
  | valueError (message : String)
  | typeError (message : String)
  | runtimeError (message : String)
  | invalidLifecycleTransition (refusal : InvalidLifecycleTransition)
  | aggregateVersionConflict (message : String)
  | unsupportedKernelEffect (message : String)
  | commandGeneration (refusal : CommandGenerationError)
  | validation (refusal : ValidationError)
  | integrityError
  deriving DecidableEq, Repr

/-- The identity of the next event, stripped by its validator. -/
def eventId (aggregate : TradeAggregate) : NonBlankText where
  text := strip ("event:" ++ aggregate.identity.ticketId.text ++ ":" ++
    toString (aggregate.lastEventSequence + 1))
  stripped := strip_strip _
  nonempty := strip_ne_empty (c := 'e') (by simp) (by decide)

/-- The next event of the lifecycle, with the refusal of its validators. -/
def nextEvent (aggregate : TradeAggregate) (fact : PlainFact) (occurredAtMs : ℤ) :
    Except Raised TicketEvent :=
  if positive : 0 < aggregate.lastEventSequence + 1 ∧ 0 < occurredAtMs then
    .ok {
      eventId := eventId aggregate
      sequence := aggregate.lastEventSequence + 1
      occurredAtMs := occurredAtMs
      positive := positive
      ticketId := aggregate.identity.ticketId
      fact := fact.val
      observedBefore := by simp [fact.property] }
  else .error (.valueError "event sequence and time must be positive")

/-- The next event, reduced. -/
def reduceNext (aggregate : TradeAggregate) (fact : PlainFact) (occurredAtMs : ℤ) :
    Except Raised (TicketEvent × Reduction) := do
  let event ← nextEvent aggregate fact occurredAtMs
  match reduceEvent (some aggregate) (.ticketEvent event) with
  | .ok reduction => return (event, reduction)
  | .error refusal => .error (.invalidLifecycleTransition refusal)

section Rules

variable {aggregate : TradeAggregate} {fact : PlainFact} {occurredAtMs : ℤ}

/-- A reduced event is about this Ticket, next in sequence, and accepted by the branch of its
fact. -/
theorem reduceNext_eq_ok {event : TicketEvent} {reduction : Reduction}
    (reduced : reduceNext aggregate fact occurredAtMs = .ok (event, reduction)) :
    event.fact = fact.val ∧ event.occurredAtMs = occurredAtMs ∧
      reduceEvent (some aggregate) (.ticketEvent event) = .ok reduction := by
  obtain ⟨built, isBuilt, returned⟩ := Guard.bind_eq_ok.mp reduced
  unfold nextEvent at isBuilt
  split_ifs at isBuilt with positive
  obtain rfl := Except.ok.inj isBuilt
  split at returned
  · rename_i accepted
    obtain ⟨rfl, rfl⟩ := Prod.mk.inj (Except.ok.inj returned)
    exact ⟨rfl, rfl, accepted⟩
  · simp at returned

/-- The branch of the fact accepts every event, so the next one is reduced. -/
theorem reduceNext_of_accepts (begun : 0 < aggregate.lastEventSequence)
    (timed : 0 < occurredAtMs)
    (accepts : ∀ event, ∃ reduction, reduceFact aggregate event fact.val = .ok reduction) :
    ∃ outcome, reduceNext aggregate fact occurredAtMs = .ok outcome := by
  have positive : 0 < aggregate.lastEventSequence + 1 ∧ 0 < occurredAtMs := ⟨by omega, timed⟩
  have built : ∃ event, nextEvent aggregate fact occurredAtMs = .ok event ∧
      event.fact = fact.val ∧ event.ticketId = aggregate.identity.ticketId ∧
      event.sequence = aggregate.lastEventSequence + 1 := by
    rw [nextEvent, dif_pos positive]
    exact ⟨_, rfl, rfl, rfl, rfl⟩
  obtain ⟨event, isBuilt, reports, ticket, sequence⟩ := built
  obtain ⟨reduction, reduced⟩ := accepts event
  have accepted : reduceEvent (some aggregate) (.ticketEvent event) = .ok reduction :=
    reduceEvent_some_eq_ok.mpr ⟨event, rfl, ticket, sequence, by rw [reports]; exact reduced⟩
  refine ⟨(event, reduction), Guard.bind_eq_ok.mpr ⟨event, isBuilt, ?_⟩⟩
  rw [accepted]
  rfl

/-- The branch of the fact refuses every event, so none is reduced. -/
theorem reduceNext_of_refuses {outcome : TicketEvent × Reduction}
    (refuses : ∀ event reduction, reduceFact aggregate event fact.val ≠ .ok reduction) :
    reduceNext aggregate fact occurredAtMs ≠ .ok outcome := by
  intro reduced
  obtain ⟨reports, -, accepted⟩ := reduceNext_eq_ok reduced
  obtain ⟨event, same, -, -, accepted⟩ := reduceEvent_some_eq_ok.mp accepted
  obtain rfl := TradeEvent.ticketEvent.inj same
  rw [reports] at accepted
  exact refuses _ _ accepted

end Rules

end TradingKernel
