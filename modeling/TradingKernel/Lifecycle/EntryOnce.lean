/-
**The ENTRY is sent at most once.**

A Ticket asks for its ENTRY when it is issued, or, if the leverage has to change first, when the
change is confirmed. The confirmation leaves the statuses that wait for the leverage, and no event
leads back to them (`unleveredStatuses`), so whatever a run does afterwards, it asks for no second
ENTRY: not after a vacuum, a rejection or an unknown outcome, and not over a position.
-/

import TradingKernel.Domain.Requests
import TradingKernel.Lifecycle.CapitalRelease

namespace TradingKernel

open Reducer

/-! ### Requests of the first commands -/

/-- The effect asks for the ENTRY. -/
def KernelEffect.asksEntry : KernelEffect → Bool
  | .prepareEntryCommand _ _ => true
  | _ => false

/-- The effect asks for the leverage change. -/
def KernelEffect.asksLeverage : KernelEffect → Bool
  | .prepareSetLeverageCommand _ => true
  | _ => false

/-- The number of effects of a kind along a history. -/
def requestsOf (kind : KernelEffect → Bool) (history : List AcceptedEvent) : ℕ :=
  (history.map fun accepted => accepted.effects.countP kind).sum

@[simp] theorem requestsOf_append (kind : KernelEffect → Bool)
    (earlier later : List AcceptedEvent) :
    requestsOf kind (earlier ++ later) = requestsOf kind earlier + requestsOf kind later := by
  simp [requestsOf]

@[simp] theorem requestsOf_accepted (kind : KernelEffect → Bool) (event : TicketEvent)
    (result : Reduction) :
    requestsOf kind [accepted event result] = result.effects.countP kind := by
  simp [requestsOf, accepted]

/-- The statuses that wait for the leverage change. -/
def unleveredStatuses : List AggregateStatus := [.leveragePending, .leverageOutcomeUnknown]

/-- The facts that settle what becomes of the ENTRY without a position: a vacuum, a rejection, an
unknown outcome. -/
def TicketFact.settlesEntry : TicketFact → Bool
  | .entryVacuumSuperseded _ | .leverageRejected _ | .entryRejected _ | .entryOutcomeUnknown _ =>
      true
  | _ => false

/-- A run asks for at most one ENTRY and one leverage change, and for the ENTRY only while nothing
has settled it and no position was ever held. -/
structure SentOnce (history : List AcceptedEvent) : Prop where
  entry : requestsOf KernelEffect.asksEntry history ≤ 1
  leverage : requestsOf KernelEffect.asksLeverage history ≤ 1
  unsettled : ∀ before asking later, history = before ++ [asking] ++ later →
    0 < asking.effects.countP KernelEffect.asksEntry → ∀ accepted ∈ before, ∀ fact,
      accepted.fact? = some fact → fact.settlesEntry = false
  flat : ∀ before asking later, history = before ++ [asking] ++ later →
    0 < asking.effects.countP KernelEffect.asksEntry → ∀ earlier rest since,
      before = earlier ++ rest → LifecycleRun earlier since → since.positionQty = 0

/-! ### What one event asks for -/

section Step

variable {current : TradeAggregate} {event : TicketEvent} {result : Reduction}

/-- Effects of a kind that asks for a command are counted among the requests. -/
theorem countP_requests {kind : KernelEffect → Bool} {effects : List KernelEffect}
    (asks : ∀ effect, kind effect = true → effect.asksCommand = true) :
    effects.countP kind = (requests effects).countP kind := by
  rw [requests, List.countP_filter]
  refine List.countP_congr fun effect _ => ?_
  rw [Bool.and_eq_true]
  exact ⟨fun isKind => ⟨isKind, asks effect isKind⟩, fun both => both.1⟩

/-- An event asks for at most one command of a kind, and then for the one its aggregate waits
for. -/
theorem asked_once (kind : KernelEffect → Bool)
    (asks : ∀ effect, kind effect = true → effect.asksCommand = true)
    (on : AcceptedOn current event result) : result.effects.countP kind = 0 ∨
      result.effects.countP kind = 1 ∧
        ∃ effect, kind effect = true ∧ AwaitedBy result.aggregate effect := by
  rw [countP_requests asks]
  cases Asks.of_reduceFact on.reduced with
  | nothing none idle =>
    left
    rw [none]
    rfl
  | one effect only awaited =>
    rw [only, List.countP_singleton]
    by_cases isKind : kind effect = true
    · exact .inr ⟨if_pos isKind, effect, isKind, awaited⟩
    · exact .inl (if_neg isKind)

/-- Only the confirmed leverage asks for the ENTRY. -/
theorem entry_asked (on : AcceptedOn current event result) :
    result.effects.countP KernelEffect.asksEntry = 0 ∨
      result.effects.countP KernelEffect.asksEntry = 1 ∧ current.status ∈ unleveredStatuses ∧
        result.aggregate.status ∉ unleveredStatuses := by
  rcases asked_once KernelEffect.asksEntry
    (by intro effect isEntry; cases effect <;> simp_all [KernelEffect.asksEntry,
      KernelEffect.asksCommand]) on with none | ⟨once, effect, isEntry, awaited⟩
  · exact .inl none
  · have pending : result.aggregate.status ∈
        ([.entryPending, .leverageConfirmed] : List AggregateStatus) := by
      cases effect <;> simp_all [KernelEffect.asksEntry, AwaitedBy]
    have source := on.move.follows (fun edge =>
      edge.2 ∈ ([.entryPending, .leverageConfirmed] : List AggregateStatus) →
        edge.1 ∈ unleveredStatuses) (by decide) pending
    have target := (by decide : ∀ status ∈ ([.entryPending, .leverageConfirmed] :
      List AggregateStatus), status ∉ unleveredStatuses) _ pending
    exact .inr ⟨once, source, target⟩

/-- No event on a lifecycle asks for the leverage change. -/
theorem leverage_not_asked (on : AcceptedOn current event result) :
    result.effects.countP KernelEffect.asksLeverage = 0 := by
  rcases asked_once KernelEffect.asksLeverage
    (by intro effect isLeverage; cases effect <;> simp_all [KernelEffect.asksLeverage,
      KernelEffect.asksCommand]) on with none | ⟨-, effect, isLeverage, awaited⟩
  · exact none
  · have pending : result.aggregate.status = .leveragePending := by
      cases effect <;> simp_all [KernelEffect.asksLeverage, AwaitedBy]
    exact absurd pending (on.move.follows (fun edge => edge.2 ≠ .leveragePending)
      (by decide))

/-- A fact that settles the ENTRY leaves the statuses that wait for the leverage. -/
theorem settled_status (on : AcceptedOn current event result)
    (settles : event.fact.settlesEntry = true) :
    result.aggregate.status ∉ unleveredStatuses := by
  have reduced := on.reduced
  cases fact : event.fact with
  | entryVacuumSuperseded superseded =>
    rw [fact] at reduced
    obtain ⟨-, rfl⟩ := entryVacuumSuperseded_eq_ok.mp reduced
    exact (by decide : AggregateStatus.entryRejected ∉ unleveredStatuses)
  | leverageRejected reason =>
    rw [fact] at reduced
    obtain ⟨-, rfl⟩ := leverageRejected_eq_ok.mp reduced
    exact (by decide : AggregateStatus.leverageRejected ∉ unleveredStatuses)
  | entryRejected reason =>
    rw [fact] at reduced
    obtain ⟨-, rfl⟩ := entryRejected_eq_ok.mp reduced
    exact (by decide : AggregateStatus.entryRejected ∉ unleveredStatuses)
  | entryOutcomeUnknown reason =>
    rw [fact] at reduced
    obtain ⟨-, -, rfl⟩ := reported_eq_ok.mp reduced
    exact (by decide : AggregateStatus.entryOutcomeUnknown ∉ unleveredStatuses)
  | _ => simp [fact, TicketFact.settlesEntry] at settles

end Step

/-! ### Along a run -/

/-- The requests of a run so far: none for the ENTRY while the leverage is waited for. -/
structure AskedOnce (history : List AcceptedEvent) (aggregate : TradeAggregate) : Prop where
  entry : requestsOf KernelEffect.asksEntry history ≤
    if aggregate.status ∈ unleveredStatuses then 0 else 1
  leverage : requestsOf KernelEffect.asksLeverage history ≤ 1

namespace AskedOnce

variable {past : List AcceptedEvent} {current : TradeAggregate} {event : TicketEvent}
  {result : Reduction}

theorem issued (header : EventHeader) (ticket : TradeTicket) :
    AskedOnce (issuedHistory header ticket) (issuedAggregate ticket 1) := by
  cases change : ticket.leverageChangeRequired with
  | true => exact ⟨by simp [issuedHistory, requestsOf, issuedEffects, issuedAggregate, change,
      KernelEffect.asksEntry], by simp [issuedHistory, requestsOf, issuedEffects, change,
      KernelEffect.asksLeverage]⟩
  | false => exact ⟨by simp [issuedHistory, requestsOf, issuedEffects, issuedAggregate, change,
      KernelEffect.asksEntry, unleveredStatuses], by simp [issuedHistory, requestsOf,
      issuedEffects, change, KernelEffect.asksLeverage]⟩

theorem moved (asked : AskedOnce past current) (on : AcceptedOn current event result) :
    AskedOnce (past ++ [accepted event result]) result.aggregate where
  entry := by
    have soFar := asked.entry
    rw [requestsOf_append, requestsOf_accepted]
    rcases entry_asked on with none | ⟨once, source, target⟩
    · rw [none, Nat.add_zero]
      refine soFar.trans ?_
      -- the statuses that wait for the leverage are not entered from outside
      have back := on.move.follows (fun edge =>
        edge.2 ∈ unleveredStatuses → edge.1 ∈ unleveredStatuses) (by decide)
      split_ifs with was is
      · exact le_rfl
      · exact Nat.zero_le 1
      · rename_i is
        exact absurd (back is) was
      · exact le_rfl
    · rw [if_pos source] at soFar
      rw [once, if_neg target]
      omega
  leverage := by
    rw [requestsOf_append, requestsOf_accepted, leverage_not_asked on, Nat.add_zero]
    exact asked.leverage

end AskedOnce

/-! ### The law -/

section Law

variable {history : List AcceptedEvent} {aggregate : TradeAggregate}

theorem askedOnce (run : LifecycleRun history aggregate) : AskedOnce history aggregate :=
  run.induct AskedOnce AskedOnce.issued fun asked on => asked.moved on

/-- A request for the ENTRY on a lifecycle arrives at a status that waits for the leverage. -/
theorem unlevered_of_asking {before : List AcceptedEvent} {asking : AcceptedEvent}
    (begun : LifecycleRun (before ++ [asking]) aggregate)
    (asks : 0 < asking.effects.countP KernelEffect.asksEntry) :
    before = [] ∨ ∃ current, LifecycleRun before current ∧ current.status ∈ unleveredStatuses := by
  obtain ⟨middle, soFar, result, reduced, effects, -⟩ := Run.snoc_iff.mp begun
  cases middle with
  | none =>
    refine .inl ?_
    cases before using List.reverseRecOn with
    | nil => rfl
    | append_singleton earlier entry =>
      obtain ⟨-, -, _, -, -, none⟩ := Run.snoc_iff.mp soFar
      exact absurd none (by simp)
  | some current =>
    obtain ⟨event, -, ticket, sequence, accepted⟩ := reduceEvent_some_eq_ok.mp reduced
    have on : AcceptedOn current event result := ⟨ticket, sequence, accepted⟩
    rcases entry_asked on with none | ⟨-, source, -⟩
    · rw [effects, none] at asks
      exact absurd asks (Nat.lt_irrefl 0)
    · exact .inr ⟨current, soFar, source⟩

/-- Whoever waits for the leverage has always waited for it. -/
theorem unlevered_before {earlier rest : List AcceptedEvent} {since : TradeAggregate}
    (run : LifecycleRun (earlier ++ rest) aggregate) (soFar : LifecycleRun earlier since)
    (waits : aggregate.status ∈ unleveredStatuses) : since.status ∈ unleveredStatuses := by
  obtain ⟨middle, begun, later⟩ := Run.append_iff.mp run
  have same : middle = some since := by
    refine Run.unique ?_ begun soFar
    exact fun accepts again => accepts_unique accepts again
  subst same
  exact status_before (by decide) later waits

/-- **The ENTRY is sent at most once.** -/
theorem entry_sent_once (run : LifecycleRun history aggregate) : SentOnce history where
  entry := by
    refine (askedOnce run).entry.trans ?_
    split_ifs
    · exact Nat.zero_le 1
    · exact le_rfl
  leverage := (askedOnce run).leverage
  unsettled := by
    rintro before asking later rfl asks entry member fact reports
    obtain ⟨_, begun, -⟩ := run.unconditional.through
    rcases unlevered_of_asking begun.run asks with rfl | ⟨current, soFar, waits⟩
    · simp at member
    · obtain ⟨earlier, rest, rfl⟩ := List.append_of_mem member
      rw [← List.singleton_append, ← List.append_assoc] at soFar
      obtain ⟨since, upTo, -⟩ := soFar.unconditional.through
      have waited := unlevered_before soFar upTo.run waits
      obtain ⟨_, event, result, -, rfl, on, -, rfl⟩ :=
        upTo.snoc_ticketEvent (by rw [reports]; simp)
      obtain rfl := Option.some.inj reports
      by_contra settles
      exact settled_status on (Bool.not_eq_false _ ▸ settles) waited
  flat := by
    rintro before asking later rfl asks earlier rest since rfl soFar
    obtain ⟨_, begun, -⟩ := run.unconditional.through
    rcases unlevered_of_asking begun.run asks with none | ⟨current, upTo, waits⟩
    · obtain ⟨rfl, rfl⟩ := List.append_eq_nil_iff.mp none
      exact absurd (Run.nil_iff.mp soFar) (by simp)
    · have waited := unlevered_before upTo soFar waits
      refine (capitalHeld soFar).flat ?_
      exact (by decide : ∀ status ∈ unleveredStatuses, status ∈ positionlessStatuses) _ waited

/-- The law on the run of a position that is assessed and protected. -/
theorem entry_sent_once_when_protected : ∃ history aggregate, LifecycleRun history aggregate ∧
    aggregate.status = .positionProtected ∧ SentOnce history := by
  obtain ⟨history, aggregate, run, reached⟩ := exists_run (fun _ _ => True) protectedFacts
    (fun _ aggregate => aggregate.status = .positionProtected) (by decide)
  exact ⟨history, aggregate, run.run, by simpa using reached, entry_sent_once run.run⟩

end Law

end TradingKernel
