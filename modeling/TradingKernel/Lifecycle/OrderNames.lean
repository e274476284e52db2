/-
**The order ids of an aggregate are real ids, and a failed cancel names its order.**

`Identified` says that every order id an aggregate holds has passed the strip-and-require validator,
that a cleanup cancel that failed still names its order, and that the sequence has begun. It holds
along every run.
-/

import TradingKernel.Lifecycle.Runs

namespace TradingKernel

open Text Reducer

/-- An id, where there is one, is its own strip and is not empty. -/
def Named (held : Option String) : Prop := ∀ id ∈ held, strip id = id ∧ id ≠ ""

theorem named_none : Named none := fun _ held => absurd held (by simp)

theorem named_strip {id : String} (named : ¬ Blank id) : Named (some (strip id)) := by
  rintro _ ⟨⟩
  exact ⟨strip_strip id, named⟩

theorem Named.not_blank {held : Option String} {id : String} (named : Named held)
    (holds : held = some id) : ¬ Blank id := by
  obtain ⟨stripped, nonempty⟩ := named id holds
  rwa [Blank, stripped]

theorem Named.forget {held : Option String} (named : Named held) (id : String) :
    Named (forget id held) :=
  fun _ kept => named _ (forget_eq_some.mp kept).1

/-- The order ids that events are compared with. -/
def heldOrderIds (aggregate : TradeAggregate) : List (Option String) :=
  [aggregate.entryExchangeOrderId, aggregate.tp1ExchangeOrderId,
    aggregate.activeStopExchangeOrderId, aggregate.initialStopExchangeOrderId,
    aggregate.pendingReplacedStopExchangeOrderId, aggregate.pendingCancelExchangeOrderId]

structure Identified (aggregate : TradeAggregate) : Prop where
  begun : 0 < aggregate.lastEventSequence
  held : ∀ held ∈ heldOrderIds aggregate, Named held
  cancelling : aggregate.status ∈ cancelStatuses → aggregate.pendingCancelExchangeOrderId ≠ none

namespace Identified

variable {current : TradeAggregate} {event : TicketEvent} {status : AggregateStatus}
  {updates : TradeAggregate → TradeAggregate} {effects : List KernelEffect}

theorem entry (identified : Identified current) : Named current.entryExchangeOrderId :=
  identified.held _ (by simp [heldOrderIds])

theorem tp1 (identified : Identified current) : Named current.tp1ExchangeOrderId :=
  identified.held _ (by simp [heldOrderIds])

theorem active (identified : Identified current) : Named current.activeStopExchangeOrderId :=
  identified.held _ (by simp [heldOrderIds])

theorem initial (identified : Identified current) : Named current.initialStopExchangeOrderId :=
  identified.held _ (by simp [heldOrderIds])

theorem replaced (identified : Identified current) :
    Named current.pendingReplacedStopExchangeOrderId :=
  identified.held _ (by simp [heldOrderIds])

theorem pendingCancel (identified : Identified current) :
    Named current.pendingCancelExchangeOrderId :=
  identified.held _ (by simp [heldOrderIds])

/-- The ids to clean up are real. -/
theorem cleanup (identified : Identified current) {id : String}
    (known : id ∈ knownCleanupOrderIds current) : Named (some id) := by
  rcases mem_knownCleanupOrderIds.mp known with tp1 | active | initial
  · exact tp1 ▸ identified.tp1
  · exact active ▸ identified.active
  · exact initial ▸ identified.initial

theorem issued (ticket : TradeTicket) : Identified (issuedAggregate ticket 1) where
  begun := one_pos
  held held member := by
    simp only [heldOrderIds, issuedAggregate, List.mem_cons, List.not_mem_nil, or_false,
      or_self] at member
    exact member ▸ named_none
  cancelling cancelling := absurd cancelling (issued_not_mem ticket (by decide))

/-- A move after which every id is an earlier one or a real one. -/
theorem renamed (identified : Identified current)
    (ids : ∀ held ∈ heldOrderIds (updates current), held ∈ heldOrderIds current ∨ Named held)
    (cancelling : status ∈ cancelStatuses →
      (updates current).pendingCancelExchangeOrderId ≠ none) :
    Identified (transition current event status updates effects).aggregate where
  begun := event.positive.1
  held held member := by
    rcases ids held member with earlier | named
    · exact identified.held held earlier
    · exact named
  cancelling := cancelling

/-- A move to a status without a failed cancel, that leaves every id alone. -/
theorem same (identified : Identified current) (target : status ∉ cancelStatuses)
    (ids : heldOrderIds (updates current) = heldOrderIds current := by rfl) :
    Identified (transition current event status updates effects).aggregate :=
  identified.renamed (fun _ member => .inl (ids ▸ member)) fun cancel => absurd cancel target

/-- **Every move keeps the ids real.** -/
theorem moved (identified : Identified current) {fact : TicketFact} {result : Reduction}
    (move : Move current event fact result) : Identified result.aggregate := by
  cases move with
  | kept quiet edge silent cancelling =>
    exact identified.renamed (fun _ => .inl) cancelling
  | closedUnfilled unfilled edge empty silent =>
    have target := (by decide : ∀ pair ∈ unfilledEdges, pair.2 ∉ cancelStatuses) _ edge
    exact identified.same target
  | entryAccepted member named =>
    refine identified.renamed ?_ fun cancel => absurd cancel (by decide)
    simp [heldOrderIds, recordEntry, named_strip named]
  | @entryFilled fact member full =>
    have target := (by decide : ∀ status ∈ ([.controlledFlattenPending, .protectionPending] :
      List AggregateStatus), status ∉ cancelStatuses) _ (entryFilledTarget_mem fact)
    exact identified.same target
  | entryVacuumCancelRequested member unfinished silent held =>
    refine identified.renamed ?_ fun cancel => absurd cancel (by decide)
    simp [heldOrderIds, held]
  | entryVacuumOrderAbsenceConfirmed member bounded silent =>
    refine identified.renamed ?_ fun cancel => absurd cancel (by decide)
    simp [heldOrderIds, named_none]
  | initialStopConfirmed member target covers named silent =>
    have calm := (by decide : ∀ status ∈ ([.controlledFlattenPending, .postFillRiskPending] :
      List AggregateStatus), status ∉ cancelStatuses) _ target
    refine identified.renamed ?_ fun cancel => absurd cancel calm
    simp [heldOrderIds, stopUpdates, named_strip named]
  | takeProfitConfirmed member named silent =>
    refine identified.renamed ?_ fun cancel => absurd cancel (by decide)
    simp [heldOrderIds, named_strip named]
  | takeProfitFilled status target active runner floor =>
    refine identified.renamed ?_ fun cancel => absurd cancel (by decide)
    simp [heldOrderIds, named_none]
  | protectionReplacementConfirmed member named covers replaces silent =>
    refine identified.renamed ?_ fun cancel => absurd cancel (by decide)
    simp [heldOrderIds, Reducer.replaced, named_strip named, replaces]
  | exitOrderAccepted loud edge silent =>
    have target := (by decide : ∀ pair ∈ exitEdges, pair.2 ∉ cancelStatuses) _ edge
    exact identified.same target
  | positionFlatConfirmed member =>
    refine identified.renamed ?_ fun cancel => absurd cancel (by decide)
    cases next : nextCleanupOrderId current with
    | none => simp [heldOrderIds]
    | some id => simp [heldOrderIds, identified.cleanup (nextCleanupOrderId_mem next)]
  | externalFlatDetected member next =>
    refine identified.renamed ?_ fun cancel => absurd cancel (by decide)
    simp [heldOrderIds, identified.cleanup (nextCleanupOrderId_mem next)]
  | ownedOrphanOrderDetected member named silent =>
    refine identified.renamed ?_ fun cancel => absurd cancel (by decide)
    simp [heldOrderIds, named_strip named]
  | @cleared fact id effects clears member silent =>
    refine identified.renamed ?_ fun cancel => absurd cancel (by decide)
    simp [heldOrderIds, clearCleanupOrder, named_none, identified.tp1.forget id,
      identified.active.forget id, identified.initial.forget id]
  | @oldStopGone fact id effects gone member pending silent =>
    refine identified.renamed ?_ fun cancel => absurd cancel (by decide)
    simp [heldOrderIds, Reducer.oldStopGone, named_none, identified.initial.forget id]
  | _ => exact identified.same (by decide)

end Identified

/-- The ids are real along every run. -/
theorem identified {history : List AcceptedEvent} {aggregate : TradeAggregate}
    (run : LifecycleRun history aggregate) : Identified aggregate :=
  run.invariant Identified Identified.issued fun identified on => identified.moved on.move

end TradingKernel
