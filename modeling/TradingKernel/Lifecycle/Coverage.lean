/-
**A protected position is covered by its stop.**

`Covered` is the coverage relation as an invariant of all branches: where the position is open it is
positive; where its stop is confirmed there is an active stop with a price, at least as large as the
position, and exactly as large unless a runner replacement is under way; and in every status a
protected quantity names the stop that protects it. Every move keeps it, so the protected statuses of
every run are covered (`protected_position_covered`).
-/

import TradingKernel.Lifecycle.StressGate

namespace TradingKernel

open Text Reducer

/-! ### The statuses of an open position -/

/-- The statuses in which the initial stop is confirmed and the position is open. -/
def stoppedStatuses : List AggregateStatus := .postFillRiskPending :: gatedStatuses

/-- The statuses in which the position is open and its stop is awaited or confirmed. -/
def positionedStatuses : List AggregateStatus :=
  .protectionPending :: .initialStopOutcomeUnknown :: stoppedStatuses

/-- The statuses in which the runner's stop still has the size of the position before TP1. -/
def replacementStatuses : List AggregateStatus :=
  [.runnerReplacementPending, .runnerReplacementRejected, .runnerReplacementOutcomeUnknown]

/-- A change of status that asks for no more coverage than was there. -/
def Follows (source target : AggregateStatus) : Prop :=
  (target ∈ positionedStatuses → source ∈ positionedStatuses) ∧
    (target ∈ stoppedStatuses → source ∈ stoppedStatuses) ∧
    (target ∈ stoppedStatuses → target ∉ replacementStatuses → source ∉ replacementStatuses)

instance (source target : AggregateStatus) : Decidable (Follows source target) :=
  inferInstanceAs (Decidable (_ ∧ _ ∧ _))

/-! ### The invariant -/

/-- The coverage relation of an aggregate. -/
structure Covered (aggregate : TradeAggregate) : Prop where
  positioned : aggregate.status ∈ positionedStatuses → 0 < aggregate.positionQty
  stopped : aggregate.status ∈ stoppedStatuses →
    aggregate.activeStopExchangeOrderId.isSome ∧ aggregate.activeStopPrice.isSome ∧
      aggregate.positionQty ≤ aggregate.protectedQty
  tight : aggregate.status ∈ stoppedStatuses → aggregate.status ∉ replacementStatuses →
    aggregate.protectedQty = aggregate.positionQty
  identified : aggregate.protectedQty ≠ 0 → aggregate.activeStopExchangeOrderId.isSome
  targetNonneg : 0 ≤ aggregate.tp1TargetQty

/-- The quantities and the stop are as before. -/
structure SameExposure (current next : TradeAggregate) : Prop where
  position : next.positionQty = current.positionQty := by rfl
  cover : next.protectedQty = current.protectedQty := by rfl
  stop : next.activeStopExchangeOrderId = current.activeStopExchangeOrderId := by rfl
  price : next.activeStopPrice = current.activeStopPrice := by rfl
  target : next.tp1TargetQty = current.tp1TargetQty := by rfl

namespace Covered

variable {current : TradeAggregate} {event : TicketEvent} {status : AggregateStatus}
  {updates : TradeAggregate → TradeAggregate} {effects : List KernelEffect}

theorem issued (ticket : TradeTicket) : Covered (issuedAggregate ticket 1) where
  positioned isOpen := absurd isOpen (issued_not_mem ticket (by decide))
  stopped stop := absurd stop (issued_not_mem ticket (by decide))
  tight stop := absurd stop (issued_not_mem ticket (by decide))
  identified cover := absurd rfl cover
  targetNonneg := le_rfl

/-- A move that asks for no more coverage and leaves the exposure alone. -/
theorem same (covered : Covered current) {sources : List AggregateStatus}
    (member : current.status ∈ sources) (follows : ∀ source ∈ sources, Follows source status)
    (exposure : SameExposure current (updates current)) :
    Covered (transition current event status updates effects).aggregate := by
  obtain ⟨positioned, stopped, replacement⟩ := follows _ member
  obtain ⟨position, cover, stop, price, target⟩ := exposure
  constructor
  · intro isOpen
    simpa [position] using covered.positioned (positioned isOpen)
  · intro behind
    simpa [position, cover, stop, price] using covered.stopped (stopped behind)
  · intro behind settled
    simpa [position, cover] using covered.tight (stopped behind) (replacement behind settled)
  · simpa [cover, stop] using covered.identified
  · simpa [target] using covered.targetNonneg

/-- The same along an edge. -/
theorem alongEdge (covered : Covered current) {edges : List (AggregateStatus × AggregateStatus)}
    (edge : (current.status, status) ∈ edges) (follows : ∀ pair ∈ edges, Follows pair.1 pair.2)
    (exposure : SameExposure current (updates current)) :
    Covered (transition current event status updates effects).aggregate :=
  covered.same (List.mem_singleton.mpr (Eq.refl current.status))
    (fun _ source => List.mem_singleton.mp source ▸ follows _ edge) exposure

/-- A move to a status that asks for no confirmed stop. -/
theorem unstopped (target : status ∉ stoppedStatuses)
    (positioned : status ∈ positionedStatuses → 0 < (updates current).positionQty)
    (identified : (updates current).protectedQty ≠ 0 →
      (updates current).activeStopExchangeOrderId.isSome)
    (nonneg : 0 ≤ (updates current).tp1TargetQty) :
    Covered (transition current event status updates effects).aggregate where
  positioned := positioned
  stopped stop := absurd stop target
  tight stop := absurd stop target
  identified := identified
  targetNonneg := nonneg

/-- A move to a status without an open position, that leaves the stop alone. -/
theorem closed (covered : Covered current) (target : status ∉ positionedStatuses)
    (cover : (updates current).protectedQty = current.protectedQty)
    (stop : (updates current).activeStopExchangeOrderId = current.activeStopExchangeOrderId)
    (tp1 : (updates current).tp1TargetQty = current.tp1TargetQty) :
    Covered (transition current event status updates effects).aggregate := by
  refine unstopped (fun stop => target ?_) (fun isOpen => absurd isOpen target) ?_ ?_
  · exact List.mem_cons_of_mem _ (List.mem_cons_of_mem _ stop)
  · rw [cover, stop]
    exact covered.identified
  · rw [tp1]
    exact covered.targetNonneg

/-- A move to a status behind a stop of exactly the position's size. -/
theorem matched (covered : Covered current) (positive : 0 < (updates current).positionQty)
    (stop : (updates current).activeStopExchangeOrderId.isSome)
    (price : (updates current).activeStopPrice.isSome)
    (fits : (updates current).protectedQty = (updates current).positionQty)
    (tp1 : (updates current).tp1TargetQty = current.tp1TargetQty) :
    Covered (transition current event status updates effects).aggregate where
  positioned _ := positive
  stopped _ := ⟨stop, price, fits.ge⟩
  tight _ _ := fits
  identified _ := stop
  targetNonneg := le_of_le_of_eq covered.targetNonneg tp1.symm

/-- The exit leg of a passed assessment is positive. -/
theorem tp1Quantity_pos {tp1Quantity : ℚ} (legs : tp1Quantities current = [tp1Quantity]) :
    0 < tp1Quantity := by
  unfold tp1Quantities at legs
  split_ifs at legs with retained
  · obtain rfl := List.singleton_inj.mp legs
    exact retained
  · exact current.ticket.takeProfitQuantity_pos (legs ▸ List.mem_singleton.mpr rfl)

/-- **Every move keeps the coverage.** -/
theorem moved (covered : Covered current) {fact : TicketFact} {result : Reduction}
    (move : Move current event fact result) : Covered result.aggregate := by
  cases move with
  | kept quiet edge silent => exact covered.alongEdge edge (by decide) {}
  | closedUnfilled unfilled edge empty silent => exact covered.alongEdge edge (by decide) {}
  | entryAccepted member named => exact covered.same member (by decide) {}
  | entryFilled member full =>
    rename_i fact
    have target := (by decide : ∀ status ∈ ([.controlledFlattenPending, .protectionPending] :
      List AggregateStatus), status ∉ stoppedStatuses) _ (entryFilledTarget_mem fact)
    have positive : 0 < fact.filledQty := full ▸ current.ticket.quantity_pos
    exact unstopped target (fun _ => positive) covered.identified covered.targetNonneg
  | entryPartiallyFilled member some_of whole silent => exact covered.closed (by decide) rfl rfl rfl
  | entryVacuumCancelRequested member unfinished silent =>
    exact covered.closed (by decide) rfl rfl rfl
  | entryVacuumOrderAbsenceConfirmed member bounded silent =>
    exact covered.closed (by decide) rfl rfl rfl
  | vacuumLateFillAttributed status empty bounded => exact covered.closed (by decide) rfl rfl rfl
  | vacuumPartialRetained status exposure silent =>
    rename_i fact effects
    have positive : 0 < current.positionQty := exposure ▸ fact.positive.2.1
    exact unstopped (by decide) (fun _ => positive) covered.identified
      fact.positive.2.2.2.2.1.le
  | initialStopConfirmed member target covers named silent =>
    have positive : 0 < current.positionQty :=
      covered.positioned ((by decide : ∀ status ∈ ([.protectionPending,
        .initialStopOutcomeUnknown] : List AggregateStatus), status ∈ positionedStatuses) _ member)
    exact covered.matched positive rfl rfl covers rfl
  | stressFailed status failed => exact covered.closed (by decide) rfl rfl rfl
  | stressPassed status passed legs runner =>
    have stopped : current.status ∈ stoppedStatuses := by
      rw [status]
      decide
    obtain ⟨stop, price, -⟩ := covered.stopped stopped
    have positive : 0 < current.positionQty := (tp1Quantity_pos legs).trans runner
    have fits : current.protectedQty = current.positionQty :=
      covered.tight stopped (by rw [status]; decide)
    exact ⟨fun _ => positive, fun _ => ⟨stop, price, fits.ge⟩, fun _ _ => fits,
      covered.identified, (tp1Quantity_pos legs).le⟩
  | takeProfitConfirmed member named silent => exact covered.same member (by decide) {}
  | takeProfitFilled status target active runner floor =>
    rename_i fact activeStop
    have stopped : current.status ∈ stoppedStatuses := by
      rw [status]
      decide
    obtain ⟨stop, price, covers⟩ := covered.stopped stopped
    have sold : 0 ≤ fact.filledQty := target ▸ covered.targetNonneg
    have smaller : current.positionQty - fact.filledQty ≤ current.positionQty :=
      sub_le_self _ sold
    refine ⟨fun _ => sub_pos.mpr runner, fun _ => ⟨stop, price, smaller.trans covers⟩,
      fun _ settled => absurd ?_ settled, covered.identified, covered.targetNonneg⟩
    show AggregateStatus.runnerReplacementPending ∈ replacementStatuses
    decide
  | runnerStopRequested status => exact covered.same (List.mem_singleton.mpr status) (by decide) {}
  | protectionReplacementConfirmed member named covers replaces silent =>
    have positive : 0 < current.positionQty :=
      covered.positioned ((by decide : ∀ status ∈ ([.runnerReplacementPending,
        .runnerReplacementOutcomeUnknown] : List AggregateStatus), status ∈ positionedStatuses)
          _ member)
    exact covered.matched positive rfl rfl covers rfl
  | exitOrderAccepted loud edge silent => exact covered.alongEdge edge (by decide) {}
  | positionFlatConfirmed member => exact covered.closed (by decide) rfl rfl rfl
  | externalFlatDetected member next => exact covered.closed (by decide) rfl rfl rfl
  | ownedOrphanOrderDetected member named silent => exact covered.closed (by decide) rfl rfl rfl
  | cleared clears member silent =>
    rename_i id effects
    refine unstopped (by decide) (fun isOpen => absurd isOpen (by decide)) ?_ covered.targetNonneg
    intro remains
    by_cases active : current.activeStopExchangeOrderId = some id
    · simp [clearCleanupOrder, active] at remains
    · simp only [clearCleanupOrder, active, if_false] at remains
      simpa [clearCleanupOrder, forget, active] using covered.identified remains
  | oldStopGone gone member pending silent => exact covered.same member (by decide) {}
  | reconciliationMatched status clean unprotected settled =>
    exact covered.closed (by decide) rfl rfl rfl
  | reviewed review member => exact covered.closed (by decide) rfl rfl rfl

end Covered

/-! ### The law -/

section Law

variable {history : List AcceptedEvent} {aggregate : TradeAggregate}

/-- The invariant holds along every run. -/
theorem covered (run : LifecycleRun history aggregate) : Covered aggregate :=
  run.invariant Covered Covered.issued fun covered on => covered.moved on.move

end Law

end TradingKernel
