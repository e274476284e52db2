/-
**`reconcile_ticket`: one Ticket against one snapshot of its netting domain.**

`planReconcile` is the decision of the use case: a result status, and the fact to record where there
is one. `reconcileTicket` records it through the reducer.
-/

import TradingKernel.Application.NextEvent
import TradingKernel.Domain.Commands
import TradingKernel.Domain.Moves
import TradingKernel.Domain.Position

namespace TradingKernel

open Text Guard Reducer

/-! ### What the use case reads and returns -/

inductive ReconcileTicketStatus where
  | noChange
  | lateFillIncident
  | entryFillRecorded
  | partialFillIncident
  | externalFlatIncident
  | positionFlatRecorded
  | protectionResidue
  | cancelAbsenceRecorded
  | ownedOrphanCancelRequested
  | unownedOrderIncident
  | matched
  deriving DecidableEq, Repr

/-- What the use case reads besides the aggregate and the snapshot: the time of the latest recorded
position, the kind of an open incident, and the Ticket's commands. -/
structure ReconcileView where
  latestObservedAtMs : Option ℤ
  openIncidentKind : Option String
  commands : List ExchangeCommand

/-- A result status, and the fact to record. -/
structure ReconcilePlan where
  status : ReconcileTicketStatus
  fact : Option PlainFact := none

/-- The result status, and the event that was recorded with its reduction. -/
structure ReconcileOutcome where
  status : ReconcileTicketStatus
  recorded : Option (TicketEvent × Reduction) := none

/-! ### The decision -/

def isKernelOwnedOrder (venueClientOrderId : Option String) : Bool :=
  "brc-".toList.isPrefixOf (venueClientOrderId.getD "").toList

/-- A cancel of the order that was sent or may still be sent. -/
def isCancelAttempt (exchangeOrderId : String) (command : ExchangeCommand) : Bool :=
  match command.payload with
  | .cancel payload => payload.exchangeOrderId.text = exchangeOrderId ∧
      command.status ∈ [.prepared, .claimed, .accepted, .outcomeUnknown]
  | _ => false

def hasCancelAttempt (commands : List ExchangeCommand) (exchangeOrderId : String) : Bool :=
  commands.any (isCancelAttempt exchangeOrderId)

def requiredAverageEntryPrice (snapshot : PositionSnapshot) : Except Raised ℚ :=
  demand snapshot.averageEntryPrice
    (.runtimeError "open position snapshot lacks average entry price")

/-- The risk of a full fill under the frozen limits of the Ticket, with the refusals of the
request's validators. -/
def assessFill (aggregate : TradeAggregate) (filledQuantity averageFillPrice : ℚ) :
    Except Raised PostFillRiskDecision :=
  if positive : 0 < filledQuantity ∧ 0 < averageFillPrice ∧
      0 < aggregate.ticket.initialStopPrice ∧ 0 < aggregate.ticket.plannedStopRiskBudget ∧
      0 < aggregate.ticket.postFillStopRiskLimit then
    if limit : aggregate.ticket.plannedStopRiskBudget ≤ aggregate.ticket.postFillStopRiskLimit then
      .ok (assessPostFillRisk {
        positionSide := aggregate.identity.nettingDomain.positionSide
        filledQuantity := filledQuantity
        averageFillPrice := averageFillPrice
        initialStopPrice := aggregate.ticket.initialStopPrice
        plannedStopRiskBudget := aggregate.ticket.plannedStopRiskBudget
        postFillStopRiskLimit := aggregate.ticket.postFillStopRiskLimit
        positive := positive
        limitCoversBudget := limit })
    else .error (.valueError "post-fill limit cannot undercut the planned budget")
  else .error (.valueError "post-fill risk values must be finite and positive")

/-- An accepted ENTRY: its full fill, a part of it, or nothing yet. -/
def planEntryAccepted (aggregate : TradeAggregate) (snapshot : PositionSnapshot) :
    Except Raised ReconcilePlan :=
  if snapshot.quantity = aggregate.ticket.quantity then do
    let price ← requiredAverageEntryPrice snapshot
    let risk ← assessFill aggregate snapshot.quantity price
    return ⟨.entryFillRecorded, some ⟨.entryFilled {
      filledQty := snapshot.quantity
      averageFillPrice := price
      postFillRisk := risk
      venueReportedLiquidationPrice := snapshot.venueReportedLiquidationPrice
      positionObservedAtMs := snapshot.observedAtMs }, rfl⟩⟩
  else if 0 < snapshot.quantity ∧ snapshot.quantity < aggregate.ticket.quantity then do
    let price ← requiredAverageEntryPrice snapshot
    return ⟨.partialFillIncident,
      some ⟨.entryPartiallyFilled snapshot.quantity aggregate.ticket.quantity price, rfl⟩⟩
  else return ⟨.noChange, none⟩

/-- An order of ours that is still open: cancel it, unless a cancel was attempted. -/
def planOrphan (view : ReconcileView) (exchangeOrderId : String)
    (orderNamespace : OrderNamespace) : ReconcilePlan :=
  if hasCancelAttempt view.commands exchangeOrderId then ⟨.protectionResidue, none⟩
  else ⟨.ownedOrphanCancelRequested,
    some ⟨.ownedOrphanOrderDetected exchangeOrderId orderNamespace, rfl⟩⟩

/-- Orders that may be left behind a closed position: a foreign order, a known order, any other
order of ours; and nothing left means that the Ticket closes. -/
def planCleanup (view : ReconcileView) (aggregate : TradeAggregate) (snapshot : PositionSnapshot) :
    ReconcilePlan :=
  if aggregate.pendingCancelExchangeOrderId ≠ none then ⟨.protectionResidue, none⟩
  else match snapshot.openOrders.find? fun order => !isKernelOwnedOrder order.venueClientOrderId with
  | some order =>
      if view.openIncidentKind = some "unowned_open_order" then ⟨.unownedOrderIncident, none⟩
      else ⟨.unownedOrderIncident, some ⟨.unownedOrderDetected order.exchangeOrderId, rfl⟩⟩
  | none =>
      match nextCleanupOrderId aggregate, snapshot.openOrders with
      | some known, orders =>
          if ¬ orders.any (fun order => order.exchangeOrderId.text = known) then
            ⟨.cancelAbsenceRecorded, some ⟨.ownedOrderAbsenceConfirmed known, rfl⟩⟩
          else planOrphan view known .conditional
      | none, owned :: _ => planOrphan view owned.exchangeOrderId owned.orderNamespace
      | none, [] =>
          if snapshot.quantity = 0 then ⟨.matched, some ⟨.reconciliationMatched none, rfl⟩⟩
          else ⟨.noChange, none⟩

/-- A cancel that failed: its order is still open, or it is gone. -/
def planFailedCancel (aggregate : TradeAggregate) (snapshot : PositionSnapshot) (target : String) :
    ReconcilePlan :=
  match snapshot.openOrders.find? fun order => order.exchangeOrderId.text = target with
  | some order =>
      if aggregate.status = .cancelOutcomeUnknown then ⟨.protectionResidue, none⟩
      else ⟨.ownedOrphanCancelRequested,
        some ⟨.ownedOrphanOrderDetected target order.orderNamespace, rfl⟩⟩
  | none => ⟨.cancelAbsenceRecorded, some ⟨.cancelOrderAbsenceConfirmed target, rfl⟩⟩

def planCancelRecovery (aggregate : TradeAggregate) (snapshot : PositionSnapshot) :
    Except Raised ReconcilePlan := do
  let target ← demand aggregate.pendingCancelExchangeOrderId
    (.runtimeError "cancel recovery state has no exact order identity")
  return planFailedCancel aggregate snapshot target

/-- The statuses of an exit that a flat position completes. -/
def exitStatuses : List AggregateStatus :=
  [.exitPending, .exitAccepted, .exitRejected, .exitOutcomeUnknown, .controlledFlattenPending,
    .controlledFlattenAccepted, .controlledFlattenRejected, .controlledFlattenOutcomeUnknown]

/-- The statuses in which the planner takes a flat position for an external one. -/
def plannedExternalFlatStatuses : List AggregateStatus :=
  [.tp1Pending, .tp1Rejected, .tp1OutcomeUnknown, .postFillRiskPending, .positionProtected,
    .runnerReplacementPending, .runnerReplacementRejected, .runnerReplacementOutcomeUnknown,
    .runnerOldStopCancelPending, .runnerOldStopCancelRejected, .runnerOldStopCancelOutcomeUnknown,
    .runnerProtected]

def planReconcile (view : ReconcileView) (aggregate : TradeAggregate)
    (snapshot : PositionSnapshot) : Except Raised ReconcilePlan :=
  if aggregate.status = .entryAccepted then planEntryAccepted aggregate snapshot
  else if aggregate.status ∈ exitStatuses ∧ snapshot.quantity = 0 then
    return ⟨.positionFlatRecorded, some ⟨.positionFlatConfirmed, rfl⟩⟩
  else if aggregate.status ∈ plannedExternalFlatStatuses ∧ snapshot.quantity = 0 then
    return ⟨.externalFlatIncident, some ⟨.externalFlatDetected, rfl⟩⟩
  else if aggregate.status = .reconciliationPending then
    return planCleanup view aggregate snapshot
  else if aggregate.status ∈ cancelStatuses then planCancelRecovery aggregate snapshot
  else return ⟨.noChange, none⟩

/-! ### The use case -/

/-- A position after the ENTRY was found absent: an incident, unless the snapshot is older than the
latest recorded position. -/
def lateFillStatus (view : ReconcileView) (snapshot : PositionSnapshot) : ReconcileTicketStatus :=
  if ∃ latest ∈ view.latestObservedAtMs, snapshot.observedAtMs < latest then .noChange
  else .lateFillIncident

/-- The planned event, where there is one, reduced and recorded. -/
def recordPlan (aggregate : TradeAggregate) (snapshot : PositionSnapshot) (plan : ReconcilePlan) :
    Except Raised ReconcileOutcome :=
  match plan.fact with
  | none => return ⟨plan.status, none⟩
  | some fact => do
      let recorded ← reduceNext aggregate fact snapshot.observedAtMs
      return ⟨plan.status, some recorded⟩

def reconcileTicket (view : ReconcileView) (aggregate : TradeAggregate)
    (snapshot : PositionSnapshot) : Except Raised ReconcileOutcome := do
  refuse (snapshot.nettingDomain ≠ aggregate.identity.nettingDomain)
    (.valueError "position snapshot Netting Domain mismatch")
  if aggregate.status = .entryReconciledAbsent ∧ 0 < snapshot.quantity then
    return ⟨lateFillStatus view snapshot, none⟩
  else do
    let plan ← planReconcile view aggregate snapshot
    recordPlan aggregate snapshot plan

/-! ### What is recorded -/

/-- What a snapshot makes the use case record of an aggregate. -/
inductive Reconciles (aggregate : TradeAggregate) (snapshot : PositionSnapshot) : TicketFact → Prop
  | filled (fact : EntryFilled) (status : aggregate.status = .entryAccepted)
      (whole : snapshot.quantity = aggregate.ticket.quantity)
      (read : fact.filledQty = snapshot.quantity) : Reconciles aggregate snapshot (.entryFilled fact)
  | partly (price : ℚ) (status : aggregate.status = .entryAccepted)
      (bounds : 0 < snapshot.quantity ∧ snapshot.quantity < aggregate.ticket.quantity) :
      Reconciles aggregate snapshot
        (.entryPartiallyFilled snapshot.quantity aggregate.ticket.quantity price)
  | exited (status : aggregate.status ∈ exitStatuses) (flat : snapshot.quantity = 0) :
      Reconciles aggregate snapshot .positionFlatConfirmed
  | lost (status : aggregate.status ∈ plannedExternalFlatStatuses) (flat : snapshot.quantity = 0) :
      Reconciles aggregate snapshot .externalFlatDetected
  | foreign (id : String) (status : aggregate.status = .reconciliationPending)
      (idle : aggregate.pendingCancelExchangeOrderId = none) :
      Reconciles aggregate snapshot (.unownedOrderDetected id)
  | gone (id : String) (status : aggregate.status = .reconciliationPending)
      (idle : aggregate.pendingCancelExchangeOrderId = none)
      (absent : ∀ order ∈ snapshot.openOrders, order.exchangeOrderId.text ≠ id) :
      Reconciles aggregate snapshot (.ownedOrderAbsenceConfirmed id)
  | orphan (id : String) (orderNamespace : OrderNamespace)
      (status : aggregate.status = .reconciliationPending)
      (idle : aggregate.pendingCancelExchangeOrderId = none) :
      Reconciles aggregate snapshot (.ownedOrphanOrderDetected id orderNamespace)
  | matched (status : aggregate.status = .reconciliationPending)
      (idle : aggregate.pendingCancelExchangeOrderId = none) (empty : snapshot.openOrders = [])
      (flat : snapshot.quantity = 0) : Reconciles aggregate snapshot (.reconciliationMatched none)
  | retried (id : String) (orderNamespace : OrderNamespace)
      (status : aggregate.status = .cancelRejected)
      (pending : aggregate.pendingCancelExchangeOrderId = some id) :
      Reconciles aggregate snapshot (.ownedOrphanOrderDetected id orderNamespace)
  | failed (id : String) (status : aggregate.status ∈ cancelStatuses)
      (pending : aggregate.pendingCancelExchangeOrderId = some id)
      (absent : ∀ order ∈ snapshot.openOrders, order.exchangeOrderId.text ≠ id) :
      Reconciles aggregate snapshot (.cancelOrderAbsenceConfirmed id)

section Recorded

variable {view : ReconcileView} {aggregate : TradeAggregate} {snapshot : PositionSnapshot}
  {plan : ReconcilePlan} {fact : PlainFact}

theorem Reconciles.of_planEntryAccepted (status : aggregate.status = .entryAccepted)
    (planned : planEntryAccepted aggregate snapshot = .ok plan) (records : plan.fact = some fact) :
    Reconciles aggregate snapshot fact.val := by
  unfold planEntryAccepted at planned
  split_ifs at planned with whole bounds
  · obtain ⟨price, -, planned⟩ := bind_eq_ok.mp planned
    obtain ⟨risk, -, planned⟩ := bind_eq_ok.mp planned
    obtain rfl := pure_eq_ok.mp planned
    obtain rfl := Option.some.inj records
    exact .filled _ status whole rfl
  · obtain ⟨price, -, planned⟩ := bind_eq_ok.mp planned
    obtain rfl := pure_eq_ok.mp planned
    obtain rfl := Option.some.inj records
    exact .partly price status bounds
  · obtain rfl := pure_eq_ok.mp planned
    simp at records

theorem Reconciles.of_planOrphan {id : String} {orderNamespace : OrderNamespace}
    (status : aggregate.status = .reconciliationPending)
    (idle : aggregate.pendingCancelExchangeOrderId = none)
    (records : (planOrphan view id orderNamespace).fact = some fact) :
    Reconciles aggregate snapshot fact.val := by
  unfold planOrphan at records
  split_ifs at records
  obtain rfl := Option.some.inj records
  exact .orphan id orderNamespace status idle

theorem Reconciles.of_planCleanup (status : aggregate.status = .reconciliationPending)
    (records : (planCleanup view aggregate snapshot).fact = some fact) :
    Reconciles aggregate snapshot fact.val := by
  unfold planCleanup at records
  by_cases idle : aggregate.pendingCancelExchangeOrderId = none
  swap
  · rw [if_pos idle] at records
    simp at records
  rw [if_neg (not_not.mpr idle)] at records
  split at records
  · split_ifs at records
    obtain rfl := Option.some.inj records
    exact .foreign _ status idle
  · split at records
    · rename_i known next
      split_ifs at records with absent
      · exact of_planOrphan status idle records
      · obtain rfl := Option.some.inj records
        refine .gone known status idle fun order member same => absent ?_
        exact List.any_eq_true.mpr ⟨order, member, by simpa using same⟩
    · exact of_planOrphan status idle records
    · rename_i next empty
      split_ifs at records with flat
      obtain rfl := Option.some.inj records
      exact .matched status idle empty flat

theorem Reconciles.of_planCancelRecovery (status : aggregate.status ∈ cancelStatuses)
    (planned : planCancelRecovery aggregate snapshot = .ok plan)
    (records : plan.fact = some fact) : Reconciles aggregate snapshot fact.val := by
  obtain ⟨target, pending, planned⟩ := demand_bind_eq_ok.mp planned
  obtain rfl := pure_eq_ok.mp planned
  unfold planFailedCancel at records
  split at records
  · split_ifs at records with unknown
    obtain rfl := Option.some.inj records
    have rejected : aggregate.status = .cancelRejected := by
      simpa [cancelStatuses, unknown] using status
    exact .retried target _ rejected pending
  · rename_i absent
    obtain rfl := Option.some.inj records
    refine .failed target status pending fun order member => ?_
    simpa using List.find?_eq_none.mp absent order member

/-- **What the planner records.** -/
theorem Reconciles.of_planReconcile (planned : planReconcile view aggregate snapshot = .ok plan)
    (records : plan.fact = some fact) : Reconciles aggregate snapshot fact.val := by
  unfold planReconcile at planned
  split_ifs at planned with entry exit external cleaning cancelling
  · exact of_planEntryAccepted entry planned records
  · obtain rfl := pure_eq_ok.mp planned
    obtain rfl := Option.some.inj records
    exact .exited exit.1 exit.2
  · obtain rfl := pure_eq_ok.mp planned
    obtain rfl := Option.some.inj records
    exact .lost external.1 external.2
  · obtain rfl := pure_eq_ok.mp planned
    exact of_planCleanup cleaning records
  · exact of_planCancelRecovery cancelling planned records
  · obtain rfl := pure_eq_ok.mp planned
    simp at records

/-- What the use case records is planned, and reduced. -/
theorem recorded_of_reconcileTicket {outcome : ReconcileOutcome} {event : TicketEvent}
    {reduction : Reduction} (returned : reconcileTicket view aggregate snapshot = .ok outcome)
    (records : outcome.recorded = some (event, reduction)) :
    Reconciles aggregate snapshot event.fact ∧
      reduceEvent (some aggregate) (.ticketEvent event) = .ok reduction := by
  obtain ⟨-, returned⟩ := refuse_bind_eq_ok.mp returned
  split_ifs at returned
  · obtain rfl := pure_eq_ok.mp returned
    simp at records
  · obtain ⟨plan, planned, recorded⟩ := bind_eq_ok.mp returned
    unfold recordPlan at recorded
    split at recorded
    · obtain rfl := pure_eq_ok.mp recorded
      simp at records
    · rename_i fact planFact
      obtain ⟨recordedPair, reduced, recorded⟩ := bind_eq_ok.mp recorded
      obtain rfl := pure_eq_ok.mp recorded
      obtain rfl := Option.some.inj records
      obtain ⟨same, -, accepted⟩ := reduceNext_eq_ok reduced
      exact ⟨same ▸ .of_planReconcile planned planFact, accepted⟩

end Recorded

end TradingKernel
