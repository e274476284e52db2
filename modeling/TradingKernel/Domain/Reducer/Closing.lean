/-
**Branches of the reducer: exit, flatten, flat positions, order cleanup and closure.**
-/

import TradingKernel.Domain.Reducer.Families

namespace TradingKernel.Reducer

open Text Guard

variable {current : TradeAggregate} {event : TicketEvent} {result : Reduction}

/-! ### Exit and controlled flatten -/

def recordExit (exchangeOrderId : String) (current : TradeAggregate) : TradeAggregate :=
  { current with exitExchangeOrderId := some exchangeOrderId }

def exitRequested (current : TradeAggregate) (event : TicketEvent) (reason : String) :
    Reduced Reduction := do
  requireStatusIn current [.positionProtected, .runnerProtected, .exitRejected]
  refuse (strip reason = "") ⟨"exit reason is required"⟩
  return transition current event .exitPending unchanged
    [.prepareExitCommand current.ticketId current.positionQty (strip reason)]

theorem exitRequested_eq_ok {reason : String} :
    exitRequested current event reason = .ok result ↔
      current.status ∈ [.positionProtected, .runnerProtected, .exitRejected] ∧ ¬ Blank reason ∧
        result = transition current event .exitPending unchanged
          [.prepareExitCommand current.ticketId current.positionQty (strip reason)] := by
  simp only [exitRequested, requireStatusIn_bind_eq_ok, refuse_bind_eq_ok, pure_eq_ok, Blank]

def exitAccepted (current : TradeAggregate) (event : TicketEvent) (exchangeOrderId : String) :
    Reduced Reduction :=
  orderAccepted current event [.exitPending, .exitOutcomeUnknown] exchangeOrderId
    "EXIT acceptance requires order identity" .exitAccepted recordExit .exitOutcomeUnknown
    "exit_outcome_unknown"

def exitRejected (current : TradeAggregate) (event : TicketEvent) (reason : String) :
    Reduced Reduction :=
  reported current event (requireStatus current .exitPending) reason
    "EXIT rejection requires reason" .exitRejected "exit_rejected"

def exitOutcomeUnknown (current : TradeAggregate) (event : TicketEvent) (reason : String) :
    Reduced Reduction :=
  reported current event (requireStatus current .exitPending) reason
    "EXIT unknown outcome requires reason" .exitOutcomeUnknown "exit_outcome_unknown"

def exitAbsenceConfirmed (current : TradeAggregate) (event : TicketEvent) (commandId : String) :
    Reduced Reduction :=
  absenceConfirmed current .exitOutcomeUnknown commandId
    "reconciled EXIT absence requires command identity"
    (.ok (transition current event .exitRejected unchanged
      [current.resolveIncident "exit_outcome_unknown"]))

def controlledFlattenAccepted (current : TradeAggregate) (event : TicketEvent)
    (exchangeOrderId : String) : Reduced Reduction :=
  orderAccepted current event [.controlledFlattenPending, .controlledFlattenOutcomeUnknown]
    exchangeOrderId "controlled flatten requires order identity" .controlledFlattenAccepted
    recordExit .controlledFlattenOutcomeUnknown "controlled_flatten_outcome_unknown"

def controlledFlattenRejected (current : TradeAggregate) (event : TicketEvent) (reason : String) :
    Reduced Reduction :=
  reported current event (requireStatus current .controlledFlattenPending) reason
    "controlled flatten rejection requires reason" .controlledFlattenRejected
    "controlled_flatten_rejected"

def controlledFlattenOutcomeUnknown (current : TradeAggregate) (event : TicketEvent)
    (reason : String) : Reduced Reduction :=
  reported current event (requireStatus current .controlledFlattenPending) reason
    "unknown controlled flatten requires reason" .controlledFlattenOutcomeUnknown
    "controlled_flatten_outcome_unknown"

def controlledFlattenAbsenceConfirmed (current : TradeAggregate) (event : TicketEvent)
    (commandId : String) : Reduced Reduction :=
  absenceConfirmed current .controlledFlattenOutcomeUnknown commandId
    "reconciled controlled flatten absence requires command identity"
    (.ok (transition current event .controlledFlattenRejected unchanged
      [current.resolveIncident "controlled_flatten_outcome_unknown",
        current.openIncident "controlled_flatten_absent"]))

/-! ### Flat positions -/

def cancelCleanup (current : TradeAggregate) (exchangeOrderId : String) : KernelEffect :=
  .cancelProtectionOrders current.ticketId exchangeOrderId .conditional .reconciliationCleanup

/-- The position is gone; the first order id to clean up, where there is one, is being cancelled,
and the lane is free. -/
def flattened (current : TradeAggregate) (event : TicketEvent) : Reduction :=
  transition current event .reconciliationPending
    (fun current => { current with
      positionQty := 0
      pendingCancelExchangeOrderId :=
        (nextCleanupOrderId current).or current.pendingCancelExchangeOrderId
      entryLaneHeld := false })
    ((nextCleanupOrderId current).toList.map (cancelCleanup current) ++
      if current.entryLaneHeld then [.releaseEntryLane current.ticketId] else [])

def positionFlatConfirmed (current : TradeAggregate) (event : TicketEvent) :
    Reduced Reduction := do
  requireStatusIn current [.exitPending, .exitAccepted, .exitRejected, .exitOutcomeUnknown,
    .controlledFlattenPending, .controlledFlattenAccepted, .controlledFlattenRejected,
    .controlledFlattenOutcomeUnknown]
  return flattened current event

theorem positionFlatConfirmed_eq_ok : positionFlatConfirmed current event = .ok result ↔
    current.status ∈ [.exitPending, .exitAccepted, .exitRejected, .exitOutcomeUnknown,
        .controlledFlattenPending, .controlledFlattenAccepted, .controlledFlattenRejected,
        .controlledFlattenOutcomeUnknown] ∧
      result = flattened current event := by
  simp only [positionFlatConfirmed, requireStatusIn_bind_eq_ok, pure_eq_ok]

/-- The statuses of a protected position that an external flat is accepted from. -/
def externalFlatStatuses : List AggregateStatus :=
  [.tp1Pending, .tp1Rejected, .tp1OutcomeUnknown, .positionProtected, .runnerReplacementPending,
    .runnerReplacementRejected, .runnerReplacementOutcomeUnknown, .runnerOldStopCancelPending,
    .runnerOldStopCancelRejected, .runnerOldStopCancelOutcomeUnknown, .runnerProtected]

/-- The position is gone without an exit of ours: an incident opens, and the first order id is
being cancelled. -/
def externallyFlattened (current : TradeAggregate) (event : TicketEvent) (cleanupOrderId : String) :
    Reduction :=
  transition current event .reconciliationPending
    (fun current => { current with
      positionQty := 0
      pendingCancelExchangeOrderId := some cleanupOrderId })
    [current.openIncident "external_flat", cancelCleanup current cleanupOrderId]

def externalFlatDetected (current : TradeAggregate) (event : TicketEvent) :
    Reduced Reduction := do
  requireStatusIn current externalFlatStatuses
  let cleanupOrderId ← demand (nextCleanupOrderId current)
    ⟨"external flat has no owned order identity"⟩
  return externallyFlattened current event cleanupOrderId

theorem externalFlatDetected_eq_ok : externalFlatDetected current event = .ok result ↔
    current.status ∈ externalFlatStatuses ∧
      ∃ cleanupOrderId, nextCleanupOrderId current = some cleanupOrderId ∧
        result = externallyFlattened current event cleanupOrderId := by
  simp only [externalFlatDetected, requireStatusIn_bind_eq_ok, demand_bind_eq_ok, pure_eq_ok]

/-! ### Open orders without a position -/

def ownedOrphanOrderDetected (current : TradeAggregate) (event : TicketEvent)
    (exchangeOrderId : String) (orderNamespace : OrderNamespace) : Reduced Reduction := do
  requireStatusIn current [.reconciliationPending, .cancelRejected]
  refuse (strip exchangeOrderId = "") ⟨"owned orphan order identity is required"⟩
  return transition current event .reconciliationPending
    (fun current => { current with pendingCancelExchangeOrderId := some (strip exchangeOrderId) })
    [.cancelProtectionOrders current.ticketId (strip exchangeOrderId) orderNamespace
      .reconciliationCleanup]

theorem ownedOrphanOrderDetected_eq_ok {exchangeOrderId : String}
    {orderNamespace : OrderNamespace} :
    ownedOrphanOrderDetected current event exchangeOrderId orderNamespace = .ok result ↔
      current.status ∈ [.reconciliationPending, .cancelRejected] ∧ ¬ Blank exchangeOrderId ∧
        result = transition current event .reconciliationPending
          (fun current => { current with
            pendingCancelExchangeOrderId := some (strip exchangeOrderId) })
          [.cancelProtectionOrders current.ticketId (strip exchangeOrderId) orderNamespace
            .reconciliationCleanup] := by
  simp only [ownedOrphanOrderDetected, requireStatusIn_bind_eq_ok, refuse_bind_eq_ok, pure_eq_ok,
    Blank]

/-- The order is accounted for, and reconciliation goes on. -/
def cleared (current : TradeAggregate) (event : TicketEvent) (exchangeOrderId : String)
    (effects : List KernelEffect) : Reduction :=
  transition current event .reconciliationPending (clearCleanupOrder exchangeOrderId) effects

def ownedOrderAbsenceConfirmed (current : TradeAggregate) (event : TicketEvent)
    (exchangeOrderId : String) : Reduced Reduction := do
  requireStatus current .reconciliationPending
  refuse (Blank exchangeOrderId) ⟨"owned order absence requires identity"⟩
  refuse (exchangeOrderId ∉ knownCleanupOrderIds current) ⟨"absent order is not owned by Ticket"⟩
  return cleared current event exchangeOrderId []

theorem ownedOrderAbsenceConfirmed_eq_ok {exchangeOrderId : String} :
    ownedOrderAbsenceConfirmed current event exchangeOrderId = .ok result ↔
      current.status = .reconciliationPending ∧ ¬ Blank exchangeOrderId ∧
        exchangeOrderId ∈ knownCleanupOrderIds current ∧
        result = cleared current event exchangeOrderId [] := by
  simp only [ownedOrderAbsenceConfirmed, requireStatus_bind_eq_ok, refuse_bind_eq_ok, pure_eq_ok,
    not_not]

def unownedOrderDetected (current : TradeAggregate) (event : TicketEvent)
    (exchangeOrderId : String) : Reduced Reduction :=
  reported current event (requireStatus current .reconciliationPending) exchangeOrderId
    "unowned order identity is required" .reconciliationPending "unowned_open_order"

/-! ### The replaced runner stop -/

/-- The replaced stop is gone: the runner is protected by its new stop alone. -/
def oldStopGone (exchangeOrderId : String) (current : TradeAggregate) : TradeAggregate :=
  { current with
    pendingReplacedStopExchangeOrderId := none
    initialStopExchangeOrderId := forget exchangeOrderId current.initialStopExchangeOrderId }

def protectionCancelConfirmed (current : TradeAggregate) (event : TicketEvent)
    (exchangeOrderId : String) : Reduced Reduction :=
  if current.status = .runnerOldStopCancelPending then do
    requireSameOrder exchangeOrderId current.pendingReplacedStopExchangeOrderId
      "runner replaced-stop cancel identity mismatch"
    return transition current event .runnerProtected (oldStopGone exchangeOrderId) []
  else do
    requireStatus current .reconciliationPending
    requireSameOrder exchangeOrderId current.pendingCancelExchangeOrderId
      "pending cancel identity mismatch"
    refuse (exchangeOrderId ∉ knownCleanupOrderIds current)
      ⟨"cancelled order is not owned by Ticket"⟩
    return cleared current event exchangeOrderId []

/-- **The confirmed cancel, opened**: of the replaced stop of a runner, or of the order that
reconciliation is cancelling. -/
theorem protectionCancelConfirmed_eq_ok {exchangeOrderId : String} :
    protectionCancelConfirmed current event exchangeOrderId = .ok result ↔
      (current.status = .runnerOldStopCancelPending ∧
        current.pendingReplacedStopExchangeOrderId = some exchangeOrderId ∧
        result = transition current event .runnerProtected (oldStopGone exchangeOrderId) []) ∨
      (current.status = .reconciliationPending ∧
        current.pendingCancelExchangeOrderId = some exchangeOrderId ∧
        exchangeOrderId ∈ knownCleanupOrderIds current ∧
        result = cleared current event exchangeOrderId []) := by
  unfold protectionCancelConfirmed
  split_ifs with old
  · simp only [requireSameOrder_bind_eq_ok, pure_eq_ok, old, true_and, reduceCtorEq, false_and,
      or_false]
  · simp only [requireStatus_bind_eq_ok, requireSameOrder_bind_eq_ok, refuse_bind_eq_ok,
      pure_eq_ok, not_not, old, false_and, false_or]

/-- A cancel of the replaced stop that was refused, or whose outcome is unknown. -/
def protectionCancelReported (current : TradeAggregate) (event : TicketEvent)
    (exchangeOrderId mismatch reason reasonRequired : String) (status : AggregateStatus)
    (incidentKind : String) : Reduced Reduction :=
  reported current event
    (do requireStatus current .runnerOldStopCancelPending
        requireSameOrder exchangeOrderId current.pendingReplacedStopExchangeOrderId mismatch)
    reason reasonRequired status incidentKind

def protectionCancelRejected (current : TradeAggregate) (event : TicketEvent)
    (exchangeOrderId reason : String) : Reduced Reduction :=
  protectionCancelReported current event exchangeOrderId "rejected replaced-stop identity mismatch"
    reason "replaced-stop rejection requires reason" .runnerOldStopCancelRejected
    "runner_old_stop_cancel_rejected"

def protectionCancelOutcomeUnknown (current : TradeAggregate) (event : TicketEvent)
    (exchangeOrderId reason : String) : Reduced Reduction :=
  protectionCancelReported current event exchangeOrderId "unknown replaced-stop identity mismatch"
    reason "unknown replaced-stop cancel requires reason" .runnerOldStopCancelOutcomeUnknown
    "runner_old_stop_cancel_outcome_unknown"

def protectionCancelAbsenceConfirmed (current : TradeAggregate) (event : TicketEvent)
    (exchangeOrderId : String) : Reduced Reduction := do
  requireStatus current .runnerOldStopCancelOutcomeUnknown
  requireSameOrder exchangeOrderId current.pendingReplacedStopExchangeOrderId
    "absent replaced-stop identity mismatch"
  return transition current event .runnerProtected (oldStopGone exchangeOrderId)
    [.markCancelCommandReconciledAbsent current.ticketId exchangeOrderId,
      current.resolveIncident "runner_old_stop_cancel_outcome_unknown"]

theorem protectionCancelAbsenceConfirmed_eq_ok {exchangeOrderId : String} :
    protectionCancelAbsenceConfirmed current event exchangeOrderId = .ok result ↔
      current.status = .runnerOldStopCancelOutcomeUnknown ∧
        current.pendingReplacedStopExchangeOrderId = some exchangeOrderId ∧
        result = transition current event .runnerProtected (oldStopGone exchangeOrderId)
          [.markCancelCommandReconciledAbsent current.ticketId exchangeOrderId,
            current.resolveIncident "runner_old_stop_cancel_outcome_unknown"] := by
  simp only [protectionCancelAbsenceConfirmed, requireStatus_bind_eq_ok,
    requireSameOrder_bind_eq_ok, pure_eq_ok]

/-! ### The cleanup cancel -/

def ownedOrphanCancelConfirmed (current : TradeAggregate) (event : TicketEvent)
    (exchangeOrderId : String) : Reduced Reduction := do
  requireStatus current .reconciliationPending
  refuse (Blank exchangeOrderId) ⟨"owned orphan cancel identity is required"⟩
  requireSameOrder exchangeOrderId current.pendingCancelExchangeOrderId
    "pending orphan cancel identity mismatch"
  return cleared current event exchangeOrderId []

theorem ownedOrphanCancelConfirmed_eq_ok {exchangeOrderId : String} :
    ownedOrphanCancelConfirmed current event exchangeOrderId = .ok result ↔
      current.status = .reconciliationPending ∧ ¬ Blank exchangeOrderId ∧
        current.pendingCancelExchangeOrderId = some exchangeOrderId ∧
        result = cleared current event exchangeOrderId [] := by
  simp only [ownedOrphanCancelConfirmed, requireStatus_bind_eq_ok, refuse_bind_eq_ok,
    requireSameOrder_bind_eq_ok, pure_eq_ok]

/-- A cleanup cancel that was refused, or whose outcome is unknown. -/
def cancelOrderReported (current : TradeAggregate) (event : TicketEvent)
    (exchangeOrderId mismatch reason reasonRequired : String) (status : AggregateStatus)
    (incidentKind : String) : Reduced Reduction :=
  reported current event
    (do requireStatus current .reconciliationPending
        requireSameOrder exchangeOrderId current.pendingCancelExchangeOrderId mismatch)
    reason reasonRequired status incidentKind

def cancelOrderRejected (current : TradeAggregate) (event : TicketEvent)
    (exchangeOrderId reason : String) : Reduced Reduction :=
  cancelOrderReported current event exchangeOrderId "rejected cancel identity mismatch" reason
    "cancel rejection requires reason" .cancelRejected "cancel_order_rejected"

def cancelOrderOutcomeUnknown (current : TradeAggregate) (event : TicketEvent)
    (exchangeOrderId reason : String) : Reduced Reduction :=
  cancelOrderReported current event exchangeOrderId "unknown cancel identity mismatch" reason
    "unknown cancel outcome requires reason" .cancelOutcomeUnknown "cancel_order_outcome_unknown"

def cancelOrderStillOpenConfirmed (current : TradeAggregate) (event : TicketEvent)
    (exchangeOrderId : String) : Reduced Reduction := do
  requireStatus current .cancelOutcomeUnknown
  requireSameOrder exchangeOrderId current.pendingCancelExchangeOrderId
    "still-open cancel identity mismatch"
  return transition current event .cancelRejected unchanged
    [current.resolveIncident "cancel_order_outcome_unknown"]

theorem cancelOrderStillOpenConfirmed_eq_ok {exchangeOrderId : String} :
    cancelOrderStillOpenConfirmed current event exchangeOrderId = .ok result ↔
      current.status = .cancelOutcomeUnknown ∧
        current.pendingCancelExchangeOrderId = some exchangeOrderId ∧
        result = transition current event .cancelRejected unchanged
          [current.resolveIncident "cancel_order_outcome_unknown"] := by
  simp only [cancelOrderStillOpenConfirmed, requireStatus_bind_eq_ok, requireSameOrder_bind_eq_ok,
    pure_eq_ok]

def cancelOrderAbsenceConfirmed (current : TradeAggregate) (event : TicketEvent)
    (exchangeOrderId : String) : Reduced Reduction := do
  requireStatusIn current [.cancelRejected, .cancelOutcomeUnknown]
  requireSameOrder exchangeOrderId current.pendingCancelExchangeOrderId
    "absent cancel identity mismatch"
  return cleared current event exchangeOrderId
    (current.resolveCancelFrom .cancelOutcomeUnknown exchangeOrderId "cancel_order_outcome_unknown")

theorem cancelOrderAbsenceConfirmed_eq_ok {exchangeOrderId : String} :
    cancelOrderAbsenceConfirmed current event exchangeOrderId = .ok result ↔
      current.status ∈ [.cancelRejected, .cancelOutcomeUnknown] ∧
        current.pendingCancelExchangeOrderId = some exchangeOrderId ∧
        result = cleared current event exchangeOrderId
          (current.resolveCancelFrom .cancelOutcomeUnknown exchangeOrderId
            "cancel_order_outcome_unknown") := by
  simp only [cancelOrderAbsenceConfirmed, requireStatusIn_bind_eq_ok, requireSameOrder_bind_eq_ok,
    pure_eq_ok]

/-! ### Closure -/

/-- What closing a ticket gives back: its incidents, and the capital frozen in it. -/
def matchedEffects (current : TradeAggregate) (event : TicketEvent) : List KernelEffect :=
  let domain := current.ticket.identity.nettingDomain
  [.resolveTicketIncidentsAtClosure current.ticketId,
    .releaseCapitalAuthorities current.ticketId (domain.venueId.text ++ ":" ++ domain.accountId.text)
      domain.key current.ticket.notional current.ticket.riskAtStop current.ticket.reservedMargin
      event.occurredAtMs]

def reconciliationMatched (current : TradeAggregate) (event : TicketEvent) :
    Reduced Reduction := do
  requireStatus current .reconciliationPending
  refuse (knownCleanupOrderIds current ≠ []) ⟨"owned order identity residue remains"⟩
  refuse (current.protectedQty ≠ 0) ⟨"protected quantity remains"⟩
  refuse (current.pendingCancelExchangeOrderId ≠ none) ⟨"cancel outcome remains unresolved"⟩
  return transition current event .settlementPending unchanged (matchedEffects current event)

theorem reconciliationMatched_eq_ok : reconciliationMatched current event = .ok result ↔
    current.status = .reconciliationPending ∧ knownCleanupOrderIds current = [] ∧
      current.protectedQty = 0 ∧ current.pendingCancelExchangeOrderId = none ∧
      result = transition current event .settlementPending unchanged
        (matchedEffects current event) := by
  simp only [reconciliationMatched, requireStatus_bind_eq_ok, refuse_bind_eq_ok, pure_eq_ok,
    ne_eq, not_not]

def budgetSettled (current : TradeAggregate) (event : TicketEvent) : Reduced Reduction := do
  requireStatus current .settlementPending
  return transition current event .reviewPending unchanged []

theorem budgetSettled_eq_ok : budgetSettled current event = .ok result ↔
    current.status = .settlementPending ∧
      result = transition current event .reviewPending unchanged [] := by
  simp only [budgetSettled, requireStatus_bind_eq_ok, pure_eq_ok]

/-- The ticket is terminal under its current review. -/
def reviewed (current : TradeAggregate) (event : TicketEvent) (reviewId : String) : Reduction :=
  transition current event .terminal
    (fun current => { current with reviewId := some (strip reviewId) })
    [.projectTerminalOwnerState current.ticketId]

def reviewRecorded (current : TradeAggregate) (event : TicketEvent) (reviewId : String) :
    Reduced Reduction := do
  requireStatus current .reviewPending
  refuse (strip reviewId = "") ⟨"review identity is required"⟩
  return reviewed current event reviewId

theorem reviewRecorded_eq_ok {reviewId : String} :
    reviewRecorded current event reviewId = .ok result ↔
      current.status = .reviewPending ∧ ¬ Blank reviewId ∧
        result = reviewed current event reviewId := by
  simp only [reviewRecorded, requireStatus_bind_eq_ok, refuse_bind_eq_ok, pure_eq_ok, Blank]

def reviewRevised (current : TradeAggregate) (event : TicketEvent)
    (reviewId supersedesReviewId : String) : Reduced Reduction := do
  requireStatus current .terminal
  refuse (strip reviewId = "" ∨ strip supersedesReviewId = "")
    ⟨"review revision identities are required"⟩
  refuse (current.reviewId ≠ some (strip supersedesReviewId))
    ⟨"review revision supersedes identity differs from current pointer"⟩
  refuse (strip reviewId = strip supersedesReviewId)
    ⟨"review revision must use a new review identity"⟩
  return reviewed current event reviewId

theorem reviewRevised_eq_ok {reviewId supersedesReviewId : String} :
    reviewRevised current event reviewId supersedesReviewId = .ok result ↔
      current.status = .terminal ∧ (¬ Blank reviewId ∧ ¬ Blank supersedesReviewId) ∧
        current.reviewId = some (strip supersedesReviewId) ∧
        strip reviewId ≠ strip supersedesReviewId ∧ result = reviewed current event reviewId := by
  simp only [reviewRevised, requireStatus_bind_eq_ok, refuse_bind_eq_ok, pure_eq_ok, Blank, ne_eq,
    not_or, not_not]

end TradingKernel.Reducer
