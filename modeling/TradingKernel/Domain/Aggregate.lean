/-
**The lifecycle projection of one Trade Ticket: its status and the facts the reducer keeps.**
-/

import TradingKernel.Domain.PostFillRisk
import TradingKernel.Domain.Ticket

namespace TradingKernel

inductive AggregateStatus where
  | leveragePending
  | leverageConfirmed
  | leverageRejected
  | leverageOutcomeUnknown
  | entryPending
  | entryAccepted
  | entryRejected
  | entryOutcomeUnknown
  | entryReconciledAbsent
  | entryVacuumCancelPending
  | entryVacuumCancelRejected
  | entryVacuumCancelOutcomeUnknown
  | entryVacuumCancelled
  | partialFillIncident
  | partialFillCancelRejected
  | partialFillCancelOutcomeUnknown
  | protectionPending
  | initialStopOutcomeUnknown
  | postFillRiskPending
  | tp1Pending
  | tp1Rejected
  | tp1OutcomeUnknown
  | positionProtected
  | runnerReplacementPending
  | runnerReplacementRejected
  | runnerReplacementOutcomeUnknown
  | runnerOldStopCancelPending
  | runnerOldStopCancelRejected
  | runnerOldStopCancelOutcomeUnknown
  | runnerProtected
  | exitPending
  | exitAccepted
  | exitRejected
  | exitOutcomeUnknown
  | controlledFlattenPending
  | controlledFlattenAccepted
  | controlledFlattenRejected
  | controlledFlattenOutcomeUnknown
  | reconciliationPending
  | cancelRejected
  | cancelOutcomeUnknown
  | settlementPending
  | reviewPending
  | terminal
  deriving DecidableEq, Repr

namespace AggregateStatus

def value : AggregateStatus → String
  | leveragePending => "leverage_pending"
  | leverageConfirmed => "leverage_confirmed"
  | leverageRejected => "leverage_rejected"
  | leverageOutcomeUnknown => "leverage_outcome_unknown"
  | entryPending => "entry_pending"
  | entryAccepted => "entry_accepted"
  | entryRejected => "entry_rejected"
  | entryOutcomeUnknown => "entry_outcome_unknown"
  | entryReconciledAbsent => "entry_reconciled_absent"
  | entryVacuumCancelPending => "entry_vacuum_cancel_pending"
  | entryVacuumCancelRejected => "entry_vacuum_cancel_rejected"
  | entryVacuumCancelOutcomeUnknown => "entry_vacuum_cancel_outcome_unknown"
  | entryVacuumCancelled => "entry_vacuum_cancelled"
  | partialFillIncident => "partial_fill_incident"
  | partialFillCancelRejected => "partial_fill_cancel_rejected"
  | partialFillCancelOutcomeUnknown => "partial_fill_cancel_outcome_unknown"
  | protectionPending => "protection_pending"
  | initialStopOutcomeUnknown => "initial_stop_outcome_unknown"
  | postFillRiskPending => "post_fill_risk_pending"
  | tp1Pending => "tp1_pending"
  | tp1Rejected => "tp1_rejected"
  | tp1OutcomeUnknown => "tp1_outcome_unknown"
  | positionProtected => "position_protected"
  | runnerReplacementPending => "runner_replacement_pending"
  | runnerReplacementRejected => "runner_replacement_rejected"
  | runnerReplacementOutcomeUnknown => "runner_replacement_outcome_unknown"
  | runnerOldStopCancelPending => "runner_old_stop_cancel_pending"
  | runnerOldStopCancelRejected => "runner_old_stop_cancel_rejected"
  | runnerOldStopCancelOutcomeUnknown => "runner_old_stop_cancel_outcome_unknown"
  | runnerProtected => "runner_protected"
  | exitPending => "exit_pending"
  | exitAccepted => "exit_accepted"
  | exitRejected => "exit_rejected"
  | exitOutcomeUnknown => "exit_outcome_unknown"
  | controlledFlattenPending => "controlled_flatten_pending"
  | controlledFlattenAccepted => "controlled_flatten_accepted"
  | controlledFlattenRejected => "controlled_flatten_rejected"
  | controlledFlattenOutcomeUnknown => "controlled_flatten_outcome_unknown"
  | reconciliationPending => "reconciliation_pending"
  | cancelRejected => "cancel_rejected"
  | cancelOutcomeUnknown => "cancel_outcome_unknown"
  | settlementPending => "settlement_pending"
  | reviewPending => "review_pending"
  | terminal => "terminal"

end AggregateStatus

open AggregateStatus in
/-- The statuses whose position the reconciliation worker reads. -/
def reconciliationPositionStatuses : List AggregateStatus :=
  [entryAccepted, entryVacuumCancelPending, entryVacuumCancelRejected,
    entryVacuumCancelOutcomeUnknown, entryVacuumCancelled, partialFillIncident,
    partialFillCancelRejected, partialFillCancelOutcomeUnknown, protectionPending,
    initialStopOutcomeUnknown, postFillRiskPending, tp1Pending, tp1Rejected, tp1OutcomeUnknown,
    positionProtected, runnerReplacementPending, runnerReplacementRejected,
    runnerReplacementOutcomeUnknown, runnerOldStopCancelPending, runnerOldStopCancelRejected,
    runnerOldStopCancelOutcomeUnknown, runnerProtected, exitPending, exitAccepted, exitRejected,
    exitOutcomeUnknown, controlledFlattenPending, controlledFlattenAccepted,
    controlledFlattenRejected, controlledFlattenOutcomeUnknown, reconciliationPending,
    cancelRejected, cancelOutcomeUnknown]

/-- The recorded result of the post-fill stress assessment. -/
inductive StressResult where
  | passed
  | failed
  deriving DecidableEq, Repr

/-- How a retained position came to be smaller than the Ticket. -/
inductive EntryMaterializationKind where
  | vacuumPartialRetained
  deriving DecidableEq, Repr

structure TradeAggregate where
  identity : TicketIdentity
  ticket : TradeTicket
  status : AggregateStatus
  version : ℤ
  lastEventSequence : ℤ
  entryLaneHeld : Bool := true
  positionQty : ℚ := 0
  averageFillPrice : Option ℚ := none
  actualStopRisk : Option ℚ := none
  venueReportedLiquidationPrice : Option ℚ := none
  postFillRiskStatus : Option PostFillRiskStatus := none
  postFillDisposition : Option PostFillDisposition := none
  postFillStressStatus : Option StressResult := none
  postFillStressProofDigest : Option String := none
  protectedQty : ℚ := 0
  entryExchangeOrderId : Option String := none
  initialStopExchangeOrderId : Option String := none
  activeStopExchangeOrderId : Option String := none
  activeStopPrice : Option ℚ := none
  tp1ExchangeOrderId : Option String := none
  tp1TargetQty : ℚ := 0
  tp1FilledQty : ℚ := 0
  breakEvenFloorPrice : Option ℚ := none
  pendingReplacedStopExchangeOrderId : Option String := none
  pendingStopPrice : Option ℚ := none
  pendingStopWatermarkMs : Option ℤ := none
  runnerStopWatermarkMs : Option ℤ := none
  pendingCancelExchangeOrderId : Option String := none
  entryVacuumId : Option String := none
  entryMaterializationKind : Option EntryMaterializationKind := none
  exitExchangeOrderId : Option String := none
  reviewId : Option String := none

end TradingKernel
