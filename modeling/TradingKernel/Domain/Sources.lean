/-
**The statuses each fact is accepted in.**

Every branch of the reducer starts with its list of statuses. `TicketFact.sources` is that table,
and a fact is accepted in no other status (`source_mem`).
-/

import TradingKernel.Domain.Reducer

namespace TradingKernel

open Guard Reducer

/-- The statuses the branch of a fact admits. -/
def TicketFact.sources : TicketFact → List AggregateStatus
  | .leverageConfirmed _ | .leverageRejected _ => [.leveragePending, .leverageOutcomeUnknown]
  | .leverageOutcomeUnknown _ => [.leveragePending]
  | .entryAccepted _ => [.entryPending, .leverageConfirmed, .entryOutcomeUnknown]
  | .entryRejected _ | .entryOutcomeUnknown _ => [.entryPending, .leverageConfirmed]
  | .entryAbsenceConfirmed _ => [.entryOutcomeUnknown]
  | .entryFilled _ => [.entryPending, .leverageConfirmed, .entryAccepted, .entryVacuumCancelled]
  | .entryPartiallyFilled _ _ _ => [.entryPending, .leverageConfirmed, .entryAccepted]
  | .entryRemainderCancelConfirmed _ => [.partialFillIncident, .partialFillCancelOutcomeUnknown]
  | .entryRemainderCancelRejected _ _ | .entryRemainderCancelOutcomeUnknown _ _ =>
      [.partialFillIncident]
  | .entryVacuumSuperseded _ => [.leveragePending, .leverageConfirmed, .entryPending]
  | .entryVacuumCancelRequested _ => [.entryAccepted, .entryVacuumCancelRejected]
  | .entryVacuumCancelConfirmed _ | .entryVacuumCancelRejected _ _ =>
      [.entryVacuumCancelPending, .entryVacuumCancelOutcomeUnknown]
  | .entryVacuumCancelOutcomeUnknown _ _ => [.entryVacuumCancelPending]
  | .entryVacuumOrderAbsenceConfirmed _ =>
      [.entryAccepted, .entryVacuumCancelPending, .entryVacuumCancelRejected]
  | .vacuumLateFillAttributed _ | .vacuumPostAbsenceNoFillVerified _
  | .entryVacuumAbsenceConfirmed _ | .vacuumPartialRetained _
  | .vacuumPartialFlattenRequired _ => [.entryVacuumCancelled]
  | .initialStopConfirmed _ _ => [.protectionPending, .initialStopOutcomeUnknown]
  | .initialStopRejected _ | .initialStopOutcomeUnknown _ => [.protectionPending]
  | .initialStopAbsenceConfirmed _ => [.initialStopOutcomeUnknown]
  | .postFillStressAssessed _ => [.postFillRiskPending]
  | .takeProfitConfirmed _ _ => [.tp1Pending, .postFillRiskPending, .tp1OutcomeUnknown]
  | .takeProfitRejected _ | .takeProfitOutcomeUnknown _ => [.tp1Pending]
  | .takeProfitAbsenceConfirmed _ => [.tp1OutcomeUnknown]
  | .takeProfitFilled _ => [.positionProtected]
  | .runnerStopRequested _ _ => [.runnerProtected]
  | .protectionReplacementConfirmed _ =>
      [.runnerReplacementPending, .runnerReplacementOutcomeUnknown]
  | .protectionReplacementRejected _ | .protectionReplacementOutcomeUnknown _ =>
      [.runnerReplacementPending]
  | .protectionReplacementAbsenceConfirmed _ => [.runnerReplacementOutcomeUnknown]
  | .exitRequested _ => [.positionProtected, .runnerProtected, .exitRejected]
  | .exitAccepted _ => [.exitPending, .exitOutcomeUnknown]
  | .exitRejected _ | .exitOutcomeUnknown _ => [.exitPending]
  | .exitAbsenceConfirmed _ => [.exitOutcomeUnknown]
  | .controlledFlattenAccepted _ => [.controlledFlattenPending, .controlledFlattenOutcomeUnknown]
  | .controlledFlattenRejected _ | .controlledFlattenOutcomeUnknown _ =>
      [.controlledFlattenPending]
  | .controlledFlattenAbsenceConfirmed _ => [.controlledFlattenOutcomeUnknown]
  | .positionFlatConfirmed =>
      [.exitPending, .exitAccepted, .exitRejected, .exitOutcomeUnknown,
        .controlledFlattenPending, .controlledFlattenAccepted, .controlledFlattenRejected,
        .controlledFlattenOutcomeUnknown]
  | .externalFlatDetected => externalFlatStatuses
  | .ownedOrphanOrderDetected _ _ => [.reconciliationPending, .cancelRejected]
  | .ownedOrderAbsenceConfirmed _ | .unownedOrderDetected _ | .ownedOrphanCancelConfirmed _
  | .cancelOrderRejected _ _ | .cancelOrderOutcomeUnknown _ _ | .reconciliationMatched _ =>
      [.reconciliationPending]
  | .protectionCancelConfirmed _ => [.runnerOldStopCancelPending, .reconciliationPending]
  | .protectionCancelRejected _ _ | .protectionCancelOutcomeUnknown _ _ =>
      [.runnerOldStopCancelPending]
  | .protectionCancelAbsenceConfirmed _ => [.runnerOldStopCancelOutcomeUnknown]
  | .cancelOrderAbsenceConfirmed _ => [.cancelRejected, .cancelOutcomeUnknown]
  | .cancelOrderStillOpenConfirmed _ => [.cancelOutcomeUnknown]
  | .budgetSettled => [.settlementPending]
  | .reviewRecorded _ => [.reviewPending]
  | .reviewRevised _ _ => [.terminal]

section Source

variable {current : TradeAggregate} {event : TicketEvent} {fact : TicketFact} {result : Reduction}
  {source : AggregateStatus}

/-- A report from a single status. -/
theorem reported_source {reason required kind : String} {status : AggregateStatus}
    (reduced : reported current event (requireStatus current source) reason required status kind =
      .ok result) : current.status ∈ [source] :=
  List.mem_singleton.mpr (requireStatus_eq_ok.mp (reported_eq_ok.mp reduced).1)

/-- A report about an order the aggregate holds, from a single status. -/
theorem reported_held {id mismatch reason required kind : String} {held : Option String}
    {status : AggregateStatus}
    (reduced : reported current event
      (do requireStatus current source; requireSameOrder id held mismatch) reason required status
      kind = .ok result) : current.status ∈ [source] ∧ held = some id := by
  obtain ⟨at_source, same⟩ := requireStatus_bind_eq_ok.mp (reported_eq_ok.mp reduced).1
  rw [requireSameOrder, refuse_eq_ok, not_not] at same
  exact ⟨List.mem_singleton.mpr at_source, same.symm⟩

/-- **A fact is accepted in its statuses only.** -/
theorem source_mem (reduced : reduceFact current event fact = .ok result) :
    current.status ∈ fact.sources := by
  cases fact with
  | leverageConfirmed fact => exact (leverageConfirmed_eq_ok.mp reduced).1
  | leverageRejected reason => exact (leverageRejected_eq_ok.mp reduced).1
  | leverageOutcomeUnknown reason => exact reported_source reduced
  | entryAccepted id => exact (orderAccepted_eq_ok.mp reduced).1
  | entryRejected reason => exact (entryRejected_eq_ok.mp reduced).1
  | entryOutcomeUnknown reason => exact requireStatusIn_eq_ok.mp (reported_eq_ok.mp reduced).1
  | entryAbsenceConfirmed commandId =>
    exact List.mem_singleton.mpr (absenceConfirmed_eq_ok.mp reduced).1
  | entryFilled fact => exact (entryFilled_eq_ok.mp reduced).1
  | entryPartiallyFilled filled requested price =>
    exact (entryPartiallyFilled_eq_ok.mp reduced).1
  | entryRemainderCancelConfirmed id => exact (entryRemainderCancelConfirmed_eq_ok.mp reduced).1
  | entryRemainderCancelRejected id reason => exact (reported_held reduced).1
  | entryRemainderCancelOutcomeUnknown id reason => exact (reported_held reduced).1
  | entryVacuumSuperseded fact => exact (entryVacuumSuperseded_eq_ok.mp reduced).1
  | entryVacuumCancelRequested fact => exact (entryVacuumCancelRequested_eq_ok.mp reduced).1
  | entryVacuumCancelConfirmed id => exact (entryVacuumCancelConfirmed_eq_ok.mp reduced).1
  | entryVacuumCancelRejected id reason => exact (entryVacuumCancelRejected_eq_ok.mp reduced).1
  | entryVacuumCancelOutcomeUnknown id reason =>
    exact List.mem_singleton.mpr (entryVacuumCancelOutcomeUnknown_eq_ok.mp reduced).1
  | entryVacuumOrderAbsenceConfirmed fact =>
    exact (entryVacuumOrderAbsenceConfirmed_eq_ok.mp reduced).1
  | vacuumLateFillAttributed fact =>
    exact List.mem_singleton.mpr (vacuumLateFillAttributed_eq_ok.mp reduced).1
  | vacuumPostAbsenceNoFillVerified fact =>
    exact List.mem_singleton.mpr (vacuumPostAbsenceNoFillVerified_eq_ok.mp reduced).1
  | entryVacuumAbsenceConfirmed vacuumId =>
    exact List.mem_singleton.mpr (entryVacuumAbsenceConfirmed_eq_ok.mp reduced).1
  | vacuumPartialRetained fact =>
    exact List.mem_singleton.mpr (vacuumPartialRetained_eq_ok.mp reduced).1
  | vacuumPartialFlattenRequired fact =>
    exact List.mem_singleton.mpr (vacuumPartialFlattenRequired_eq_ok.mp reduced).1
  | initialStopConfirmed id qty => exact (initialStopConfirmed_eq_ok.mp reduced).1
  | postFillStressAssessed fact =>
    exact List.mem_singleton.mpr (postFillStressAssessed_eq_ok.mp reduced).1
  | initialStopRejected reason =>
    exact List.mem_singleton.mpr (initialStopRejected_eq_ok.mp reduced).1
  | initialStopOutcomeUnknown reason => exact reported_source reduced
  | initialStopAbsenceConfirmed commandId =>
    exact List.mem_singleton.mpr (absenceConfirmed_eq_ok.mp reduced).1
  | takeProfitConfirmed id qty => exact (takeProfitConfirmed_eq_ok.mp reduced).1
  | takeProfitRejected reason => exact reported_source reduced
  | takeProfitOutcomeUnknown reason => exact reported_source reduced
  | takeProfitAbsenceConfirmed commandId =>
    exact List.mem_singleton.mpr (takeProfitAbsenceConfirmed_eq_ok.mp reduced).1
  | takeProfitFilled fact => exact List.mem_singleton.mpr (takeProfitFilled_eq_ok.mp reduced).1
  | runnerStopRequested stopPrice watermarkMs =>
    exact List.mem_singleton.mpr (runnerStopRequested_eq_ok.mp reduced).1
  | protectionReplacementConfirmed fact =>
    exact (protectionReplacementConfirmed_eq_ok.mp reduced).1
  | protectionReplacementRejected reason => exact reported_source reduced
  | protectionReplacementOutcomeUnknown reason => exact reported_source reduced
  | protectionReplacementAbsenceConfirmed commandId =>
    exact List.mem_singleton.mpr (protectionReplacementAbsenceConfirmed_eq_ok.mp reduced).1
  | exitRequested reason => exact (exitRequested_eq_ok.mp reduced).1
  | exitAccepted id => exact (orderAccepted_eq_ok.mp reduced).1
  | exitRejected reason => exact reported_source reduced
  | exitOutcomeUnknown reason => exact reported_source reduced
  | exitAbsenceConfirmed commandId =>
    exact List.mem_singleton.mpr (absenceConfirmed_eq_ok.mp reduced).1
  | controlledFlattenAccepted id => exact (orderAccepted_eq_ok.mp reduced).1
  | controlledFlattenRejected reason => exact reported_source reduced
  | controlledFlattenOutcomeUnknown reason => exact reported_source reduced
  | controlledFlattenAbsenceConfirmed commandId =>
    exact List.mem_singleton.mpr (absenceConfirmed_eq_ok.mp reduced).1
  | positionFlatConfirmed => exact (positionFlatConfirmed_eq_ok.mp reduced).1
  | externalFlatDetected => exact (externalFlatDetected_eq_ok.mp reduced).1
  | ownedOrphanOrderDetected id orderNamespace =>
    exact (ownedOrphanOrderDetected_eq_ok.mp reduced).1
  | ownedOrderAbsenceConfirmed id =>
    exact List.mem_singleton.mpr (ownedOrderAbsenceConfirmed_eq_ok.mp reduced).1
  | unownedOrderDetected id => exact reported_source reduced
  | protectionCancelConfirmed id =>
    rcases protectionCancelConfirmed_eq_ok.mp reduced with ⟨status, -⟩ | ⟨status, -⟩
    · exact List.mem_cons.mpr (.inl status)
    · exact List.mem_cons_of_mem _ (List.mem_singleton.mpr status)
  | protectionCancelRejected id reason => exact (reported_held reduced).1
  | protectionCancelOutcomeUnknown id reason => exact (reported_held reduced).1
  | protectionCancelAbsenceConfirmed id =>
    exact List.mem_singleton.mpr (protectionCancelAbsenceConfirmed_eq_ok.mp reduced).1
  | ownedOrphanCancelConfirmed id =>
    exact List.mem_singleton.mpr (ownedOrphanCancelConfirmed_eq_ok.mp reduced).1
  | cancelOrderRejected id reason => exact (reported_held reduced).1
  | cancelOrderOutcomeUnknown id reason => exact (reported_held reduced).1
  | cancelOrderAbsenceConfirmed id => exact (cancelOrderAbsenceConfirmed_eq_ok.mp reduced).1
  | cancelOrderStillOpenConfirmed id =>
    exact List.mem_singleton.mpr (cancelOrderStillOpenConfirmed_eq_ok.mp reduced).1
  | reconciliationMatched kind =>
    exact List.mem_singleton.mpr (reconciliationMatched_eq_ok.mp reduced).1
  | budgetSettled => exact List.mem_singleton.mpr (budgetSettled_eq_ok.mp reduced).1
  | reviewRecorded reviewId => exact List.mem_singleton.mpr (reviewRecorded_eq_ok.mp reduced).1
  | reviewRevised reviewId supersedesReviewId =>
    exact List.mem_singleton.mpr (reviewRevised_eq_ok.mp reduced).1

end Source

end TradingKernel
