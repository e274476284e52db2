/-
**Branches of the reducer: leverage, ENTRY, full and partial fills, and the remainder cancel.**
-/

import TradingKernel.Domain.Reducer.Families

namespace TradingKernel.Reducer

open Text Guard

variable {current : TradeAggregate} {event : TicketEvent} {result : Reduction}

/-! ### Leverage -/

def leverageConfirmed (current : TradeAggregate) (event : TicketEvent) (fact : LeverageConfirmed) :
    Reduced Reduction := do
  requireStatusIn current [.leveragePending, .leverageOutcomeUnknown]
  refuse (fact.exchangeConfiguredLeverage ≠ current.ticket.selectedLeverage)
    ⟨"confirmed leverage differs from immutable Ticket"⟩
  refuse (fact.leverageVerifiedAtMs ≤ 0) ⟨"leverage confirmation time must be positive"⟩
  refuse (¬ "sha256:".toList <+: fact.leverageVerificationDigest.toList)
    ⟨"leverage confirmation requires a digest"⟩
  return transition current event .leverageConfirmed unchanged
    (current.resolveFrom .leverageOutcomeUnknown "leverage_outcome_unknown" ++
      [.prepareEntryCommand current.ticket (some fact.leverageVerificationDigest)])

theorem leverageConfirmed_eq_ok {fact : LeverageConfirmed} :
    leverageConfirmed current event fact = .ok result ↔
      current.status ∈ [.leveragePending, .leverageOutcomeUnknown] ∧
        fact.exchangeConfiguredLeverage = current.ticket.selectedLeverage ∧
        result = transition current event .leverageConfirmed unchanged
          (current.resolveFrom .leverageOutcomeUnknown "leverage_outcome_unknown" ++
            [.prepareEntryCommand current.ticket (some fact.leverageVerificationDigest)]) := by
  obtain ⟨digits, spelled, -⟩ := fact.digestShape
  have verified : ¬ fact.leverageVerifiedAtMs ≤ 0 := not_le.mpr fact.positive.2
  have scheme : "sha256:".toList <+: fact.leverageVerificationDigest.toList :=
    ⟨digits, spelled.symm⟩
  simp only [leverageConfirmed, requireStatusIn_bind_eq_ok, refuse_bind_eq_ok, pure_eq_ok,
    ne_eq, not_not, verified, scheme, not_false_iff, true_and]

def leverageRejected (current : TradeAggregate) (event : TicketEvent) (reason : NonBlankText) :
    Reduced Reduction := do
  requireStatusIn current [.leveragePending, .leverageOutcomeUnknown]
  refuse (Blank reason) ⟨"leverage rejection requires reason"⟩
  return closedUnfilled current event .leverageRejected unchanged
    (current.resolveFrom .leverageOutcomeUnknown "leverage_outcome_unknown")

theorem leverageRejected_eq_ok {reason : NonBlankText} :
    leverageRejected current event reason = .ok result ↔
      current.status ∈ [.leveragePending, .leverageOutcomeUnknown] ∧
        result = closedUnfilled current event .leverageRejected unchanged
          (current.resolveFrom .leverageOutcomeUnknown "leverage_outcome_unknown") := by
  simp only [leverageRejected, requireStatusIn_bind_eq_ok, refuse_bind_eq_ok, pure_eq_ok,
    reason.not_blank, not_false_iff, true_and]

def leverageOutcomeUnknown (current : TradeAggregate) (event : TicketEvent)
    (reason : NonBlankText) : Reduced Reduction :=
  reported current event (requireStatus current .leveragePending) reason
    "unknown leverage outcome requires reason" .leverageOutcomeUnknown
    "leverage_outcome_unknown"

/-! ### ENTRY outcomes -/

def recordEntry (exchangeOrderId : String) (current : TradeAggregate) : TradeAggregate :=
  { current with entryExchangeOrderId := some exchangeOrderId }

def entryAccepted (current : TradeAggregate) (event : TicketEvent) (exchangeOrderId : String) :
    Reduced Reduction :=
  orderAccepted current event [.entryPending, .leverageConfirmed, .entryOutcomeUnknown]
    exchangeOrderId "ENTRY acceptance requires order identity" .entryAccepted
    recordEntry .entryOutcomeUnknown "entry_outcome_unknown"

def entryOutcomeUnknown (current : TradeAggregate) (event : TicketEvent) (reason : String) :
    Reduced Reduction :=
  reported current event
    (requireStatusIn current [.entryPending, .leverageConfirmed]) reason
    "unknown ENTRY outcome requires reason" .entryOutcomeUnknown
    "entry_outcome_unknown"

def entryRejected (current : TradeAggregate) (event : TicketEvent) : Reduced Reduction := do
  requireStatusIn current [.entryPending, .leverageConfirmed]
  return closedUnfilled current event .entryRejected unchanged []

theorem entryRejected_eq_ok : entryRejected current event = .ok result ↔
    current.status ∈ [.entryPending, .leverageConfirmed] ∧
      result = closedUnfilled current event .entryRejected unchanged [] := by
  simp only [entryRejected, requireStatusIn_bind_eq_ok, pure_eq_ok]

def entryAbsenceConfirmed (current : TradeAggregate) (event : TicketEvent) (commandId : String) :
    Reduced Reduction :=
  absenceConfirmed current .entryOutcomeUnknown commandId
    "reconciled ENTRY absence requires command identity"
    (.ok (closedUnfilled current event .entryReconciledAbsent unchanged
      [current.resolveIncident "entry_outcome_unknown"]))

/-! ### Fills -/

/-- The position of a full fill, with its risk assessment. -/
def postFillUpdates (fact : EntryFilled) (current : TradeAggregate) : TradeAggregate :=
  { current with
    positionQty := fact.filledQty
    averageFillPrice := some fact.averageFillPrice
    actualStopRisk := some fact.postFillRisk.actualStopRisk
    venueReportedLiquidationPrice := fact.venueReportedLiquidationPrice
    postFillRiskStatus := some fact.postFillRisk.status
    postFillDisposition := some fact.postFillRisk.disposition }

/-- Where a full fill leads: behind a stop, or straight to the flatten. -/
def entryFilledTarget (fact : EntryFilled) : AggregateStatus :=
  if fact.postFillRisk.disposition = .flattenImmediately then .controlledFlattenPending
  else .protectionPending

theorem entryFilledTarget_mem (fact : EntryFilled) :
    entryFilledTarget fact ∈ ([.controlledFlattenPending, .protectionPending] :
      List AggregateStatus) := by
  unfold entryFilledTarget
  split_ifs <;> decide

def entryFilledEffects (current : TradeAggregate) (fact : EntryFilled) : List KernelEffect :=
  match fact.postFillRisk.disposition with
  | .flattenImmediately =>
      [current.openIncident fact.postFillRisk.status.value,
        .prepareControlledFlattenCommand current.ticketId fact.filledQty]
  | .flattenAfterProtection =>
      [current.openIncident fact.postFillRisk.status.value,
        .prepareInitialStopCommand current.ticketId fact.filledQty current.ticket.initialStopPrice]
  | .normal =>
      [.prepareInitialStopCommand current.ticketId fact.filledQty current.ticket.initialStopPrice]

def entryFilled (current : TradeAggregate) (event : TicketEvent) (fact : EntryFilled) :
    Reduced Reduction := do
  requireStatusIn current [.entryPending, .leverageConfirmed,
    .entryAccepted, .entryVacuumCancelled]
  refuse (current.status = .entryVacuumCancelled ∧ current.entryVacuumId = none)
    ⟨"Vacuum full fill requires exact Vacuum lineage"⟩
  refuse (fact.filledQty ≠ current.ticket.quantity)
    ⟨"full entry fill must equal Ticket quantity"⟩
  refuse (fact.averageFillPrice ≤ 0) ⟨"average fill price must be positive"⟩
  return transition current event (entryFilledTarget fact) (postFillUpdates fact)
    (entryFilledEffects current fact)

theorem entryFilled_eq_ok {fact : EntryFilled} : entryFilled current event fact = .ok result ↔
    current.status ∈ [.entryPending, .leverageConfirmed,
        .entryAccepted, .entryVacuumCancelled] ∧
      ¬ (current.status = .entryVacuumCancelled ∧ current.entryVacuumId = none) ∧
      fact.filledQty = current.ticket.quantity ∧ 0 < fact.averageFillPrice ∧
      result = transition current event (entryFilledTarget fact) (postFillUpdates fact)
        (entryFilledEffects current fact) := by
  simp only [entryFilled, requireStatusIn_bind_eq_ok, refuse_bind_eq_ok, pure_eq_ok, ne_eq,
    not_not, not_le]

def entryPartiallyFilled (current : TradeAggregate) (event : TicketEvent)
    (filledQty requestedQty averageFillPrice : ℚ) : Reduced Reduction := do
  requireStatusIn current [.entryPending, .leverageConfirmed,
    .entryAccepted]
  refuse (¬ (0 < filledQty ∧ filledQty < requestedQty))
    ⟨"partial fill quantity is contradictory"⟩
  refuse (requestedQty ≠ current.ticket.quantity) ⟨"partial fill request differs from Ticket"⟩
  return transition current event .partialFillIncident
    (fun current => { current with
      positionQty := filledQty
      averageFillPrice := some averageFillPrice })
    [current.openIncident "unsupported_partial_entry_fill", .cancelEntryRemainder current.ticketId,
      .requestControlledFlatten current.ticketId filledQty]

theorem entryPartiallyFilled_eq_ok {filledQty requestedQty averageFillPrice : ℚ} :
    entryPartiallyFilled current event filledQty requestedQty averageFillPrice = .ok result ↔
      current.status ∈ [.entryPending, .leverageConfirmed,
          .entryAccepted] ∧
        (0 < filledQty ∧ filledQty < requestedQty) ∧ requestedQty = current.ticket.quantity ∧
        result = transition current event .partialFillIncident
          (fun current => { current with
            positionQty := filledQty
            averageFillPrice := some averageFillPrice })
          [current.openIncident "unsupported_partial_entry_fill",
            .cancelEntryRemainder current.ticketId,
            .requestControlledFlatten current.ticketId filledQty] := by
  simp only [entryPartiallyFilled, requireStatusIn_bind_eq_ok, refuse_bind_eq_ok, pure_eq_ok,
    ne_eq, not_not]

/-! ### The cancel of the remainder -/

def entryRemainderCancelConfirmed (current : TradeAggregate) (event : TicketEvent)
    (exchangeOrderId : String) : Reduced Reduction := do
  requireStatusIn current [.partialFillIncident, .partialFillCancelOutcomeUnknown]
  requireSameOrder exchangeOrderId current.entryExchangeOrderId
    "ENTRY remainder cancel identity mismatch"
  return transition current event .controlledFlattenPending unchanged
    (current.resolveCancelFrom .partialFillCancelOutcomeUnknown exchangeOrderId
        "entry_remainder_cancel_outcome_unknown" ++
      [.prepareControlledFlattenCommand current.ticketId current.positionQty])

theorem entryRemainderCancelConfirmed_eq_ok {exchangeOrderId : String} :
    entryRemainderCancelConfirmed current event exchangeOrderId = .ok result ↔
      current.status ∈ [.partialFillIncident, .partialFillCancelOutcomeUnknown] ∧
        current.entryExchangeOrderId = some exchangeOrderId ∧
        result = transition current event .controlledFlattenPending unchanged
          (current.resolveCancelFrom .partialFillCancelOutcomeUnknown exchangeOrderId
              "entry_remainder_cancel_outcome_unknown" ++
            [.prepareControlledFlattenCommand current.ticketId current.positionQty]) := by
  simp only [entryRemainderCancelConfirmed, requireStatusIn_bind_eq_ok,
    requireSameOrder_bind_eq_ok, pure_eq_ok]

/-- A remainder cancel that was refused, or whose outcome is unknown. -/
def entryRemainderCancelReported (current : TradeAggregate) (event : TicketEvent)
    (exchangeOrderId mismatch reason reasonRequired : String) (status : AggregateStatus)
    (incidentKind : String) : Reduced Reduction :=
  reported current event
    (do requireStatus current .partialFillIncident
        requireSameOrder exchangeOrderId current.entryExchangeOrderId mismatch)
    reason reasonRequired status incidentKind

def entryRemainderCancelRejected (current : TradeAggregate) (event : TicketEvent)
    (exchangeOrderId reason : String) : Reduced Reduction :=
  entryRemainderCancelReported current event exchangeOrderId
    "rejected ENTRY cancel identity mismatch" reason "ENTRY cancel rejection requires reason"
    .partialFillCancelRejected "entry_remainder_cancel_rejected"

def entryRemainderCancelOutcomeUnknown (current : TradeAggregate) (event : TicketEvent)
    (exchangeOrderId reason : String) : Reduced Reduction :=
  entryRemainderCancelReported current event exchangeOrderId
    "unknown ENTRY cancel identity mismatch" reason "unknown ENTRY cancel requires reason"
    .partialFillCancelOutcomeUnknown "entry_remainder_cancel_outcome_unknown"

end TradingKernel.Reducer
