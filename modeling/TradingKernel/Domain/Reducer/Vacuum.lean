/-
**Branches of the reducer: an ENTRY withdrawn by a selection vacuum.**

The ENTRY order is superseded before it is sent, or cancelled at the venue. Its cancel may be
refused or stay unknown, its final fill may be read late, and what it filled is retained behind a
stop, flattened, or found to be nothing.
-/

import TradingKernel.Domain.Reducer.Families
import TradingKernel.Domain.VacuumLateFill

namespace TradingKernel.Reducer

open Text Guard

variable {current : TradeAggregate} {event : TicketEvent} {result : Reduction}

/-! ### Supersession and cancel -/

def entryVacuumSuperseded (current : TradeAggregate) (event : TicketEvent)
    (fact : EntryVacuumSuperseded) : Reduced Reduction := do
  requireStatusIn current [.leveragePending, .leverageConfirmed, .entryPending]
  return closedUnfilled current event .entryRejected
    (fun current => { current with entryVacuumId := some fact.entryVacuumId }) []

theorem entryVacuumSuperseded_eq_ok {fact : EntryVacuumSuperseded} :
    entryVacuumSuperseded current event fact = .ok result ↔
      current.status ∈ [.leveragePending, .leverageConfirmed, .entryPending] ∧
        result = closedUnfilled current event .entryRejected
          (fun current => { current with entryVacuumId := some fact.entryVacuumId }) [] := by
  simp only [entryVacuumSuperseded, requireStatusIn_bind_eq_ok, pure_eq_ok]

def entryVacuumCancelRequested (current : TradeAggregate) (event : TicketEvent)
    (fact : EntryVacuumCancelRequested) : Reduced Reduction := do
  requireStatusIn current [.entryAccepted, .entryVacuumCancelRejected]
  requireSameOrder fact.exchangeOrderId current.entryExchangeOrderId
    "Vacuum ENTRY cancel identity mismatch"
  refuse (¬ (0 ≤ fact.observedQty ∧ fact.observedQty < current.ticket.quantity))
    ⟨"Vacuum ENTRY cancel requires unfinished requested quantity"⟩
  return transition current event .entryVacuumCancelPending
    (fun current => { current with
      positionQty := fact.observedQty
      averageFillPrice := fact.averageFillPrice
      pendingCancelExchangeOrderId := some fact.exchangeOrderId
      entryVacuumId := some fact.entryVacuumId })
    (current.resolveFrom .entryVacuumCancelRejected "selection_vacuum_entry_cancel_rejected" ++
      [.cancelVacuumEntryOrder current.ticketId fact.exchangeOrderId fact.entryVacuumId])

theorem entryVacuumCancelRequested_eq_ok {fact : EntryVacuumCancelRequested} :
    entryVacuumCancelRequested current event fact = .ok result ↔
      current.status ∈ [.entryAccepted, .entryVacuumCancelRejected] ∧
        current.entryExchangeOrderId = some fact.exchangeOrderId ∧
        fact.observedQty < current.ticket.quantity ∧
        result = transition current event .entryVacuumCancelPending
          (fun current => { current with
            positionQty := fact.observedQty
            averageFillPrice := fact.averageFillPrice
            pendingCancelExchangeOrderId := some fact.exchangeOrderId
            entryVacuumId := some fact.entryVacuumId })
          (current.resolveFrom .entryVacuumCancelRejected
              "selection_vacuum_entry_cancel_rejected" ++
            [.cancelVacuumEntryOrder current.ticketId fact.exchangeOrderId
              fact.entryVacuumId]) := by
  simp only [entryVacuumCancelRequested, requireStatusIn_bind_eq_ok, requireSameOrder_bind_eq_ok,
    refuse_bind_eq_ok, pure_eq_ok, not_not, fact.observedNonneg, true_and]

def entryVacuumCancelConfirmed (current : TradeAggregate) (event : TicketEvent)
    (exchangeOrderId : String) : Reduced Reduction := do
  requireStatusIn current [.entryVacuumCancelPending, .entryVacuumCancelOutcomeUnknown]
  requireSameOrder exchangeOrderId current.pendingCancelExchangeOrderId
    "Vacuum ENTRY cancel result mismatch"
  return transition current event .entryVacuumCancelPending unchanged
    (current.resolveCancelFrom .entryVacuumCancelOutcomeUnknown exchangeOrderId
      "selection_vacuum_entry_cancel_outcome_unknown")

theorem entryVacuumCancelConfirmed_eq_ok {exchangeOrderId : String} :
    entryVacuumCancelConfirmed current event exchangeOrderId = .ok result ↔
      current.status ∈ [.entryVacuumCancelPending, .entryVacuumCancelOutcomeUnknown] ∧
        current.pendingCancelExchangeOrderId = some exchangeOrderId ∧
        result = transition current event .entryVacuumCancelPending unchanged
          (current.resolveCancelFrom .entryVacuumCancelOutcomeUnknown exchangeOrderId
            "selection_vacuum_entry_cancel_outcome_unknown") := by
  simp only [entryVacuumCancelConfirmed, requireStatusIn_bind_eq_ok, requireSameOrder_bind_eq_ok,
    pure_eq_ok]

def entryVacuumCancelRejected (current : TradeAggregate) (event : TicketEvent)
    (exchangeOrderId : String) : Reduced Reduction := do
  requireStatusIn current [.entryVacuumCancelPending, .entryVacuumCancelOutcomeUnknown]
  requireSameOrder exchangeOrderId current.pendingCancelExchangeOrderId
    "Vacuum ENTRY cancel rejection mismatch"
  return transition current event .entryVacuumCancelRejected unchanged
    (current.resolveFrom .entryVacuumCancelOutcomeUnknown
        "selection_vacuum_entry_cancel_outcome_unknown" ++
      [current.openIncident "selection_vacuum_entry_cancel_rejected"])

theorem entryVacuumCancelRejected_eq_ok {exchangeOrderId : String} :
    entryVacuumCancelRejected current event exchangeOrderId = .ok result ↔
      current.status ∈ [.entryVacuumCancelPending, .entryVacuumCancelOutcomeUnknown] ∧
        current.pendingCancelExchangeOrderId = some exchangeOrderId ∧
        result = transition current event .entryVacuumCancelRejected unchanged
          (current.resolveFrom .entryVacuumCancelOutcomeUnknown
              "selection_vacuum_entry_cancel_outcome_unknown" ++
            [current.openIncident "selection_vacuum_entry_cancel_rejected"]) := by
  simp only [entryVacuumCancelRejected, requireStatusIn_bind_eq_ok, requireSameOrder_bind_eq_ok,
    pure_eq_ok]

/-- Unlike its siblings, this unknown outcome requires no reason. -/
def entryVacuumCancelOutcomeUnknown (current : TradeAggregate) (event : TicketEvent)
    (exchangeOrderId : String) : Reduced Reduction := do
  requireStatus current .entryVacuumCancelPending
  requireSameOrder exchangeOrderId current.pendingCancelExchangeOrderId
    "Vacuum ENTRY cancel unknown mismatch"
  return transition current event .entryVacuumCancelOutcomeUnknown unchanged
    [current.openIncident "selection_vacuum_entry_cancel_outcome_unknown"]

theorem entryVacuumCancelOutcomeUnknown_eq_ok {exchangeOrderId : String} :
    entryVacuumCancelOutcomeUnknown current event exchangeOrderId = .ok result ↔
      current.status = .entryVacuumCancelPending ∧
        current.pendingCancelExchangeOrderId = some exchangeOrderId ∧
        result = transition current event .entryVacuumCancelOutcomeUnknown unchanged
          [current.openIncident "selection_vacuum_entry_cancel_outcome_unknown"] := by
  simp only [entryVacuumCancelOutcomeUnknown, requireStatus_bind_eq_ok,
    requireSameOrder_bind_eq_ok, pure_eq_ok]

/-! ### The order is gone from the venue -/

def entryVacuumOrderAbsenceConfirmed (current : TradeAggregate) (event : TicketEvent)
    (fact : EntryVacuumOrderAbsenceConfirmed) : Reduced Reduction := do
  requireStatusIn current [.entryAccepted, .entryVacuumCancelPending, .entryVacuumCancelRejected]
  requireSameOrder fact.exchangeOrderId current.entryExchangeOrderId
    "Vacuum ENTRY absence identity mismatch"
  refuse (¬ (0 ≤ fact.finalFilledQty ∧ fact.finalFilledQty ≤ current.ticket.quantity))
    ⟨"Vacuum final filled quantity is invalid"⟩
  refuse (current.entryVacuumId ≠ none ∧ current.entryVacuumId ≠ some fact.entryVacuumId)
    ⟨"Vacuum ENTRY absence lineage mismatch"⟩
  return transition current event .entryVacuumCancelled
    (fun current => { current with
      positionQty := fact.finalFilledQty
      averageFillPrice := fact.averageFillPrice
      pendingCancelExchangeOrderId := none
      entryVacuumId := some fact.entryVacuumId })
    (current.resolveFrom .entryVacuumCancelRejected "selection_vacuum_entry_cancel_rejected")

theorem entryVacuumOrderAbsenceConfirmed_eq_ok {fact : EntryVacuumOrderAbsenceConfirmed} :
    entryVacuumOrderAbsenceConfirmed current event fact = .ok result ↔
      current.status ∈
          [.entryAccepted, .entryVacuumCancelPending, .entryVacuumCancelRejected] ∧
        current.entryExchangeOrderId = some fact.exchangeOrderId ∧
        fact.finalFilledQty ≤ current.ticket.quantity ∧
        ¬ (current.entryVacuumId ≠ none ∧ current.entryVacuumId ≠ some fact.entryVacuumId) ∧
        result = transition current event .entryVacuumCancelled
          (fun current => { current with
            positionQty := fact.finalFilledQty
            averageFillPrice := fact.averageFillPrice
            pendingCancelExchangeOrderId := none
            entryVacuumId := some fact.entryVacuumId })
          (current.resolveFrom .entryVacuumCancelRejected
            "selection_vacuum_entry_cancel_rejected") := by
  simp only [entryVacuumOrderAbsenceConfirmed, requireStatusIn_bind_eq_ok,
    requireSameOrder_bind_eq_ok, refuse_bind_eq_ok, pure_eq_ok, not_not, fact.filledNonneg,
    true_and]

/-- The attribution a late observation of the original ENTRY has to rest on. -/
def entryAttribution (current : TradeAggregate) (entryCommandId exchangeOrderId
    venueClientOrderId : String) (positionObservedAtMs venueObservedAtMs : ℤ) :
    VacuumAttribution :=
  ⟨current.ticketId, entryCommandId, exchangeOrderId, venueClientOrderId,
    current.identity.nettingDomain.key, positionObservedAtMs, venueObservedAtMs⟩

/-- The late observation names another vacuum, order or command, or a position is known. -/
def differsFromCancelledEntry (current : TradeAggregate) (entryVacuumId exchangeOrderId
    entryCommandId venueClientOrderId : String) : Prop :=
  let expectedCommandId := buildCommandId current.identity.ticketId .entry 1
  some entryVacuumId ≠ current.entryVacuumId ∨
    some exchangeOrderId ≠ current.entryExchangeOrderId ∨
    entryCommandId ≠ expectedCommandId.text ∨
    venueClientOrderId ≠ (buildVenueClientOrderId expectedCommandId).text ∨
    current.positionQty ≠ 0

instance (current : TradeAggregate) (entryVacuumId exchangeOrderId entryCommandId
    venueClientOrderId : String) : Decidable (differsFromCancelledEntry current entryVacuumId
      exchangeOrderId entryCommandId venueClientOrderId) :=
  inferInstanceAs (Decidable (_ ∨ _))

def vacuumLateFillAttributed (current : TradeAggregate) (event : TicketEvent)
    (fact : VacuumLateFillAttributed) : Reduced Reduction := do
  requireStatus current .entryVacuumCancelled
  refuse (differsFromCancelledEntry current fact.entryVacuumId fact.exchangeOrderId
      fact.entryCommandId fact.venueClientOrderId ∨
      current.ticket.quantity < fact.filledQty ∨
      fact.attributionDigest ≠ vacuumLateFillProofDigest
        (entryAttribution current fact.entryCommandId fact.exchangeOrderId
          fact.venueClientOrderId fact.positionObservedAtMs fact.venueObservedAtMs)
        fact.filledQty fact.averageFillPrice)
    ⟨"late fill attribution differs from cancelled ENTRY"⟩
  return transition current event .entryVacuumCancelled
    (fun current => { current with
      positionQty := fact.filledQty
      averageFillPrice := some fact.averageFillPrice })
    []

theorem vacuumLateFillAttributed_eq_ok {fact : VacuumLateFillAttributed} :
    vacuumLateFillAttributed current event fact = .ok result ↔
      current.status = .entryVacuumCancelled ∧
        ¬ differsFromCancelledEntry current fact.entryVacuumId fact.exchangeOrderId
            fact.entryCommandId fact.venueClientOrderId ∧
        fact.filledQty ≤ current.ticket.quantity ∧
        fact.attributionDigest = vacuumLateFillProofDigest
          (entryAttribution current fact.entryCommandId fact.exchangeOrderId
            fact.venueClientOrderId fact.positionObservedAtMs fact.venueObservedAtMs)
          fact.filledQty fact.averageFillPrice ∧
        result = transition current event .entryVacuumCancelled
          (fun current => { current with
            positionQty := fact.filledQty
            averageFillPrice := some fact.averageFillPrice })
          [] := by
  simp only [vacuumLateFillAttributed, requireStatus_bind_eq_ok, refuse_bind_eq_ok, pure_eq_ok,
    not_or, not_lt, ne_eq, not_not, and_assoc]

def vacuumPostAbsenceNoFillVerified (current : TradeAggregate) (event : TicketEvent)
    (fact : VacuumPostAbsenceNoFillVerified) : Reduced Reduction := do
  requireStatus current .entryVacuumCancelled
  refuse (differsFromCancelledEntry current fact.entryVacuumId fact.exchangeOrderId
      fact.entryCommandId fact.venueClientOrderId ∨
      fact.proofDigest ≠ vacuumNoFillProofDigest
        (entryAttribution current fact.entryCommandId fact.exchangeOrderId
          fact.venueClientOrderId fact.positionObservedAtMs fact.venueObservedAtMs))
    ⟨"post-absence no-fill proof differs from cancelled ENTRY"⟩
  return closedUnfilled current event .entryReconciledAbsent unchanged
    [current.resolveIncident "vacuum_post_absence_contradiction"]

theorem vacuumPostAbsenceNoFillVerified_eq_ok {fact : VacuumPostAbsenceNoFillVerified} :
    vacuumPostAbsenceNoFillVerified current event fact = .ok result ↔
      current.status = .entryVacuumCancelled ∧
        ¬ differsFromCancelledEntry current fact.entryVacuumId fact.exchangeOrderId
            fact.entryCommandId fact.venueClientOrderId ∧
        fact.proofDigest = vacuumNoFillProofDigest
          (entryAttribution current fact.entryCommandId fact.exchangeOrderId
            fact.venueClientOrderId fact.positionObservedAtMs fact.venueObservedAtMs) ∧
        result = closedUnfilled current event .entryReconciledAbsent unchanged
          [current.resolveIncident "vacuum_post_absence_contradiction"] := by
  simp only [vacuumPostAbsenceNoFillVerified, requireStatus_bind_eq_ok, refuse_bind_eq_ok,
    pure_eq_ok, not_or, ne_eq, not_not, and_assoc]

def entryVacuumAbsenceConfirmed (current : TradeAggregate) (event : TicketEvent)
    (entryVacuumId : String) : Reduced Reduction := do
  requireStatus current .entryVacuumCancelled
  refuse (some entryVacuumId ≠ current.entryVacuumId) ⟨"Vacuum ENTRY absence lineage mismatch"⟩
  refuse (current.positionQty ≠ 0) ⟨"Vacuum ENTRY absence cannot discard filled exposure"⟩
  return closedUnfilled current event .entryReconciledAbsent unchanged []

theorem entryVacuumAbsenceConfirmed_eq_ok {entryVacuumId : String} :
    entryVacuumAbsenceConfirmed current event entryVacuumId = .ok result ↔
      current.status = .entryVacuumCancelled ∧ some entryVacuumId = current.entryVacuumId ∧
        current.positionQty = 0 ∧
        result = closedUnfilled current event .entryReconciledAbsent unchanged [] := by
  simp only [entryVacuumAbsenceConfirmed, requireStatus_bind_eq_ok, refuse_bind_eq_ok, pure_eq_ok,
    ne_eq, not_not]

/-! ### What the ENTRY filled -/

def vacuumPartialRetained (current : TradeAggregate) (event : TicketEvent)
    (fact : VacuumPartialRetained) : Reduced Reduction := do
  requireStatus current .entryVacuumCancelled
  refuse (some fact.entryVacuumId ≠ current.entryVacuumId ∨
      fact.requestedQty ≠ current.ticket.quantity ∨ fact.finalFilledQty ≠ current.positionQty ∨
      some fact.averageFillPrice ≠ current.averageFillPrice ∨
      fact.postFillRisk.disposition ≠ .normal ∨
      fact.postFillRisk.actualStopRisk ≠
        fact.finalFilledQty * |fact.averageFillPrice - current.ticket.initialStopPrice|)
    ⟨"retained Vacuum partial differs from cancelled exposure"⟩
  refuse (current.ticket.selectionAuthorityId ≠ none ∧
      fact.selectionAuthorityId ≠ current.ticket.selectionAuthorityId.map NonBlankText.text)
    ⟨"retained Vacuum partial Authority differs from Ticket birth"⟩
  refuse (current.ticket.selectionAuthorityId = none ∧ fact.selectionAuthorityId ≠ none)
    ⟨"retained Vacuum partial cannot invent Ticket Authority"⟩
  return transition current event .protectionPending
    (fun current => { current with
      actualStopRisk := some fact.postFillRisk.actualStopRisk
      postFillRiskStatus := some fact.postFillRisk.status
      postFillDisposition := some fact.postFillRisk.disposition
      tp1TargetQty := fact.effectiveTp1Qty
      entryMaterializationKind := some .vacuumPartialRetained })
    [.prepareInitialStopCommand current.ticketId fact.finalFilledQty
      current.ticket.initialStopPrice]

theorem vacuumPartialRetained_eq_ok {fact : VacuumPartialRetained} :
    vacuumPartialRetained current event fact = .ok result ↔
      current.status = .entryVacuumCancelled ∧
        (some fact.entryVacuumId = current.entryVacuumId ∧
          fact.requestedQty = current.ticket.quantity ∧
          fact.finalFilledQty = current.positionQty ∧
          some fact.averageFillPrice = current.averageFillPrice ∧
          fact.postFillRisk.disposition = .normal ∧
          fact.postFillRisk.actualStopRisk =
            fact.finalFilledQty * |fact.averageFillPrice - current.ticket.initialStopPrice|) ∧
        ¬ (current.ticket.selectionAuthorityId ≠ none ∧
          fact.selectionAuthorityId ≠
            current.ticket.selectionAuthorityId.map NonBlankText.text) ∧
        ¬ (current.ticket.selectionAuthorityId = none ∧ fact.selectionAuthorityId ≠ none) ∧
        result = transition current event .protectionPending
          (fun current => { current with
            actualStopRisk := some fact.postFillRisk.actualStopRisk
            postFillRiskStatus := some fact.postFillRisk.status
            postFillDisposition := some fact.postFillRisk.disposition
            tp1TargetQty := fact.effectiveTp1Qty
            entryMaterializationKind := some .vacuumPartialRetained })
          [.prepareInitialStopCommand current.ticketId fact.finalFilledQty
            current.ticket.initialStopPrice] := by
  simp only [vacuumPartialRetained, requireStatus_bind_eq_ok, refuse_bind_eq_ok, pure_eq_ok,
    not_or, ne_eq, not_not]

def vacuumPartialFlattenRequired (current : TradeAggregate) (event : TicketEvent)
    (fact : VacuumPartialFlattenRequired) : Reduced Reduction := do
  requireStatus current .entryVacuumCancelled
  refuse (some fact.entryVacuumId ≠ current.entryVacuumId ∨
      fact.finalFilledQty ≠ current.positionQty ∨
      some fact.averageFillPrice ≠ current.averageFillPrice)
    ⟨"Vacuum partial flatten differs from cancelled exposure"⟩
  return transition current event .controlledFlattenPending unchanged
    [current.openIncident fact.reason,
      .prepareControlledFlattenCommand current.ticketId fact.finalFilledQty]

theorem vacuumPartialFlattenRequired_eq_ok {fact : VacuumPartialFlattenRequired} :
    vacuumPartialFlattenRequired current event fact = .ok result ↔
      current.status = .entryVacuumCancelled ∧
        (some fact.entryVacuumId = current.entryVacuumId ∧
          fact.finalFilledQty = current.positionQty ∧
          some fact.averageFillPrice = current.averageFillPrice) ∧
        result = transition current event .controlledFlattenPending unchanged
          [current.openIncident fact.reason,
            .prepareControlledFlattenCommand current.ticketId fact.finalFilledQty] := by
  simp only [vacuumPartialFlattenRequired, requireStatus_bind_eq_ok, refuse_bind_eq_ok,
    pure_eq_ok, not_or, ne_eq, not_not]

end TradingKernel.Reducer
