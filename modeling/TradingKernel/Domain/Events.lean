/-
**The lifecycle facts the reducer accepts, as their validators admit them.**

A fact with a validator of its own is a structure that carries what the validator checked, so a run
of events never has to assume it. A fact without one is a constructor of `TicketFact` with its
fields.
-/

import TradingKernel.Domain.CrossMarginStress
import TradingKernel.Domain.Effects
import TradingKernel.Domain.Aggregate
import TradingKernel.Domain.PostFillRisk

namespace TradingKernel

open Text

/-! ### Validated facts -/

structure LeverageConfirmed where
  exchangeConfiguredLeverage : ℤ
  leverageVerifiedAtMs : ℤ
  leverageVerificationDigest : String
  positive : 0 < exchangeConfiguredLeverage ∧ 0 < leverageVerifiedAtMs
  digestShape : IsSha256Digest leverageVerificationDigest

structure EntryFilled where
  filledQty : ℚ
  averageFillPrice : ℚ
  postFillRisk : PostFillRiskDecision
  venueReportedLiquidationPrice : Option ℚ
  positionObservedAtMs : ℤ

structure EntryVacuumSuperseded where
  entryVacuumId : String
  commandId : String
  identities : ¬ Blank entryVacuumId ∧ ¬ Blank commandId

structure EntryVacuumCancelRequested where
  entryVacuumId : String
  exchangeOrderId : String
  observedQty : ℚ
  averageFillPrice : Option ℚ
  identities : ¬ Blank entryVacuumId ∧ ¬ Blank exchangeOrderId
  observedNonneg : 0 ≤ observedQty
  priceMatches : observedQty = 0 ↔ averageFillPrice = none
  pricePositive : ∀ price ∈ averageFillPrice, 0 < price

structure EntryVacuumOrderAbsenceConfirmed where
  entryVacuumId : String
  exchangeOrderId : String
  finalFilledQty : ℚ
  averageFillPrice : Option ℚ
  identities : ¬ Blank entryVacuumId ∧ ¬ Blank exchangeOrderId
  filledNonneg : 0 ≤ finalFilledQty
  priceMatches : finalFilledQty = 0 ↔ averageFillPrice = none
  pricePositive : ∀ price ∈ averageFillPrice, 0 < price

/-- The exact original ENTRY fill found after an initial zero-fill observation. That it was not
observed after it occurred is an obligation of the event (`TicketEvent.observedBefore`). -/
structure VacuumLateFillAttributed where
  entryVacuumId : String
  entryCommandId : String
  exchangeOrderId : String
  venueClientOrderId : String
  filledQty : ℚ
  averageFillPrice : ℚ
  positionObservedAtMs : ℤ
  venueObservedAtMs : ℤ
  attributionDigest : String
  identities : ¬ Blank entryVacuumId ∧ ¬ Blank entryCommandId ∧ ¬ Blank exchangeOrderId ∧
    ¬ Blank venueClientOrderId
  positive : 0 < filledQty ∧ 0 < averageFillPrice
  observedInOrder : 0 < positionObservedAtMs ∧ positionObservedAtMs ≤ venueObservedAtMs
  digestShape : IsSha256Digest attributionDigest

/-- The final ENTRY truth that resolves an earlier contradictory zero-fill view. -/
structure VacuumPostAbsenceNoFillVerified where
  entryVacuumId : String
  entryCommandId : String
  exchangeOrderId : String
  venueClientOrderId : String
  positionObservedAtMs : ℤ
  venueObservedAtMs : ℤ
  proofDigest : String
  identities : ¬ Blank entryVacuumId ∧ ¬ Blank entryCommandId ∧ ¬ Blank exchangeOrderId ∧
    ¬ Blank venueClientOrderId
  observedInOrder : 0 < positionObservedAtMs ∧ positionObservedAtMs ≤ venueObservedAtMs
  digestShape : IsSha256Digest proofDigest

structure VacuumPartialRetained where
  entryVacuumId : String
  selectionAuthorityId : Option String
  requestedQty : ℚ
  finalFilledQty : ℚ
  averageFillPrice : ℚ
  quantityStep : ℚ
  effectiveTp1Qty : ℚ
  effectiveRunnerQty : ℚ
  postFillRisk : PostFillRiskDecision
  identities : ¬ Blank entryVacuumId ∧ ∀ authority ∈ selectionAuthorityId, ¬ Blank authority
  positive : 0 < requestedQty ∧ 0 < finalFilledQty ∧ 0 < averageFillPrice ∧ 0 < quantityStep ∧
    0 < effectiveTp1Qty ∧ 0 < effectiveRunnerQty
  smaller : finalFilledQty < requestedQty
  aligned : (finalFilledQty / quantityStep).isInt = true
  conserved : effectiveTp1Qty + effectiveRunnerQty = finalFilledQty
  riskNonneg : 0 ≤ postFillRisk.actualStopRisk

structure VacuumPartialFlattenRequired where
  entryVacuumId : String
  finalFilledQty : ℚ
  averageFillPrice : ℚ
  reason : String
  identities : ¬ Blank entryVacuumId ∧ ¬ Blank reason
  positive : 0 < finalFilledQty ∧ 0 < averageFillPrice

/-- The proof status an assessment of a result has to rest on. -/
def StressResult.expected : StressResult → CrossMarginStressStatus
  | .passed => .passed
  | .failed => .failed

structure PostFillStressAssessed where
  status : StressResult
  evidence : CrossMarginStressEvidence
  ownerPolicyId : String
  ownerPolicyVersion : ℤ
  filledQty : ℚ
  averageFillPrice : ℚ
  initialStopPrice : ℚ
  initialStopExchangeOrderId : String
  statusOfEvidence : evidence.proof.status = status.expected
  positive : 0 < ownerPolicyVersion ∧ 0 < filledQty ∧ 0 < averageFillPrice ∧ 0 < initialStopPrice
  identities : ¬ Blank ownerPolicyId ∧ ¬ Blank initialStopExchangeOrderId

structure TakeProfitFilled where
  filledQty : ℚ
  averageFillPrice : ℚ
  runnerFloorPrice : ℚ

structure ProtectionReplacementConfirmed where
  exchangeOrderId : String
  protectedQty : ℚ
  stopPrice : ℚ
  replacesExchangeOrderId : String
  sourceWatermarkMs : ℤ

/-! ### Events -/

/-- What an event about an issued Ticket says. -/
inductive TicketFact where
  | leverageConfirmed (fact : LeverageConfirmed)
  | leverageRejected (reason : NonBlankText)
  | leverageOutcomeUnknown (reason : NonBlankText)
  | entryAccepted (exchangeOrderId : String)
  | entryRejected (reason : String)
  | entryOutcomeUnknown (reason : String)
  | entryAbsenceConfirmed (commandId : String)
  | entryFilled (fact : EntryFilled)
  | entryPartiallyFilled (filledQty requestedQty averageFillPrice : ℚ)
  | entryRemainderCancelConfirmed (exchangeOrderId : String)
  | entryRemainderCancelRejected (exchangeOrderId reason : String)
  | entryRemainderCancelOutcomeUnknown (exchangeOrderId reason : String)
  | entryVacuumSuperseded (fact : EntryVacuumSuperseded)
  | entryVacuumCancelRequested (fact : EntryVacuumCancelRequested)
  | entryVacuumCancelConfirmed (exchangeOrderId : String)
  | entryVacuumCancelRejected (exchangeOrderId reason : String)
  | entryVacuumCancelOutcomeUnknown (exchangeOrderId reason : String)
  | entryVacuumOrderAbsenceConfirmed (fact : EntryVacuumOrderAbsenceConfirmed)
  | vacuumLateFillAttributed (fact : VacuumLateFillAttributed)
  | vacuumPostAbsenceNoFillVerified (fact : VacuumPostAbsenceNoFillVerified)
  | entryVacuumAbsenceConfirmed (entryVacuumId : String)
  | vacuumPartialRetained (fact : VacuumPartialRetained)
  | vacuumPartialFlattenRequired (fact : VacuumPartialFlattenRequired)
  | initialStopConfirmed (exchangeOrderId : String) (protectedQty : ℚ)
  | postFillStressAssessed (fact : PostFillStressAssessed)
  | initialStopRejected (reason : String)
  | initialStopOutcomeUnknown (reason : String)
  | initialStopAbsenceConfirmed (commandId : String)
  | takeProfitConfirmed (exchangeOrderId : String) (targetQty : ℚ)
  | takeProfitRejected (reason : String)
  | takeProfitOutcomeUnknown (reason : String)
  | takeProfitAbsenceConfirmed (commandId : String)
  | takeProfitFilled (fact : TakeProfitFilled)
  | runnerStopRequested (stopPrice : ℚ) (sourceWatermarkMs : ℤ)
  | protectionReplacementConfirmed (fact : ProtectionReplacementConfirmed)
  | protectionReplacementRejected (reason : String)
  | protectionReplacementOutcomeUnknown (reason : String)
  | protectionReplacementAbsenceConfirmed (commandId : String)
  | exitRequested (reason : String)
  | exitAccepted (exchangeOrderId : String)
  | exitRejected (reason : String)
  | exitOutcomeUnknown (reason : String)
  | exitAbsenceConfirmed (commandId : String)
  | controlledFlattenAccepted (exchangeOrderId : String)
  | controlledFlattenRejected (reason : String)
  | controlledFlattenOutcomeUnknown (reason : String)
  | controlledFlattenAbsenceConfirmed (commandId : String)
  | positionFlatConfirmed
  | externalFlatDetected
  | ownedOrphanOrderDetected (exchangeOrderId : String) (orderNamespace : OrderNamespace)
  | ownedOrderAbsenceConfirmed (exchangeOrderId : String)
  | unownedOrderDetected (exchangeOrderId : String)
  | protectionCancelConfirmed (exchangeOrderId : String)
  | protectionCancelRejected (exchangeOrderId reason : String)
  | protectionCancelOutcomeUnknown (exchangeOrderId reason : String)
  | protectionCancelAbsenceConfirmed (exchangeOrderId : String)
  | ownedOrphanCancelConfirmed (exchangeOrderId : String)
  | cancelOrderRejected (exchangeOrderId reason : String)
  | cancelOrderOutcomeUnknown (exchangeOrderId reason : String)
  | cancelOrderAbsenceConfirmed (exchangeOrderId : String)
  | cancelOrderStillOpenConfirmed (exchangeOrderId : String)
  | reconciliationMatched (resolvedIncidentKind : Option String)
  | budgetSettled
  | reviewRecorded (reviewId : String)
  | reviewRevised (reviewId supersedesReviewId : String)

/-- The latest venue observation that an attribution rests on. -/
def TicketFact.venueObservedAtMs : TicketFact → Option ℤ
  | .vacuumLateFillAttributed fact => some fact.venueObservedAtMs
  | .vacuumPostAbsenceNoFillVerified fact => some fact.venueObservedAtMs
  | _ => none

/-- A fact that does not rest on a late venue observation. -/
abbrev PlainFact := { fact : TicketFact // fact.venueObservedAtMs = none }

/-- What every event has: an identity, its place in the Ticket's history, and its time. -/
structure EventHeader where
  eventId : NonBlankText
  sequence : ℤ
  occurredAtMs : ℤ
  positive : 0 < sequence ∧ 0 < occurredAtMs

/-- An event about an issued Ticket. -/
structure TicketEvent extends EventHeader where
  ticketId : NonBlankText
  fact : TicketFact
  observedBefore : ∀ observed ∈ fact.venueObservedAtMs, observed ≤ occurredAtMs

inductive TradeEvent where
  | ticketIssued (header : EventHeader) (ticket : TradeTicket)
  | ticketEvent (event : TicketEvent)

end TradingKernel
