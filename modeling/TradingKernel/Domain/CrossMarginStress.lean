/-
**The evidence of a cross-margin stop-stress assessment.**

An assessment carries the account observation it was made on, the request, and the proof. Each is
valid by construction: the account snapshot's digest is the digest of its own payload, and the
evidence binds the proof to the snapshot and to the bracket schedule of the request by their
digests.
-/

import Mathlib.Algebra.Order.Ring.Rat
import TradingKernel.Domain.Identities
import TradingKernel.Lib.CanonicalJson

namespace TradingKernel

open Text CanonicalJson

/-! ### The account observation -/

/-- One certified, effective maintenance-margin bracket. -/
structure MaintenanceMarginBracket where
  bracketId : NonBlankText
  notionalFloor : ℚ
  notionalCap : Option ℚ
  maintenanceMarginRate : ℚ
  maintenanceAmount : ℚ
  nonnegative : 0 ≤ notionalFloor ∧ 0 ≤ maintenanceAmount
  rateInRange : 0 ≤ maintenanceMarginRate ∧ maintenanceMarginRate < 1
  capExceedsFloor : ∀ cap ∈ notionalCap, 0 < cap ∧ notionalFloor < cap

/-- One open side from an instrument in the account response. -/
structure AccountRiskPosition where
  exchangeInstrumentId : NonBlankText
  positionSide : PositionSide
  quantity : ℚ
  averageEntryPrice : ℚ
  currentUnrealizedPnl : ℚ
  currentMaintenanceMargin : ℚ
  positive : 0 < quantity ∧ 0 < averageEntryPrice
  maintenanceNonneg : 0 ≤ currentMaintenanceMargin

def AccountRiskPosition.payload (position : AccountRiskPosition) : Canonical :=
  .object [("exchange_instrument_id", .text position.exchangeInstrumentId),
    ("position_side", .text position.positionSide.value),
    ("quantity", .decimal position.quantity),
    ("average_entry_price", .decimal position.averageEntryPrice),
    ("current_unrealized_pnl", .decimal position.currentUnrealizedPnl),
    ("current_maintenance_margin", .decimal position.currentMaintenanceMargin)]

/-- The fields of an account observation, less its digest. -/
structure AccountRiskFacts where
  venueId : NonBlankText
  accountId : NonBlankText
  exchangeInstrumentId : NonBlankText
  markPrice : ℚ
  configuredLeverage : ℤ
  totalWalletBalance : ℚ
  totalMarginBalance : ℚ
  totalInitialMargin : ℚ
  totalMaintenanceMargin : ℚ
  availableMargin : ℚ
  accountPositions : List AccountRiskPosition
  observedAtMs : ℤ
  validUntilMs : ℤ

/-- What is digested: every field of the snapshot but the digest itself. -/
def AccountRiskFacts.payload (facts : AccountRiskFacts) : Canonical :=
  .object [("venue_id", .text facts.venueId), ("account_id", .text facts.accountId),
    ("account_risk_mode", .text "standard_usdm_single_asset"), ("settlement_asset", .text "USDT"),
    ("position_mode", .text "independent_sides"), ("margin_mode", .text "cross"),
    ("exchange_instrument_id", .text facts.exchangeInstrumentId),
    ("mark_price", .decimal facts.markPrice),
    ("configured_leverage", .integer facts.configuredLeverage),
    ("total_wallet_balance", .decimal facts.totalWalletBalance),
    ("total_margin_balance", .decimal facts.totalMarginBalance),
    ("total_initial_margin", .decimal facts.totalInitialMargin),
    ("total_maintenance_margin", .decimal facts.totalMaintenanceMargin),
    ("available_margin", .decimal facts.availableMargin),
    ("account_positions", .array (facts.accountPositions.map AccountRiskPosition.payload)),
    ("observed_at_ms", .integer facts.observedAtMs),
    ("valid_until_ms", .integer facts.validUntilMs)]

/-- One immutable observation of the account, identified by the digest of its payload. -/
structure AccountRiskSnapshot extends AccountRiskFacts where
  snapshotDigest : String
  markPositive : 0 < markPrice
  leveragePositive : 0 < configuredLeverage
  balancesNonneg : 0 ≤ totalWalletBalance ∧ 0 ≤ totalInitialMargin ∧
    0 ≤ totalMaintenanceMargin ∧ 0 ≤ availableMargin
  window : 0 < observedAtMs ∧ observedAtMs < validUntilMs
  sidesUnique : (accountPositions.map fun position =>
    (position.exchangeInstrumentId, position.positionSide)).Nodup
  digestOfPayload : snapshotDigest = canonicalDigest toAccountRiskFacts.payload

/-! ### The request and the proof -/

/-- One projected side for the exact instrument stress interval. -/
structure StressPosition where
  positionSide : PositionSide
  quantity : ℚ
  averageEntryPrice : ℚ
  positive : 0 < quantity ∧ 0 < averageEntryPrice

/-- The typed facts of one deterministic stop-stress decision. -/
structure CrossMarginStressRequest where
  accountSnapshot : AccountRiskSnapshot
  maintenanceMarginBrackets : List MaintenanceMarginBracket
  maintenanceMarginBracketsDigest : String
  notionalCoefficient : ℚ
  notionalCoefficientCertified : Bool
  evaluatedSide : PositionSide
  referenceEntryPrice : ℚ
  initialStopPrice : ℚ
  postStopStressMultiple : ℚ
  projectedInstrumentPositions : List StressPosition
  bracketsDigestShape : IsSha256Digest maintenanceMarginBracketsDigest
  positive : 0 < notionalCoefficient ∧ 0 < referenceEntryPrice ∧ 0 < initialStopPrice ∧
    0 < postStopStressMultiple
  bracketsNonempty : maintenanceMarginBrackets ≠ []
  sidesUnique : (projectedInstrumentPositions.map StressPosition.positionSide).Nodup
  evaluatedProjected :
    evaluatedSide ∈ projectedInstrumentPositions.map StressPosition.positionSide
  stopProtective : match evaluatedSide with
    | .long => initialStopPrice < referenceEntryPrice
    | .short => referenceEntryPrice < initialStopPrice

inductive CrossMarginStressStatus where
  | passed
  | failed
  | factsContradictory
  deriving DecidableEq, Repr

def CrossMarginStressStatus.value : CrossMarginStressStatus → String
  | .passed => "passed"
  | .failed => "failed"
  | .factsContradictory => "facts_contradictory"

/-- The proof of a decision. An evaluated proof has a minimum surplus at a price, over at least one
point, and a passed one has a positive surplus; a contradictory one has a reason instead. -/
structure CrossMarginStressProof where
  snapshotDigest : String
  maintenanceMarginBracketsDigest : String
  status : CrossMarginStressStatus
  stressPrice : ℚ
  stressBoundaryClampedToZero : Bool
  minimumMarginSurplus : Option ℚ
  minimumMarginSurplusPrice : Option ℚ
  evaluatedPointCount : ℤ
  contradictionReason : Option String
  proofDigest : String
  digestShapes : IsSha256Digest snapshotDigest ∧ IsSha256Digest maintenanceMarginBracketsDigest ∧
    IsSha256Digest proofDigest
  stressPriceNonneg : 0 ≤ stressPrice
  shape : match status with
    | .factsContradictory => minimumMarginSurplus = none ∧ minimumMarginSurplusPrice = none ∧
        evaluatedPointCount = 0 ∧ ∃ reason ∈ contradictionReason, reason ≠ ""
    | evaluated => (∃ surplus ∈ minimumMarginSurplus, evaluated = .passed → 0 < surplus) ∧
        (∃ price ∈ minimumMarginSurplusPrice, 0 ≤ price) ∧ 0 < evaluatedPointCount ∧
        contradictionReason = none

/-- A request with its proof, bound to each other by their digests. -/
structure CrossMarginStressEvidence where
  request : CrossMarginStressRequest
  proof : CrossMarginStressProof
  snapshotBound : request.accountSnapshot.snapshotDigest = proof.snapshotDigest
  bracketsBound : request.maintenanceMarginBracketsDigest = proof.maintenanceMarginBracketsDigest

end TradingKernel
