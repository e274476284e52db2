/-
**What an ENTRY is admitted on: the signal, the snapshot, the policy, the usage, the rules and the
exit.**

Every structure is an accepted input model: its validators are its fields. The fields that the building
of a claim neither reads nor digests are left out, and an exit profile carries its semantic hash, which
covers all of its parameters.
-/

import TradingKernel.Domain.CapacitySizing
import TradingKernel.Domain.Commands
import TradingKernel.Domain.CrossMarginStress
import TradingKernel.Domain.Detectors.Detector
import TradingKernel.Domain.Ticket

namespace TradingKernel

open Text CanonicalJson
open Detectors (SignalFactSnapshot FactRole RegisteredStrategyContract EventId)

/-! ### Stored decimals -/

/-- `_PERSISTED_DECIMAL_QUANTUM`: a stored decimal has eighteen digits behind the point. -/
def persistedDecimalQuantum : ℚ := 1 / 10 ^ 18

/-- `_quantize_storage_decimal`, rounding down. -/
def quantizeStorageDecimal (value : ℚ) : ℚ := floorTo persistedDecimalQuantum value

/-- `_quantize_storage_decimal`, rounding up. -/
def quantizeStorageDecimalUp (value : ℚ) : ℚ := ceilTo persistedDecimalQuantum value

theorem persistedDecimalQuantum_pos : 0 < persistedDecimalQuantum := by
  norm_num [persistedDecimalQuantum]

/-! ### The signal -/

/-- One detected strategy event. -/
structure StrategySignal where
  signalEventId : NonBlankText
  exposureEpisodeId : NonBlankText
  runtimeScopeId : NonBlankText
  runtimeScopeVersion : ℤ
  strategyGroupId : NonBlankText
  strategyVersionId : NonBlankText
  eventSpecId : NonBlankText
  universeVersionId : NonBlankText
  universeSemanticDigest : String
  exchangeInstrumentId : NonBlankText
  positionSide : PositionSide
  factDigest : String
  occurredAtMs : ℤ
  observedAtMs : ℤ
  expiresAtMs : ℤ
  facts : List SignalFactSnapshot
  selectionAuthorityId : Option NonBlankText
  digestShapes : IsSha256Digest factDigest ∧ IsSha256Digest universeSemanticDigest
  scopeVersionPositive : 0 < runtimeScopeVersion
  factsUnique : (facts.map (·.factDefinitionId)).Nodup
  oneProtection : (facts.filter fun fact => fact.role = .protectionReference).length = 1
  window : 0 < occurredAtMs ∧ occurredAtMs ≤ observedAtMs ∧ observedAtMs < expiresAtMs

/-- The exposure family of a registered event. -/
def Detectors.EventId.exposureFamily : EventId → ExposureFamily
  | .cpmLong | .mpgLong | .miLong => .longContinuation
  | .brf2Short => .rallyFailureShort
  | _ => .openingRange

/-- The lifecycle fact whose price has to be reclaimed before TP1. -/
def Detectors.EventId.preTp1ReclaimReferenceFact : EventId → Option String
  | .sorLong => some "opening_range_high_reference_v3"
  | .sorShort => some "opening_range_low_reference_v3"
  | .sor1hLong => some "opening_range_high_reference_1h_v1"
  | .sor1hShort => some "opening_range_low_reference_1h_v1"
  | .sorUsLong15m => some "opening_range_high_reference_us_v1"
  | .sorUsShort15m => some "opening_range_low_reference_us_v1"
  | _ => none

/-- The lifecycle fact that says when the session of the exposure ends. -/
def Detectors.EventId.exposureSessionEndReferenceFact : EventId → Option String
  | .sorLong | .sorShort => some "session_end_ms_v3"
  | .sor1hLong | .sor1hShort => some "session_end_ms_1h_v1"
  | .sorUsLong15m | .sorUsShort15m => some "session_exit_deadline_ms_us_v1"
  | _ => none

/-! ### The admission snapshot -/

def OrderSide.value : OrderSide → String
  | .buy => "buy"
  | .sell => "sell"

def OrderNamespace.value : OrderNamespace → String
  | .regular => "regular"
  | .conditional => "conditional"

structure AdmissionOrder where
  exchangeOrderId : NonBlankText
  venueClientOrderId : Option NonBlankText
  exchangeInstrumentId : NonBlankText
  positionSide : PositionSide
  reduceOnly : Bool
  orderNamespace : OrderNamespace
  orderSide : Option OrderSide
  quantity : Option ℚ
  triggerPrice : Option ℚ
  limitPrice : Option ℚ
  positive : ∀ value ∈ [quantity, triggerPrice, limitPrice].reduceOption, 0 < value

def AdmissionOrder.payload (order : AdmissionOrder) : Canonical :=
  .object [("exchange_order_id", .text order.exchangeOrderId),
    ("venue_client_order_id", .optional (fun id => .text id.text) order.venueClientOrderId),
    ("exchange_instrument_id", .text order.exchangeInstrumentId),
    ("position_side", .text order.positionSide.value), ("reduce_only", .boolean order.reduceOnly),
    ("order_namespace", .text order.orderNamespace.value),
    ("order_side", .optional (fun side => .text side.value) order.orderSide),
    ("quantity", .optional .decimal order.quantity),
    ("trigger_price", .optional .decimal order.triggerPrice),
    ("limit_price", .optional .decimal order.limitPrice)]

/-- One observation cycle of the venue. -/
structure EntryAdmissionSnapshot where
  accountRiskSnapshot : AccountRiskSnapshot
  bestBidPrice : ℚ
  bestAskPrice : ℚ
  openOrders : List AdmissionOrder
  observedAtMs : ℤ
  validUntilMs : ℤ
  quotesPositive : 0 < bestBidPrice ∧ 0 < bestAskPrice
  window : 0 < observedAtMs ∧ observedAtMs < validUntilMs
  windowsAgree : accountRiskSnapshot.observedAtMs = observedAtMs ∧
    accountRiskSnapshot.validUntilMs = validUntilMs
  notCrossed : bestBidPrice ≤ bestAskPrice
  ordersUnique : (openOrders.map (·.exchangeOrderId)).Nodup

/-! ### The health of account and instrument -/

inductive AccountEntryHealthStatus where
  | healthy
  | runtimeFenced
  | accountIncident
  | unknownCommandOutcome
  | unownedPosition
  | unownedOrder
  deriving DecidableEq, Repr

/-- The classification of an account; its digests are those of `canonical_digest`. -/
structure AccountEntryHealth where
  status : AccountEntryHealthStatus
  entryAdmissionSnapshotDigest : String
  decisionDigest : String
  digestShape : IsSha256Digest decisionDigest

inductive InstrumentEntryHealthStatus where
  | healthyFlat
  | healthyOppositeSide
  | sameDirectionOccupied
  | runtimeFenced
  | unknownCommandOutcome
  | unownedPosition
  | unownedOrder
  | ownedResidualOrder
  | leverageDomainIncident
  deriving DecidableEq, Repr

/-- The classification of an instrument; its digests are those of `canonical_digest`. -/
structure InstrumentEntryHealth where
  status : InstrumentEntryHealthStatus
  entryAdmissionSnapshotDigest : String
  decisionDigest : String
  digestShape : IsSha256Digest decisionDigest

/-! ### Policy, usage and rules -/

structure CapacityPolicy where
  ownerPolicyId : NonBlankText
  policyVersion : ℤ
  maxConcurrentTickets : ℤ
  maxSameStrategySide : Option ℤ
  familyTicketLimits : ExposureFamily → ℤ
  maxTicketStopRiskFraction : ℚ
  maxGrossStopRiskFraction : ℚ
  maxTicketInitialMarginFraction : ℚ
  maxGrossInitialMarginUtilization : ℚ
  directionalStopRiskLimitFraction : ℚ
  minMaterializationRatio : ℚ
  maxLeverage : ℤ
  postStopStressMultiple : ℚ
  maxPostFillStopRiskOverrunFraction : ℚ
  familyLimitsPositive : ∀ exposureFamily, 0 < familyTicketLimits exposureFamily
  countsPositive : 0 < policyVersion ∧ 0 < maxConcurrentTickets ∧ 0 < maxLeverage
  fractions : IsFraction maxTicketStopRiskFraction ∧ IsFraction maxGrossStopRiskFraction ∧
    IsFraction maxTicketInitialMarginFraction ∧ IsFraction maxGrossInitialMarginUtilization ∧
    IsFraction directionalStopRiskLimitFraction ∧ IsFraction minMaterializationRatio
  multiplePositive : 0 < postStopStressMultiple
  sideLimitPositive : ∀ limit ∈ maxSameStrategySide, 0 < limit
  overrunInRange : 0 ≤ maxPostFillStopRiskOverrunFraction ∧ maxPostFillStopRiskOverrunFraction < 1

structure CapacityUsage where
  grossRiskAtStop : ℚ
  currentReservedMargin : ℚ
  directionalRiskAtStop : ℚ
  activeTicketCount : ℤ
  activeFamilyTicketCount : ℤ
  activeStrategySideTicketCount : ℤ
  nonnegative : 0 ≤ grossRiskAtStop ∧ 0 ≤ currentReservedMargin ∧ 0 ≤ directionalRiskAtStop
  countsNonneg : 0 ≤ activeTicketCount ∧ 0 ≤ activeFamilyTicketCount ∧
    0 ≤ activeStrategySideTicketCount

structure CapacityInstrumentRules where
  venueId : NonBlankText
  exchangeInstrumentId : NonBlankText
  quantityStep : ℚ
  priceTick : ℚ
  minQuantity : ℚ
  minNotional : ℚ
  exchangeMaxLeverage : ℤ
  maintenanceMarginBrackets : List MaintenanceMarginBracket
  maintenanceMarginBracketsDigest : String
  notionalCoefficient : ℚ
  notionalCoefficientCertified : Bool
  projectionVersion : ℤ
  observedAtMs : ℤ
  validUntilMs : ℤ
  positive : 0 < quantityStep ∧ 0 < priceTick ∧ 0 < minQuantity ∧ 0 < minNotional ∧
    0 < notionalCoefficient
  authority : 0 < projectionVersion ∧ 0 < observedAtMs ∧ observedAtMs < validUntilMs
  leveragePositive : 0 < exchangeMaxLeverage
  bracketsNonempty : maintenanceMarginBrackets ≠ []
  digestShape : IsSha256Digest maintenanceMarginBracketsDigest

/-! ### The exit -/

inductive PreTp1GuardKind where
  | reclaimReference
  | sessionExpiry
  deriving DecidableEq, Repr

structure TakeProfitRule where
  rewardMultiple : ℚ
  quantityFraction : ℚ
  rewardPositive : 0 < rewardMultiple
  fractionInRange : 0 < quantityFraction ∧ quantityFraction < 1

structure ExitProfile where
  exitProfileId : NonBlankText
  positionSide : PositionSide
  tp1 : TakeProfitRule
  preTp1Guards : List PreTp1GuardKind
  semanticHash : String
  hashShape : IsSha256Digest semanticHash

structure ExitProfileRecord where
  profile : ExitProfile
  active : Bool

structure EventExitBinding where
  exitBindingId : NonBlankText
  eventSpecId : NonBlankText
  exitProfileId : NonBlankText
  exitProfileSemanticHash : String
  bindingSemanticHash : String
  hashShape : IsSha256Digest bindingSemanticHash

structure CurrentEventExitBinding where
  eventSpecId : NonBlankText
  exitBindingId : NonBlankText
  bindingSemanticHash : String
  projectionVersion : ℤ
  versionPositive : 0 < projectionVersion

end TradingKernel
