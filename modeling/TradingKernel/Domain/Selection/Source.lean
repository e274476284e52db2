/-
**The source facts of a generic selection.**

The four frozen selection families with their parameters, the product contract that an event and an
instrument share, and the hourly window of one candidate with its qualification. A window is contiguous
and qualifies its own instrument by construction.
-/

import Mathlib.Algebra.Order.Ring.Rat
import Mathlib.Data.List.Chain
import TradingKernel.Domain.Identities
import TradingKernel.Lib.CanonicalJson

namespace TradingKernel.Selection

open Text CanonicalJson

/-- `HOUR_MS`. -/
def hourMs : ℤ := 3600000

/-! ### The candidates -/

/-- `CANONICAL_CANDIDATE_EXCHANGE_INSTRUMENT_IDS`, in code-point order. -/
def candidateIds : List String :=
  ["binance-usdm:ADAUSDT:perpetual", "binance-usdm:APTUSDT:perpetual",
    "binance-usdm:ARBUSDT:perpetual", "binance-usdm:ATOMUSDT:perpetual",
    "binance-usdm:AVAXUSDT:perpetual", "binance-usdm:BCHUSDT:perpetual",
    "binance-usdm:BNBUSDT:perpetual", "binance-usdm:BTCUSDT:perpetual",
    "binance-usdm:DOGEUSDT:perpetual", "binance-usdm:DOTUSDT:perpetual",
    "binance-usdm:ETCUSDT:perpetual", "binance-usdm:ETHUSDT:perpetual",
    "binance-usdm:FILUSDT:perpetual", "binance-usdm:INJUSDT:perpetual",
    "binance-usdm:LINKUSDT:perpetual", "binance-usdm:LTCUSDT:perpetual",
    "binance-usdm:NEARUSDT:perpetual", "binance-usdm:OPUSDT:perpetual",
    "binance-usdm:RUNEUSDT:perpetual", "binance-usdm:SOLUSDT:perpetual",
    "binance-usdm:SUIUSDT:perpetual", "binance-usdm:TRXUSDT:perpetual",
    "binance-usdm:UNIUSDT:perpetual", "binance-usdm:XRPUSDT:perpetual"]

theorem candidateIds_length : candidateIds.length = 24 := rfl

theorem candidateIds_nodup : candidateIds.Nodup := by decide

/-- The shape `binance-usdm:<BASE>USDT:perpetual` of a canonical instrument id. -/
def isCanonicalInstrumentId (id : String) : Bool :=
  let chars := id.toList
  let front := "binance-usdm:".toList
  let back := "USDT:perpetual".toList
  let base := (chars.drop front.length).take (chars.length - front.length - back.length)
  chars == front ++ base ++ back && !base.isEmpty &&
    base.all fun c => ('A' ≤ c && c ≤ 'Z') || ('0' ≤ c && c ≤ '9')

/-! ### Families -/

/-- `_FAMILIES`. -/
inductive SelectionFamily where
  | cpm
  | mpg
  | mi
  | brf2
  deriving DecidableEq, Repr

/-- `GenericSelectionSpecV1`: a valid spec has the frozen parameters of its family. -/
structure GenericSelectionSpecV1 where
  family : SelectionFamily
  deriving DecidableEq

namespace GenericSelectionSpecV1

variable (spec : GenericSelectionSpecV1)

def strategyGroupId : String :=
  match spec.family with
  | .cpm => "CPM-RO-001"
  | .mpg => "MPG-001"
  | .mi => "MI-001"
  | .brf2 => "BRF2-001"

def selectionSpecId : String :=
  match spec.family with
  | .cpm => "CPM_ABSOLUTE_DIRECTIONAL_EFFICIENCY_V1"
  | .mpg => "MPG_PERSISTENT_LEADERSHIP_SCORE_V1"
  | .mi => "MI_POSITIVE_IMPULSE_RECENCY_V0"
  | .brf2 => "BRF2_RESIDUAL_EXTENSION_V0"

def event : String :=
  match spec.family with
  | .cpm => "CPM-LONG"
  | .mpg => "MPG-LONG"
  | .mi => "MI-LONG"
  | .brf2 => "BRF2-SHORT"

def positionSide : PositionSide :=
  match spec.family with
  | .cpm | .mpg | .mi => .long
  | .brf2 => .short

def entryRank : ℕ :=
  match spec.family with
  | .mpg => 12
  | .cpm | .mi | .brf2 => 16

def retainRank : ℕ :=
  match spec.family with
  | .cpm | .mpg | .mi | .brf2 => 16

def cadenceHours : ℕ :=
  match spec.family with
  | .cpm | .brf2 => 4
  | .mpg | .mi => 1

def windowBars : ℕ :=
  match spec.family with
  | .cpm => 25
  | .mpg => 14
  | .mi => 13
  | .brf2 => 73

def strategyVersionId : String := "sgv:" ++ spec.strategyGroupId ++ ":v3"

def eventSpecId : String := "event_spec:" ++ spec.strategyGroupId ++ ":" ++ spec.event ++ ":v3"

def payload : Canonical :=
  .object [("selection_spec_id", .text spec.selectionSpecId),
    ("strategy_group_id", .text spec.strategyGroupId),
    ("strategy_version_id", .text spec.strategyVersionId),
    ("event_spec_id", .text spec.eventSpecId),
    ("position_side", .text spec.positionSide.value),
    ("entry_rank", .integer spec.entryRank), ("retain_rank", .integer spec.retainRank),
    ("cadence_hours", .integer spec.cadenceHours), ("window_bars", .integer spec.windowBars),
    ("candidate_ids", .array (candidateIds.map .text)), ("delay_ms", .integer 3600000),
    ("decimal_precision", .integer 38), ("decimal_rounding", .text "ROUND_HALF_EVEN"),
    ("max_consecutive_selection_miss", .integer 1),
    ("materialization_timeout_ms", .integer 1800000),
    ("numeric_contract_version", .text "decimal38-canonical-order-v1")]

def algorithmSemanticDigest : String := canonicalDigest spec.payload

/-- An instrument is retained on every rank that admits it. -/
theorem entryRank_le_retainRank : spec.entryRank ≤ spec.retainRank := by
  rcases spec with ⟨family⟩
  cases family <;> decide

/-- The selection spec id identifies the spec. -/
theorem selectionSpecId_injective :
    Function.Injective GenericSelectionSpecV1.selectionSpecId := by
  rintro ⟨first⟩ ⟨second⟩ h
  revert h
  cases first <;> cases second <;> decide

end GenericSelectionSpecV1

/-! ### Product compatibility -/

inductive ProductFamily where
  | cryptoPerpetual
  | tradfiEquityPerpetual
  deriving DecidableEq, Repr

def ProductFamily.value : ProductFamily → String
  | .cryptoPerpetual => "crypto_perpetual"
  | .tradfiEquityPerpetual => "tradfi_equity_perpetual"

inductive AssetClass where
  | crypto
  | equity
  deriving DecidableEq, Repr

def AssetClass.value : AssetClass → String
  | .crypto => "crypto"
  | .equity => "equity"

inductive ContractType where
  | perpetual
  | tradifiPerpetual
  deriving DecidableEq, Repr

def ContractType.value : ContractType → String
  | .perpetual => "PERPETUAL"
  | .tradifiPerpetual => "TRADIFI_PERPETUAL"

inductive UnderlyingType where
  | crypto
  | equity
  deriving DecidableEq, Repr

def UnderlyingType.value : UnderlyingType → String
  | .crypto => "CRYPTO"
  | .equity => "EQUITY"

inductive EntrySessionPolicy where
  | continuous
  | regularOnly
  | referenceOnly
  deriving DecidableEq, Repr

def EntrySessionPolicy.value : EntrySessionPolicy → String
  | .continuous => "continuous"
  | .regularOnly => "regular_only"
  | .referenceOnly => "reference_only"

inductive ProductProfileStatus where
  | candidate
  | reference
  | active
  | retired
  deriving DecidableEq, Repr

def ProductProfileStatus.value : ProductProfileStatus → String
  | .candidate => "candidate"
  | .reference => "reference"
  | .active => "active"
  | .retired => "retired"

/-- The product contract that an event is written for. The margin asset is always `USDT`. -/
structure ProductCompatibility where
  eventSpecId : String
  productFamily : ProductFamily
  assetClass : AssetClass
  contractType : ContractType
  underlyingType : UnderlyingType

/-- The only margin asset. -/
def usdt : String := "USDT"

/-- `registered_product_compatibilities`. -/
def registeredProductCompatibilities : List ProductCompatibility :=
  (["event_spec:CPM-RO-001:CPM-LONG:v3", "event_spec:MPG-001:MPG-LONG:v3",
      "event_spec:MI-001:MI-LONG:v3", "event_spec:SOR-001:SOR-LONG:v4",
      "event_spec:SOR-001:SOR-SHORT:v4", "event_spec:SOR-1H-001:SOR-1H-LONG:v1",
      "event_spec:SOR-1H-001:SOR-1H-SHORT:v1",
      "event_spec:BRF2-001:BRF2-SHORT:v3"].map fun eventSpecId =>
    ⟨eventSpecId, .cryptoPerpetual, .crypto, .perpetual, .crypto⟩) ++
  (["event_spec:SOR-US-EQ-PERP-001:SOR-US-LONG-15M:v1",
      "event_spec:SOR-US-EQ-PERP-001:SOR-US-SHORT-15M:v1"].map fun eventSpecId =>
    ⟨eventSpecId, .tradfiEquityPerpetual, .equity, .tradifiPerpetual, .equity⟩)

/-- `product_compatibility_for`: the one registered contract of an event. -/
def productCompatibilityFor (eventSpecId : String) : Option ProductCompatibility :=
  match registeredProductCompatibilities.filter fun item => item.eventSpecId = eventSpecId with
  | [item] => some item
  | _ => none

/-- The product profile of an instrument. -/
structure InstrumentProductProfile where
  exchangeInstrumentId : String
  productFamily : ProductFamily
  assetClass : AssetClass
  contractType : ContractType
  underlyingType : UnderlyingType
  entrySessionPolicy : EntrySessionPolicy
  status : ProductProfileStatus
  maxEntrySpreadBps : Option ℚ
  maxMarkIndexDeviationBps : Option ℚ
  venuePrefix : "binance-usdm:".toList.isPrefixOf exchangeInstrumentId.toList
  thresholdsPositive : (∀ bps ∈ maxEntrySpreadBps, 0 < bps) ∧
    ∀ bps ∈ maxMarkIndexDeviationBps, 0 < bps

def InstrumentProductProfile.payload (profile : InstrumentProductProfile) : Canonical :=
  .object [("exchange_instrument_id", .text profile.exchangeInstrumentId),
    ("product_family", .text profile.productFamily.value),
    ("asset_class", .text profile.assetClass.value),
    ("contract_type", .text profile.contractType.value),
    ("underlying_type", .text profile.underlyingType.value), ("margin_asset", .text usdt),
    ("entry_session_policy", .text profile.entrySessionPolicy.value),
    ("status", .text profile.status.value),
    ("max_entry_spread_bps", .optional .decimal profile.maxEntrySpreadBps),
    ("max_mark_index_deviation_bps", .optional .decimal profile.maxMarkIndexDeviationBps)]

/-- `require_product_compatibility` passes. -/
def ProductCompatible (compatibility : ProductCompatibility) (profile : InstrumentProductProfile) :
    Prop :=
  (profile.productFamily = compatibility.productFamily ∧
      profile.assetClass = compatibility.assetClass ∧
      profile.contractType = compatibility.contractType ∧
      profile.underlyingType = compatibility.underlyingType) ∧
    profile.status ∉ [.reference, .retired] ∧ profile.entrySessionPolicy ≠ .referenceOnly

instance (compatibility : ProductCompatibility) (profile : InstrumentProductProfile) :
    Decidable (ProductCompatible compatibility profile) :=
  inferInstanceAs (Decidable (_ ∧ _))

/-! ### Qualification -/

inductive VenueStatus where
  | pendingTrading
  | trading
  | preDelivering
  | delivering
  | delivered
  | preSettle
  | settling
  | close
  deriving DecidableEq, Repr

def VenueStatus.value : VenueStatus → String
  | .pendingTrading => "PENDING_TRADING"
  | .trading => "TRADING"
  | .preDelivering => "PRE_DELIVERING"
  | .delivering => "DELIVERING"
  | .delivered => "DELIVERED"
  | .preSettle => "PRE_SETTLE"
  | .settling => "SETTLING"
  | .close => "CLOSE"

inductive QualificationReason where
  | productProfileIncompatible
  | venueProductIncompatible
  | venueNotTrading
  deriving DecidableEq, Repr

/-- A venue product fact that is stated: stripped, and neither blank nor a placeholder. -/
def IsKnownVenueFact (value : String) : Prop :=
  ¬ Blank value ∧ strip value = value ∧ value ∉ ["UNKNOWN", "UNAVAILABLE"]

instance (value : String) : Decidable (IsKnownVenueFact value) :=
  inferInstanceAs (Decidable (_ ∧ _))

/-- `GenericSelectionQualification`. The contract of its event is the one that its validator finds. -/
structure GenericSelectionQualification where
  eventSpecId : String
  productProfile : InstrumentProductProfile
  venueContractType : String
  venueMarginAsset : String
  venueStatus : VenueStatus
  observedAtMs : ℤ
  expected : ProductCompatibility
  venueFactsKnown : IsKnownVenueFact venueContractType ∧ IsKnownVenueFact venueMarginAsset
  observed : 0 < observedAtMs
  expectedOfEvent : productCompatibilityFor eventSpecId = some expected

namespace GenericSelectionQualification

variable (qualification : GenericSelectionQualification)

def reason : Option QualificationReason :=
  if ¬ ProductCompatible qualification.expected qualification.productProfile then
    some .productProfileIncompatible
  else if qualification.venueContractType ≠ qualification.expected.contractType.value ∨
      qualification.venueMarginAsset ≠ usdt then
    some .venueProductIncompatible
  else if qualification.venueStatus = .trading then none else some .venueNotTrading

def payload : Canonical :=
  .object [("event_spec_id", .text qualification.eventSpecId),
    ("product_profile", qualification.productProfile.payload),
    ("venue_contract_type", .text qualification.venueContractType),
    ("venue_margin_asset", .text qualification.venueMarginAsset),
    ("venue_status", .text qualification.venueStatus.value),
    ("observed_at_ms", .integer qualification.observedAtMs)]

def semanticDigest : String := canonicalDigest qualification.payload

end GenericSelectionQualification

/-! ### Windows -/

/-- One closed hourly candle. -/
structure GenericSelectionCandle where
  openTimeMs : ℤ
  closeTimeMs : ℤ
  openPrice : ℚ
  high : ℚ
  low : ℚ
  close : ℚ
  baseVolume : ℚ
  quoteVolume : ℚ
  hourly : 0 ≤ openTimeMs ∧ openTimeMs % hourMs = 0 ∧ closeTimeMs = openTimeMs + hourMs
  positive : 0 < openPrice ∧ 0 < high ∧ 0 < low ∧ 0 < close
  consistent : max openPrice (max close low) ≤ high ∧ low ≤ min openPrice (min close high)
  volumesNonneg : 0 ≤ baseVolume ∧ 0 ≤ quoteVolume

/-- `canonical_values`. -/
def GenericSelectionCandle.canonicalValues (candle : GenericSelectionCandle) : Canonical :=
  .array [.integer candle.openTimeMs, .integer candle.closeTimeMs, .decimal candle.openPrice,
    .decimal candle.high, .decimal candle.low, .decimal candle.close, .decimal candle.baseVolume,
    .decimal candle.quoteVolume]

/-- The window of one member. -/
structure GenericSelectionMemberWindow where
  exchangeInstrumentId : String
  candles : List GenericSelectionCandle
  qualification : GenericSelectionQualification
  canonicalId : isCanonicalInstrumentId exchangeInstrumentId
  qualifiesMember :
    qualification.productProfile.exchangeInstrumentId = exchangeInstrumentId
  bounded : candles ≠ [] ∧ candles.length ≤ 73
  contiguous : candles.IsChain fun first second => second.openTimeMs = first.closeTimeMs

namespace GenericSelectionMemberWindow

variable (window : GenericSelectionMemberWindow)

def closedAtMs : List ℤ := window.candles.map GenericSelectionCandle.closeTimeMs

def closes : List ℚ := window.candles.map GenericSelectionCandle.close

def qualified : Bool := window.qualification.reason.isNone

def inputWindowDigest : String :=
  canonicalDigest (.object [("venue_id", .text "binance-usdm"),
    ("instrument", .text window.exchangeInstrumentId),
    ("normalization_version", .text "binance-raw-hourly-ohlcv-decimal-v1"),
    ("candles", .array (window.candles.map GenericSelectionCandle.canonicalValues)),
    ("qualification_digest", .text window.qualification.semanticDigest)])

end GenericSelectionMemberWindow

end TradingKernel.Selection
