/-
**The numeric core of the opening-range selections.**

A candidate has a window of 96 quarters of an hour, the last four of which are the opening range. Its
features are computed in the decimal context of 38 digits; those that qualify are ranked, and every
candidate has a decision that its own validator computes once more
(`computeOpeningRangeMemberDecisions`).
-/

import Mathlib.Data.Prod.Lex
import Mathlib.Data.String.Basic
import TradingKernel.Domain.Selection.SessionAuthority
import TradingKernel.Lib.Decimal
import TradingKernel.Lib.SortBy

namespace TradingKernel.Selection

open Text Guard CanonicalJson SortBy
open Authority (intervalMs)
open Detectors (dayMs)

/-- `DECIMAL_CONTEXT`: 38 digits, with the exponents of the default context. -/
def decimalContext : Decimal.Context := ⟨38, -1000036, 999999, by decide⟩

/-- `ACTIVITY_FLOOR_QUOTE_USDT`. -/
def activityFloorQuoteUsdt : ℚ := 20000000

/-- `_canonical_decimal`. -/
def canonicalDecimalText (value : ℚ) : Except String String := do
  let normalized ← decimalContext.finish value
  return decimalText normalized

/-! ### Words of the model -/

inductive SelectionMemberState where
  | ineligible
  | selected
  | nearThreshold
  | notSelected
  deriving DecidableEq, Repr

def SelectionMemberState.value : SelectionMemberState → String
  | .ineligible => "INELIGIBLE"
  | .selected => "SELECTED"
  | .nearThreshold => "NEAR_THRESHOLD"
  | .notSelected => "NOT_SELECTED"

inductive SelectionMemberReason where
  | invalidOrGeometry
  | invalidAtr
  | lowActivity
  deriving DecidableEq, Repr

def SelectionMemberReason.value : SelectionMemberReason → String
  | .invalidOrGeometry => "INVALID_OR_GEOMETRY"
  | .invalidAtr => "INVALID_ATR"
  | .lowActivity => "LOW_ACTIVITY"

/-! ### Windows -/

structure SelectionKline where
  openTimeMs : ℤ
  closeTimeMs : ℤ
  openPrice : ℚ
  high : ℚ
  low : ℚ
  close : ℚ
  quoteVolume : ℚ
  boundary : 0 < openTimeMs ∧ openTimeMs % intervalMs = 0
  exclusive : closeTimeMs = openTimeMs + intervalMs
  positive : 0 < openPrice ∧ 0 < high ∧ 0 < low ∧ 0 < close
  volume_nonneg : 0 ≤ quoteVolume
  high_consistent : max openPrice (max close low) ≤ high
  low_consistent : low ≤ min openPrice (min close high)

/-- The closed quarters of an hour of one candidate up to the cutoff. -/
structure SelectionSourceWindow where
  exchangeInstrumentId : String
  inputWindowStartMs : ℤ
  featureCutoffAtMs : ℤ
  klines : List SelectionKline
  canonical : isCanonicalInstrumentId exchangeInstrumentId
  length : klines.length = 96
  closed : ∀ kline ∈ klines, kline.closeTimeMs ≤ featureCutoffAtMs
  continuous : klines.map (·.openTimeMs) =
    (List.range 96).map fun index : ℕ => inputWindowStartMs + index * intervalMs
  ends : klines.getLast?.map (·.closeTimeMs) = some featureCutoffAtMs

/-- The row of a quarter of an hour in the digest of its window. -/
def SelectionKline.row (kline : SelectionKline) : Except String Canonical := do
  let openPrice ← canonicalDecimalText kline.openPrice
  let high ← canonicalDecimalText kline.high
  let low ← canonicalDecimalText kline.low
  let close ← canonicalDecimalText kline.close
  let quoteVolume ← canonicalDecimalText kline.quoteVolume
  return .array [.integer kline.openTimeMs, .text openPrice, .text high, .text low, .text close,
    .text quoteVolume]

/-- `input_window_digest`. -/
def SelectionSourceWindow.inputWindowDigest (window : SelectionSourceWindow) :
    Except String String := do
  let rows ← window.klines.mapM SelectionKline.row
  return canonicalDigest (.array rows)

/-! ### Features -/

structure OpeningRangeSelectionFeatures where
  window : SelectionSourceWindow
  orHigh : ℚ
  orLow : ℚ
  preOrAtr14 : ℚ
  ratio : ℚ
  trailingVolume : ℚ
  reason : Option SelectionMemberReason

/-- `_primary_reason`. -/
def primaryReason (orGeometryValid atrValid activityValid : Bool) : Option SelectionMemberReason :=
  if ¬ orGeometryValid then some .invalidOrGeometry
  else if ¬ atrValid then some .invalidAtr
  else if ¬ activityValid then some .lowActivity
  else none

/-- The true range of a bar after a close. -/
def trueRange (previousClose : ℚ) (bar : SelectionKline) : Except String ℚ := do
  let spread ← decimalContext.sub bar.high bar.low
  let rise ← decimalContext.sub bar.high previousClose
  let up ← decimalContext.abs rise
  let drop ← decimalContext.sub bar.low previousClose
  let down ← decimalContext.abs drop
  return max spread (max up down)

/-- The true ranges of bars, each after the close of the one before it. -/
def trueRanges (previousClose : ℚ) : List SelectionKline → Except String (List ℚ)
  | [] => .ok []
  | bar :: bars => do
      let range ← trueRange previousClose bar
      let ranges ← trueRanges bar.close bars
      return range :: ranges

/-- The width of a range over the true range, none without one. -/
def widthOverAtr (width preOrAtr14 : ℚ) : Except String ℚ :=
  if preOrAtr14 ≤ 0 then .ok 0 else decimalContext.div width preOrAtr14

/-- The features of a window. -/
def openingRangeFeatures (window : SelectionSourceWindow) :
    Except String OpeningRangeSelectionFeatures := do
  let before ← demand window.klines[77]? "tuple index out of range"
  let ranges ← trueRanges before.close ((window.klines.take 92).drop 78)
  let orBars := (window.klines.take 96).drop 92
  let orHigh ← demand (orBars.map (·.high)).max? "max() arg is an empty sequence"
  let orLow ← demand (orBars.map (·.low)).min? "min() arg is an empty sequence"
  let orWidth ← decimalContext.sub orHigh orLow
  let total ← decimalContext.sum ranges
  let preOrAtr14 ← decimalContext.div total 14
  let trailingVolume ← decimalContext.sum (window.klines.map (·.quoteVolume))
  let ratio ← widthOverAtr orWidth preOrAtr14
  return ⟨window, orHigh, orLow, preOrAtr14, ratio, trailingVolume,
    primaryReason (decide (orLow < orHigh)) (decide (0 < preOrAtr14))
      (decide (activityFloorQuoteUsdt ≤ trailingVolume))⟩

/-! ### Decisions -/

/-- `parse_binance_usdm_instrument_id`, to the symbol. -/
def parseInstrumentSymbol (exchangeInstrumentId : String) : Except String String := do
  refuse (¬ isCanonicalInstrumentId exchangeInstrumentId)
    "instrument id must be canonical Binance USD-M USDT perpetual"
  let chars := exchangeInstrumentId.toList.drop "binance-usdm:".length
  return String.ofList (chars.take (chars.length - ":perpetual".length))

/-- `_MemberDigestPayload`. -/
structure MemberDigestPayload where
  selectionSnapshotId : String
  memberDecisionId : String
  selectionSpecId : String
  sessionStartMs : ℤ
  featureCutoffAtMs : ℤ
  inputWindowStartMs : ℤ
  inputWindowEndMs : ℤ
  exchangeInstrumentId : String
  inputWindowDigest : String
  orHigh : ℚ
  orLow : ℚ
  orWidth : ℚ
  preOrAtr14 : ℚ
  preOrWidthAtr14 : ℚ
  trailing24hQuoteVolume : ℚ
  orGeometryValid : Bool
  atrValid : Bool
  activityValid : Bool
  selectionReady : Bool
  primaryReason : Option SelectionMemberReason
  secondaryReasons : List SelectionMemberReason
  stableRank : Option ℤ
  memberState : SelectionMemberState
  selected : Bool

/-- A boolean as the digest spells it. -/
def booleanText (value : Bool) : String := if value then "true" else "false"

/-- `_member_semantic_digest_payload`. -/
def memberSemanticDigest (payload : MemberDigestPayload) : Except String String := do
  let symbol ← parseInstrumentSymbol payload.exchangeInstrumentId
  let orHigh ← canonicalDecimalText payload.orHigh
  let orLow ← canonicalDecimalText payload.orLow
  let orWidth ← canonicalDecimalText payload.orWidth
  let preOrAtr14 ← canonicalDecimalText payload.preOrAtr14
  let preOrWidthAtr14 ← canonicalDecimalText payload.preOrWidthAtr14
  let trailing24hQuoteVolume ← canonicalDecimalText payload.trailing24hQuoteVolume
  return canonicalDigest (.object [
    ("selection_snapshot_id", .text payload.selectionSnapshotId),
    ("member_decision_id", .text payload.memberDecisionId),
    ("selection_spec_id", .text payload.selectionSpecId),
    ("session_start_ms", .text (toString payload.sessionStartMs)),
    ("feature_cutoff_at_ms", .text (toString payload.featureCutoffAtMs)),
    ("input_window_start_ms", .text (toString payload.inputWindowStartMs)),
    ("input_window_end_ms", .text (toString payload.inputWindowEndMs)),
    ("exchange_instrument_id", .text payload.exchangeInstrumentId),
    ("symbol", .text symbol),
    ("input_window_digest", .text payload.inputWindowDigest),
    ("source_status", .text "READY"),
    ("or_high", .text orHigh), ("or_low", .text orLow), ("or_width", .text orWidth),
    ("pre_or_atr14", .text preOrAtr14), ("pre_or_width_atr14", .text preOrWidthAtr14),
    ("trailing_24h_quote_volume", .text trailing24hQuoteVolume),
    ("or_geometry_valid", .text (booleanText payload.orGeometryValid)),
    ("atr_valid", .text (booleanText payload.atrValid)),
    ("activity_valid", .text (booleanText payload.activityValid)),
    ("selection_ready", .text (booleanText payload.selectionReady)),
    ("primary_reason", .text ((payload.primaryReason.map (·.value)).getD "")),
    ("secondary_reasons_json", .text "[]"),
    ("stable_rank", .text ((payload.stableRank.map toString).getD "")),
    ("member_state", .text payload.memberState.value),
    ("selected", .text (booleanText payload.selected))])

/-- The fields of a decision: what its digest is about, and the digest. -/
structure SelectionMemberDecisionFields extends MemberDigestPayload where
  memberSemanticDigest : String

namespace SelectionMemberDecisionFields

variable (fields : SelectionMemberDecisionFields)

/-- The fields with their identities stripped, where none of these is blank. -/
def normalize : Except String SelectionMemberDecisionFields := do
  let required (value : String) : Except String NonBlankText :=
    demand (NonBlankText.ofText? value) "Selection member identity must be non-blank"
  let selectionSnapshotId ← required fields.selectionSnapshotId
  let memberDecisionId ← required fields.memberDecisionId
  let selectionSpecId ← required fields.selectionSpecId
  let exchangeInstrumentId ← required fields.exchangeInstrumentId
  return { fields with
    selectionSnapshotId := selectionSnapshotId.text
    memberDecisionId := memberDecisionId.text
    selectionSpecId := selectionSpecId.text
    exchangeInstrumentId := exchangeInstrumentId.text }

/-- `_validate_rank_state_contract`. -/
def validateRankStateContract : Except String Unit :=
  if ¬ fields.selectionReady then do
    refuse (fields.primaryReason = none) "ineligible member requires one reason"
    refuse (fields.stableRank ≠ none) "ineligible member cannot have a stable rank"
    refuse (fields.memberState ≠ .ineligible) "ineligible member requires INELIGIBLE state"
    refuse (fields.selected = true) "ineligible member cannot be selected"
  else do
    refuse (fields.primaryReason ≠ none)
      "selection-ready member cannot have an ineligible reason"
    let rank ← demand fields.stableRank "selection-ready member requires rank 1 through 24"
    refuse (¬ (1 ≤ rank ∧ rank ≤ 24)) "selection-ready member requires rank 1 through 24"
    match fields.memberState with
    | .selected => do
        refuse (¬ (1 ≤ rank ∧ rank ≤ 7)) "selected member requires rank 1 through 7"
        refuse (¬ fields.selected = true) "SELECTED state requires selected=true"
    | .nearThreshold => do
        refuse (¬ (8 ≤ rank ∧ rank ≤ 14)) "near-threshold member requires rank 8 through 14"
        refuse (fields.selected = true) "non-selected rank state requires selected=false"
    | .notSelected => do
        refuse (rank < 15) "not-selected member requires rank 15 or later"
        refuse (fields.selected = true) "non-selected rank state requires selected=false"
    | .ineligible => .error "selection-ready member cannot use INELIGIBLE state"

/-- The times and the identity of a decision. -/
def checkIdentity : Except String Unit := do
  refuse (fields.sessionStartMs ≤ 0 ∨ fields.sessionStartMs % dayMs ≠ 0)
    "Selection member session must be exact 00:00 UTC"
  refuse (fields.featureCutoffAtMs ≠ fields.sessionStartMs + hourMs)
    "Selection member cutoff must be exact 01:00 UTC"
  refuse (fields.inputWindowStartMs ≠ fields.sessionStartMs - 23 * hourMs)
    "Selection member requires the exact 96-bar input start"
  refuse (fields.inputWindowEndMs ≠ fields.featureCutoffAtMs)
    "Selection member input window must end at feature cutoff"
  refuse (fields.memberDecisionId ≠ fields.selectionSnapshotId ++ ":" ++ fields.exchangeInstrumentId)
    "Selection member decision identity is not canonical"

/-- The numbers of a decision, computed once more. -/
def checkGeometry : Except String Unit := do
  refuse (fields.orHigh ≤ 0 ∨ fields.orLow ≤ 0) "Selection member OR prices must be positive"
  refuse (fields.preOrAtr14 < 0 ∨ fields.trailing24hQuoteVolume < 0)
    "Selection member ATR and activity must be nonnegative"
  let expectedWidth ← decimalContext.sub fields.orHigh fields.orLow
  let expectedRatio ← widthOverAtr expectedWidth fields.preOrAtr14
  refuse (fields.orWidth ≠ expectedWidth ∨ fields.preOrWidthAtr14 ≠ expectedRatio)
    "Selection member Decimal geometry is not canonical"

/-- The qualification of a decision, computed once more. -/
def checkQualification : Except String Unit := do
  let expectedGeometryValid := decide (fields.orLow < fields.orHigh)
  let expectedAtrValid := decide (0 < fields.preOrAtr14)
  let expectedActivityValid := decide (activityFloorQuoteUsdt ≤ fields.trailing24hQuoteVolume)
  refuse ((fields.orGeometryValid, fields.atrValid, fields.activityValid) ≠
      (expectedGeometryValid, expectedAtrValid, expectedActivityValid))
    "Selection member qualification booleans are not canonical"
  refuse (fields.memberState = .ineligible ∧ fields.primaryReason = none)
    "ineligible member requires one reason"
  let expectedReason := primaryReason expectedGeometryValid expectedAtrValid expectedActivityValid
  refuse (fields.primaryReason ≠ expectedReason) "Selection member primary reason is not canonical"
  refuse (fields.secondaryReasons ≠ [])
    "SOR Dynamic Selection V0 has no secondary member reasons"
  refuse (fields.selectionReady ≠ decide (expectedReason = none))
    "Selection member readiness is not canonical"

/-- The validators of `SelectionMemberDecision`, on stripped identities. -/
def check : Except String Unit := do
  refuse (¬ (IsSha256Digest fields.inputWindowDigest ∧ IsSha256Digest fields.memberSemanticDigest))
    "Selection digest must be canonical sha256"
  let _ ← parseInstrumentSymbol fields.exchangeInstrumentId
  fields.checkIdentity
  fields.checkGeometry
  fields.checkQualification
  fields.validateRankStateContract
  let digest ← Selection.memberSemanticDigest fields.toMemberDigestPayload
  refuse (fields.memberSemanticDigest ≠ digest)
    "Selection member semantic digest is not canonical"

end SelectionMemberDecisionFields

structure SelectionMemberDecision extends SelectionMemberDecisionFields where
  valid : toSelectionMemberDecisionFields.check = .ok ()

/-- `SelectionMemberDecision(...)`. -/
def selectionMemberDecision (fields : SelectionMemberDecisionFields) :
    Except String SelectionMemberDecision := do
  let fields ← fields.normalize
  certify fields.check fun valid => ⟨fields, valid⟩

/-- The payload of a decision that is built. -/
def builtPayload (selectionSnapshotId selectionSpecId : String)
    (sessionStartMs featureCutoffAtMs inputWindowStartMs : ℤ)
    (exchangeInstrumentId inputWindowDigest : String)
    (orHigh orLow orWidth preOrAtr14 preOrWidthAtr14 trailing24hQuoteVolume : ℚ)
    (stableRank : Option ℤ) (memberState : SelectionMemberState)
    (reason : Option SelectionMemberReason) : MemberDigestPayload :=
  let orGeometryValid := decide (orLow < orHigh)
  let atrValid := decide (0 < preOrAtr14)
  let activityValid := decide (activityFloorQuoteUsdt ≤ trailing24hQuoteVolume)
  { selectionSnapshotId := selectionSnapshotId
    memberDecisionId := selectionSnapshotId ++ ":" ++ exchangeInstrumentId
    selectionSpecId := selectionSpecId
    sessionStartMs := sessionStartMs
    featureCutoffAtMs := featureCutoffAtMs
    inputWindowStartMs := inputWindowStartMs
    inputWindowEndMs := featureCutoffAtMs
    exchangeInstrumentId := exchangeInstrumentId
    inputWindowDigest := inputWindowDigest
    orHigh := orHigh
    orLow := orLow
    orWidth := orWidth
    preOrAtr14 := preOrAtr14
    preOrWidthAtr14 := preOrWidthAtr14
    trailing24hQuoteVolume := trailing24hQuoteVolume
    orGeometryValid := orGeometryValid
    atrValid := atrValid
    activityValid := activityValid
    selectionReady := orGeometryValid && atrValid && activityValid
    primaryReason := reason
    secondaryReasons := []
    stableRank := stableRank
    memberState := memberState
    selected := decide (memberState = .selected) }

/-- `build_selection_member_decision`. -/
def buildSelectionMemberDecision (selectionSnapshotId selectionSpecId : String)
    (sessionStartMs featureCutoffAtMs inputWindowStartMs : ℤ)
    (exchangeInstrumentId inputWindowDigest : String)
    (orHigh orLow preOrAtr14 trailing24hQuoteVolume : ℚ) (stableRank : Option ℤ)
    (memberState : SelectionMemberState) (reason : Option SelectionMemberReason) :
    Except String SelectionMemberDecision := do
  let orWidth ← decimalContext.sub orHigh orLow
  let preOrWidthAtr14 ← widthOverAtr orWidth preOrAtr14
  let payload := builtPayload selectionSnapshotId selectionSpecId sessionStartMs featureCutoffAtMs
    inputWindowStartMs exchangeInstrumentId inputWindowDigest orHigh orLow orWidth preOrAtr14
    preOrWidthAtr14 trailing24hQuoteVolume stableRank memberState reason
  let digest ← memberSemanticDigest payload
  selectionMemberDecision ⟨payload, digest⟩

/-! ### The core -/

/-- The key of the ranking: by the ratio, then by the negated volume, then by the instrument. -/
abbrev RankKey := ℚ ×ₗ ℚ ×ₗ String

def rankKey (feature : OpeningRangeSelectionFeatures) : Except String RankKey := do
  let negated ← decimalContext.neg feature.trailingVolume
  return toLex (feature.ratio, toLex (negated, feature.window.exchangeInstrumentId))

/-- `ready_ids`. -/
def readyIds (features : List OpeningRangeSelectionFeatures) : Except String (List String) := do
  let keys ← (features.filter fun feature => feature.reason = none).mapM rankKey
  return (sortBy (fun key : RankKey => key) keys).map fun key => (ofLex (ofLex key).2).2

/-- `rank_by_instrument.get(...)`. -/
def rankOf (ready : List String) (exchangeInstrumentId : String) : Option ℤ :=
  (ready.idxOf? exchangeInstrumentId).map fun index : ℕ => (index : ℤ) + 1

/-- The state of a candidate. -/
def memberStateOf (reason : Option SelectionMemberReason) (rank : Option ℤ) : SelectionMemberState :=
  if reason ≠ none then .ineligible
  else match rank with
    | some rank => if rank ≤ 7 then .selected else if rank ≤ 7 + 7 then .nearThreshold else .notSelected
    | none => .notSelected

/-- `compute_opening_range_member_decisions`. The instruments of the windows are distinct. -/
def computeOpeningRangeMemberDecisions (sourceWindows : List SelectionSourceWindow)
    (selectionSnapshotId selectionSpecId : String) (sessionStartMs featureCutoffAtMs : ℤ) :
    Except String (List SelectionMemberDecision × ℕ) := do
  let features ← sourceWindows.mapM openingRangeFeatures
  let ready ← readyIds features
  let decisions ← candidateIds.mapM fun instrumentId => do
    let feature ← demand
      (features.find? fun feature => feature.window.exchangeInstrumentId = instrumentId) instrumentId
    let rank := rankOf ready instrumentId
    let inputWindowDigest ← feature.window.inputWindowDigest
    buildSelectionMemberDecision selectionSnapshotId selectionSpecId sessionStartMs
      featureCutoffAtMs feature.window.inputWindowStartMs instrumentId inputWindowDigest
      feature.orHigh feature.orLow feature.preOrAtr14 feature.trailingVolume rank
      (memberStateOf feature.reason rank) feature.reason
  return (decisions, ready.length)

end TradingKernel.Selection
