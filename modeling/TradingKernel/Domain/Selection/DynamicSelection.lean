/-
**The dynamic selections on the opening range.**

`run_sor_dynamic_selection_v0` and `compute_orb_selection` wrap one numeric core: they check that the
windows are those of the 24 candidates for the period, and put its decisions into a snapshot of their
own, which is checked against them.
-/

import TradingKernel.Domain.Selection.OpeningRange

namespace TradingKernel.Selection

open Text Guard CanonicalJson SortBy
open Authority (intervalMs orbSelectionSpecId)
open Detectors (dayMs)

/-! ### The digests of the algorithms -/

/-- `FROZEN_CANDIDATE_EXCHANGE_INSTRUMENT_IDS`, in the order in which they were frozen. -/
def frozenCandidateIds : List String :=
  ["BTCUSDT", "ETHUSDT", "BNBUSDT", "SOLUSDT", "XRPUSDT", "DOGEUSDT", "ADAUSDT", "AVAXUSDT",
    "LINKUSDT", "LTCUSDT", "BCHUSDT", "DOTUSDT", "NEARUSDT", "ATOMUSDT", "FILUSDT", "ETCUSDT",
    "APTUSDT", "OPUSDT", "ARBUSDT", "INJUSDT", "SUIUSDT", "TRXUSDT", "UNIUSDT", "RUNEUSDT"].map
    fun symbol => "binance-usdm:" ++ symbol ++ ":perpetual"

/-- `_algorithm_semantic_digest`. -/
def sorAlgorithmSemanticDigest : String :=
  canonicalDigest (.object [
    ("research_spec_id", .text "sor-dynamic-selection-v0"),
    ("strategy_group_id", .text "SOR-001"), ("strategy_version_id", .text "sgv:SOR-001:v4"),
    ("event_spec_ids", .array [.text "event_spec:SOR-001:SOR-LONG:v4",
      .text "event_spec:SOR-001:SOR-SHORT:v4"]),
    ("candidate_exchange_instrument_ids", .array (frozenCandidateIds.map .text)),
    ("selection_timezone", .text "UTC"), ("selection_time", .text "01:00:00"),
    ("feature_cutoff_offset_ms", .integer hourMs),
    ("eligibility_not_before_offset_ms", .integer (5 * intervalMs)),
    ("expires_offset_ms", .integer (dayMs + hourMs)), ("input_window_bars", .integer 96),
    ("or_bars", .integer 4), ("pre_or_atr_bars", .integer 14),
    ("activity_floor_quote_usdt", .text "20000000"),
    ("ranking", .array [.text "pre_or_width_atr14:asc", .text "trailing_24h_quote_volume:desc",
      .text "exchange_instrument_id:asc"]),
    ("selected_cap", .integer 7), ("near_rank_start", .integer 8), ("near_rank_end", .integer 14),
    ("decimal_context", .object [("precision", .integer 38),
      ("rounding", .text "ROUND_HALF_EVEN")]),
    ("feature_numeric_type", .text "decimal.Decimal"),
    ("canonical_decimal", .text "normalize; zero='0'; fixed-point; no exponent"),
    ("digest_serialization", .text "utf8-json; sort_keys=true; separators=(',', ':')")])

/-- The dump of the one `OrbSessionSelectionSpec`. -/
def orbSpecPayload : Canonical :=
  .object [("selection_spec_id", .text orbSelectionSpecId), ("strategy_group_id", .text "SOR-1H-001"),
    ("strategy_version_id", .text "sgv:SOR-1H-001:v1"),
    ("selection_kind", .text "orb_session_dynamic_v1"),
    ("event_spec_ids", .array [.text "event_spec:SOR-1H-001:SOR-1H-LONG:v1",
      .text "event_spec:SOR-1H-001:SOR-1H-SHORT:v1"]),
    ("candidate_ids", .array (candidateIds.map .text)), ("selected_count_max", .integer 7),
    ("near_count_max", .integer 7), ("input_window_bars", .integer 96),
    ("opening_range_bars", .integer 4), ("pre_or_atr_bars", .integer 14),
    ("activity_floor_quote_usdt", .integer 20000000), ("decimal_precision", .integer 38),
    ("decimal_rounding", .text "ROUND_HALF_EVEN"), ("entry_interval_ms", .integer 3600000),
    ("materialization_timeout_ms", .integer 1800000)]

/-! ### What both selections read -/

/-- The day of a selection, from midnight. -/
structure SelectionPeriod where
  sessionStartMs : ℤ
  positive : 0 < sessionStartMs
  midnight : sessionStartMs % dayMs = 0

namespace SelectionPeriod

variable (period : SelectionPeriod)

def featureCutoffAtMs : ℤ := period.sessionStartMs + hourMs

def expiresAtMs : ℤ := period.sessionStartMs + dayMs + hourMs

/-- A window is one of the period. -/
def Shows (window : SelectionSourceWindow) : Prop :=
  window.inputWindowStartMs = period.sessionStartMs - 23 * hourMs ∧
    window.featureCutoffAtMs = period.featureCutoffAtMs

instance (window : SelectionSourceWindow) : Decidable (period.Shows window) :=
  inferInstanceAs (Decidable (_ ∧ _))

end SelectionPeriod

/-- The instruments and the windows of decisions, for a digest. -/
def sourcePayload (decisions : List SelectionMemberDecision) : Canonical :=
  .array (decisions.map fun decision =>
    .array [.text decision.exchangeInstrumentId, .text decision.inputWindowDigest])

/-! ### `run_sor_dynamic_selection_v0` -/

/-- `SorDynamicSelectionSpecV0`: all but its identity and its installation is frozen. -/
structure SorDynamicSelectionSpecV0 where
  selectionSpecId : NonBlankText
  installedAtMs : ℤ
  installed : 0 < installedAtMs

structure SelectionSnapshotFields where
  selectionSnapshotId : String
  selectionSpecId : String
  strategyGroupId : String
  strategyVersionId : String
  sessionStartMs : ℤ
  decisionAtMs : ℤ
  featureCutoffAtMs : ℤ
  eligibilityNotBeforeMs : ℤ
  expiresAtMs : ℤ
  candidateCount : ℤ
  readyCount : ℤ
  selectedCount : ℤ
  sourceObservedAtMs : ℤ
  sourceSemanticDigest : String
  selectionSemanticDigest : String
  createdAtMs : ℤ

/-- The validators of `SelectionSnapshot`. -/
def SelectionSnapshotFields.check (fields : SelectionSnapshotFields) : Except String Unit := do
  refuse (¬ (IsSha256Digest fields.sourceSemanticDigest ∧
      IsSha256Digest fields.selectionSemanticDigest)) "Selection digest must be canonical sha256"
  refuse (fields.selectionSnapshotId ≠
      "selection:" ++ fields.selectionSpecId ++ ":" ++ toString fields.sessionStartMs)
    "Selection Snapshot identity is not canonical"
  refuse (fields.candidateCount ≠ 24) "Selection Snapshot requires exact 24 candidates"
  refuse (¬ (0 ≤ fields.readyCount ∧ fields.readyCount ≤ 24))
    "Selection Snapshot ready count is invalid"
  refuse (fields.selectedCount ≠ min 7 fields.readyCount)
    "Selection Snapshot selected count is not canonical"
  refuse (fields.featureCutoffAtMs ≠ fields.sessionStartMs + hourMs)
    "Selection Snapshot feature cutoff is invalid"
  refuse (fields.eligibilityNotBeforeMs ≠ fields.sessionStartMs + 5 * intervalMs)
    "Selection Snapshot eligibility time is invalid"
  refuse (fields.expiresAtMs ≠ fields.sessionStartMs + dayMs + hourMs)
    "Selection Snapshot expiry is invalid"
  refuse (min fields.decisionAtMs (min fields.sourceObservedAtMs fields.createdAtMs) <
      fields.featureCutoffAtMs) "Selection Snapshot cannot precede the feature cutoff"

structure SelectionSnapshot extends SelectionSnapshotFields where
  valid : toSelectionSnapshotFields.check = .ok ()

/-- The validator of `SelectionComputation`. -/
def checkComputation (snapshot : SelectionSnapshot) (decisions : List SelectionMemberDecision) :
    Except String Unit := do
  refuse ((decisions.length : ℤ) ≠ snapshot.candidateCount)
    "Selection computation requires exact member cardinality"
  refuse (decisions.map (·.exchangeInstrumentId) ≠
      sortBy (fun id : String => id) (decisions.map (·.exchangeInstrumentId)))
    "Selection member decisions must use canonical order"
  refuse (∃ decision ∈ decisions, decision.selectionSnapshotId ≠ snapshot.selectionSnapshotId ∨
      decision.selectionSpecId ≠ snapshot.selectionSpecId ∨
      decision.sessionStartMs ≠ snapshot.sessionStartMs)
    "Selection member lineage differs from Snapshot"

structure SelectionComputation where
  snapshot : SelectionSnapshot
  memberDecisions : List SelectionMemberDecision
  valid : checkComputation snapshot memberDecisions = .ok ()

/-- The identity of the snapshot of a period. -/
def sorSnapshotId (spec : SorDynamicSelectionSpecV0) (period : SelectionPeriod) : String :=
  "selection:" ++ spec.selectionSpecId.text ++ ":" ++ toString period.sessionStartMs

/-- The digest of a selection. -/
def sorSelectionDigest (spec : SorDynamicSelectionSpecV0) (period : SelectionPeriod)
    (decisions : List SelectionMemberDecision) (readyCount : ℕ) : String :=
  canonicalDigest (.object [
    ("selection_spec_digest", .text sorAlgorithmSemanticDigest),
    ("selection_spec_id", .text spec.selectionSpecId.text),
    ("session_start_ms", .integer period.sessionStartMs),
    ("feature_cutoff_at_ms", .integer period.featureCutoffAtMs),
    ("eligibility_not_before_ms", .integer (period.sessionStartMs + 5 * intervalMs)),
    ("expires_at_ms", .integer period.expiresAtMs), ("candidate_count", .integer decisions.length),
    ("ready_count", .integer readyCount), ("selected_count", .integer (min 7 (readyCount : ℤ))),
    ("source_semantic_digest", .text (canonicalDigest (sourcePayload decisions))),
    ("member_semantic_digests",
      .array (decisions.map fun decision => .text decision.memberSemanticDigest))])

/-- The snapshot of decisions, and both together. -/
def sorComputation (spec : SorDynamicSelectionSpecV0) (period : SelectionPeriod)
    (decisionAtMs sourceObservedAtMs createdAtMs : ℤ) (decisions : List SelectionMemberDecision)
    (readyCount : ℕ) : Except String SelectionComputation := do
  let fields : SelectionSnapshotFields := {
    selectionSnapshotId := sorSnapshotId spec period
    selectionSpecId := spec.selectionSpecId.text
    strategyGroupId := "SOR-001"
    strategyVersionId := "sgv:SOR-001:v4"
    sessionStartMs := period.sessionStartMs
    decisionAtMs := decisionAtMs
    featureCutoffAtMs := period.featureCutoffAtMs
    eligibilityNotBeforeMs := period.sessionStartMs + 5 * intervalMs
    expiresAtMs := period.expiresAtMs
    candidateCount := decisions.length
    readyCount := readyCount
    selectedCount := min 7 (readyCount : ℤ)
    sourceObservedAtMs := sourceObservedAtMs
    sourceSemanticDigest := canonicalDigest (sourcePayload decisions)
    selectionSemanticDigest := sorSelectionDigest spec period decisions readyCount
    createdAtMs := createdAtMs }
  let snapshot : SelectionSnapshot ← certify fields.check fun valid => ⟨fields, valid⟩
  certify (checkComputation snapshot decisions) fun valid => ⟨snapshot, decisions, valid⟩

/-- `run_sor_dynamic_selection_v0`. -/
def runSorDynamicSelectionV0 (spec : SorDynamicSelectionSpecV0) (period : SelectionPeriod)
    (sourceWindows : List SelectionSourceWindow)
    (decisionAtMs sourceObservedAtMs createdAtMs : ℤ) : Except String SelectionComputation := do
  let actualCandidates := sortBy (fun id : String => id) (sourceWindows.map (·.exchangeInstrumentId))
  refuse (sourceWindows.length ≠ 24 ∨ actualCandidates ≠ candidateIds)
    "Selection source requires exact 24 canonical Candidate windows"
  refuse (¬ actualCandidates.Nodup) "Selection source requires exact 24 unique Candidate windows"
  refuse (∃ window ∈ sourceWindows, ¬ period.Shows window)
    "Selection source window identity differs from Selection Period"
  let (decisions, readyCount) ← computeOpeningRangeMemberDecisions sourceWindows
    (sorSnapshotId spec period) spec.selectionSpecId.text period.sessionStartMs
    period.featureCutoffAtMs
  sorComputation spec period decisionAtMs sourceObservedAtMs createdAtMs decisions readyCount

/-! ### `compute_orb_selection` -/

/-- `require_orb_epoch`. -/
def requireOrbEpoch (epoch : String) : Except String Unit :=
  refuse (Blank epoch ∨ epoch ≠ strip epoch ∨ 160 < epoch.length ∨ epoch = "sor-v0")
    "hourly ORB requires independent bounded epoch"

/-- `orb_snapshot_identity`. -/
def orbSnapshotIdentity (epoch : String) (sessionStartMs : ℤ) : Except String String := do
  requireOrbEpoch epoch
  let digest := canonicalDigest (.object [("selection_spec_id", .text orbSelectionSpecId),
    ("selection_epoch_id", .text epoch), ("session_start_ms", .integer sessionStartMs)])
  return "selection:orb:" ++ String.ofList (digest.toList.drop 7)

structure OrbSnapshotFields where
  selectionSnapshotId : String
  selectionEpochId : String
  sessionStartMs : ℤ
  featureCutoffAtMs : ℤ
  eligibilityNotBeforeMs : ℤ
  expiresAtMs : ℤ
  decisionAtMs : ℤ
  sourceObservedAtMs : ℤ
  createdAtMs : ℤ
  readyCount : ℤ
  selectedCount : ℤ
  sourceSemanticDigest : String
  selectionSemanticDigest : String

/-- The validators of `OrbSessionSelectionSnapshot`. -/
def OrbSnapshotFields.check (fields : OrbSnapshotFields) : Except String Unit := do
  refuse (¬ (IsSha256Digest fields.sourceSemanticDigest ∧
      IsSha256Digest fields.selectionSemanticDigest)) "Selection digest must be canonical sha256"
  refuse (fields.sessionStartMs ≤ 0 ∨ fields.sessionStartMs % dayMs ≠ 0)
    "hourly ORB period requires exact UTC day, cutoff and eligibility clocks"
  requireOrbEpoch fields.selectionEpochId
  let identity ← orbSnapshotIdentity fields.selectionEpochId fields.sessionStartMs
  refuse (fields.selectionSnapshotId ≠ identity)
    "hourly ORB Snapshot identity differs from its exact epoch and Session"
  refuse ((fields.featureCutoffAtMs, fields.eligibilityNotBeforeMs, fields.expiresAtMs) ≠
      (fields.sessionStartMs + hourMs, fields.sessionStartMs + 2 * hourMs,
        fields.sessionStartMs + dayMs + hourMs))
    "hourly ORB Snapshot time mismatch"
  refuse (¬ (fields.sessionStartMs + hourMs ≤ fields.decisionAtMs ∧
      fields.decisionAtMs ≤ fields.sourceObservedAtMs ∧
      fields.sourceObservedAtMs ≤ fields.createdAtMs ∧ fields.createdAtMs < fields.expiresAtMs))
    "hourly ORB source cannot precede cutoff or commit after expiry"
  refuse (¬ (0 ≤ fields.readyCount ∧ fields.readyCount ≤ 24) ∨
      fields.selectedCount ≠ min 7 fields.readyCount)
    "hourly ORB member counts differ from frozen rank"

structure OrbSessionSelectionSnapshot extends OrbSnapshotFields where
  valid : toOrbSnapshotFields.check = .ok ()

/-- The validator of `OrbSessionSelectionComputation`. -/
def checkOrbComputation (snapshot : OrbSessionSelectionSnapshot)
    (decisions : List SelectionMemberDecision) : Except String Unit :=
  refuse (decisions.map (·.exchangeInstrumentId) ≠ candidateIds ∨
      ∃ decision ∈ decisions, decision.selectionSnapshotId ≠ snapshot.selectionSnapshotId ∨
        decision.selectionSpecId ≠ orbSelectionSpecId ∨
        decision.sessionStartMs ≠ snapshot.sessionStartMs)
    "hourly ORB members do not belong to exact Snapshot"

structure OrbSessionSelectionComputation where
  snapshot : OrbSessionSelectionSnapshot
  memberDecisions : List SelectionMemberDecision
  valid : checkOrbComputation snapshot memberDecisions = .ok ()

/-- The digest of an hourly selection. -/
def orbSelectionDigest (period : SelectionPeriod) (selectionEpochId : String)
    (decisions : List SelectionMemberDecision) : String :=
  canonicalDigest (.object [("spec", orbSpecPayload),
    ("selection_epoch_id", .text selectionEpochId),
    ("period", .object [("session_start_ms", .integer period.sessionStartMs),
      ("feature_cutoff_at_ms", .integer period.featureCutoffAtMs),
      ("prepare_not_before_ms", .integer period.featureCutoffAtMs),
      ("eligibility_not_before_ms", .integer (period.sessionStartMs + 2 * hourMs)),
      ("snapshot_expires_at_ms", .integer period.expiresAtMs),
      ("trading_expires_at_ms", .integer (period.sessionStartMs + dayMs))]),
    ("source_semantic_digest", .text (canonicalDigest (sourcePayload decisions))),
    ("member_semantic_digests",
      .array (decisions.map fun decision => .text decision.memberSemanticDigest))])

/-- The snapshot of hourly decisions, and both together. -/
def orbComputation (period : SelectionPeriod) (selectionEpochId snapshotId : String)
    (decisionAtMs sourceObservedAtMs createdAtMs : ℤ) (decisions : List SelectionMemberDecision)
    (readyCount : ℕ) : Except String OrbSessionSelectionComputation := do
  let fields : OrbSnapshotFields := {
    selectionSnapshotId := snapshotId
    selectionEpochId := selectionEpochId
    sessionStartMs := period.sessionStartMs
    featureCutoffAtMs := period.featureCutoffAtMs
    eligibilityNotBeforeMs := period.sessionStartMs + 2 * hourMs
    expiresAtMs := period.expiresAtMs
    decisionAtMs := decisionAtMs
    sourceObservedAtMs := sourceObservedAtMs
    createdAtMs := createdAtMs
    readyCount := readyCount
    selectedCount := min 7 (readyCount : ℤ)
    sourceSemanticDigest := canonicalDigest (sourcePayload decisions)
    selectionSemanticDigest := orbSelectionDigest period selectionEpochId decisions }
  let snapshot : OrbSessionSelectionSnapshot ← certify fields.check fun valid => ⟨fields, valid⟩
  certify (checkOrbComputation snapshot decisions) fun valid => ⟨snapshot, decisions, valid⟩

/-- `compute_orb_selection`. -/
def computeOrbSelection (period : SelectionPeriod) (selectionEpochId : String)
    (sourceWindows : List SelectionSourceWindow)
    (decisionAtMs sourceObservedAtMs createdAtMs : ℤ) :
    Except String OrbSessionSelectionComputation := do
  requireOrbEpoch selectionEpochId
  refuse (sortBy (fun id : String => id) (sourceWindows.map (·.exchangeInstrumentId)) ≠ candidateIds ∨
      ∃ window ∈ sourceWindows, ¬ period.Shows window)
    "hourly ORB requires exact Candidate24 windows at 01:00 cutoff"
  let snapshotId ← orbSnapshotIdentity selectionEpochId period.sessionStartMs
  let (decisions, readyCount) ← computeOpeningRangeMemberDecisions sourceWindows snapshotId
    orbSelectionSpecId period.sessionStartMs period.featureCutoffAtMs
  orbComputation period selectionEpochId snapshotId decisionAtMs sourceObservedAtMs createdAtMs
    decisions readyCount

end TradingKernel.Selection
