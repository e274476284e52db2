/-
**Generic selection snapshots.**

`computeGenericSelection` ranks the candidates of an input by their features and decides each member
from its qualification, its rank and the predecessor's selected members. Decisions and snapshots carry
the proof that their validators pass: a computation returns a snapshot or the first refusal.
-/

import TradingKernel.Domain.Selection.Features

namespace TradingKernel.Selection

open Text CanonicalJson Guard

/-! ### Member decisions -/

structure MemberDecisionFields where
  exchangeInstrumentId : String
  featureValue : ℚ
  stableRank : ℕ
  qualified : Bool
  selected : Bool
  retained : Bool
  inputWindowDigest : String
  qualification : GenericSelectionQualification

/-- `_valid_decision`. -/
def MemberDecisionFields.check (fields : MemberDecisionFields) : Except String Unit := do
  refuse (¬ (1 ≤ fields.stableRank ∧ fields.stableRank ≤ 24)) "invalid feature/rank"
  refuse (¬ IsSha256Digest fields.inputWindowDigest) "invalid canonical SHA-256 identity"
  refuse (fields.qualification.productProfile.exchangeInstrumentId ≠ fields.exchangeInstrumentId)
    "member qualification instrument differs"
  refuse (fields.qualified ≠ fields.qualification.reason.isNone)
    "member qualification reason differs"
  refuse ((¬ fields.qualified ∧ (fields.selected ∨ fields.retained)) ∨
      (fields.retained ∧ ¬ fields.selected))
    "invalid member qualification/retention"

structure GenericSelectionMemberDecision extends MemberDecisionFields where
  valid : toMemberDecisionFields.check = .ok ()

/-- The decision on the fields, refused where its validator refuses. -/
def GenericSelectionMemberDecision.ofFields (fields : MemberDecisionFields) :
    Except String GenericSelectionMemberDecision :=
  certify fields.check fun valid => ⟨fields, valid⟩

/-! ### Snapshots -/

/-- What the id of a snapshot is the digest of: its spec, its epoch and its period. -/
def periodPayload (spec : GenericSelectionSpecV1) (epoch : String) (cutoff : ℤ) : Canonical :=
  .object [("spec", .text spec.selectionSpecId), ("epoch", .text epoch),
    ("cutoff", .integer cutoff)]

/-- `"selection:" + canonical_digest(...)[7:]`. -/
def selectionSnapshotIdOf (spec : GenericSelectionSpecV1) (epoch : String) (cutoff : ℤ) : String :=
  "selection:" ++ String.ofList ((canonicalDigest (periodPayload spec epoch cutoff)).toList.drop 7)

/-- The fields of a snapshot; its strategy group, spec id and spec digest are those of `spec`. -/
structure SnapshotFields where
  selectionSnapshotId : String
  spec : GenericSelectionSpecV1
  selectionEpochId : String
  featureCutoffAtMs : ℤ
  effectiveFromMs : ℤ
  expiresAtMs : ℤ
  committedAtMs : ℤ
  predecessorSnapshotId : Option String
  predecessorMemberDigest : Option String
  members : List GenericSelectionMemberDecision
  sourceSemanticDigest : String

/-- The order of the members: descending by feature, then ascending by instrument. -/
def MemberRankedBefore (first second : GenericSelectionMemberDecision) : Prop :=
  RankedBefore (first.exchangeInstrumentId, first.featureValue)
    (second.exchangeInstrumentId, second.featureValue)

instance : DecidableRel MemberRankedBefore := fun _ _ => inferInstanceAs (Decidable (RankedBefore _ _))

/-- What the snapshot asks of one member. -/
def SnapshotFields.checkMember (fields : SnapshotFields)
    (member : GenericSelectionMemberDecision) : Except String Unit := do
  refuse (member.qualification.eventSpecId ≠ fields.spec.eventSpecId ∨
      ¬ (fields.featureCutoffAtMs ≤ member.qualification.observedAtMs ∧
        member.qualification.observedAtMs ≤ fields.committedAtMs))
    "snapshot qualification Event/time differs"
  let expectedSelected := member.qualified &&
    (member.stableRank ≤ fields.spec.entryRank || member.retained)
  refuse (member.selected ≠ expectedSelected ∨
      (member.selected ∧ fields.spec.retainRank < member.stableRank) ∨
      (member.retained ∧ fields.predecessorSnapshotId = none))
    "snapshot membership exceeds frozen admission/retention"

/-- `_snapshot_contract`. -/
def SnapshotFields.check (fields : SnapshotFields) : Except String Unit := do
  let t := fields.featureCutoffAtMs
  refuse (Blank fields.selectionEpochId ∨ t ≤ 0 ∨ t % (fields.spec.cadenceHours * hourMs) ≠ 0)
    "invalid snapshot period/epoch"
  refuse (fields.effectiveFromMs ≠ t + hourMs ∨
      fields.expiresAtMs ≠ t + (fields.spec.cadenceHours + 1) * hourMs ∨ fields.committedAtMs < t)
    "invalid snapshot time"
  refuse (fields.selectionSnapshotId ≠ selectionSnapshotIdOf fields.spec fields.selectionEpochId t)
    "snapshot ID differs from epoch/period"
  refuse (fields.predecessorSnapshotId.isNone ≠ fields.predecessorMemberDigest.isNone)
    "incomplete predecessor identity"
  refuse (fields.predecessorSnapshotId = some fields.selectionSnapshotId)
    "snapshot cannot precede itself"
  refuse (∃ digest ∈ fields.predecessorMemberDigest, ¬ IsSha256Digest digest)
    "invalid canonical SHA-256 identity"
  refuse (¬ IsSha256Digest fields.sourceSemanticDigest) "invalid canonical SHA-256 identity"
  refuse ((fields.members.map fun member => member.exchangeInstrumentId).insertionSort (· ≤ ·)
      ≠ candidateIds)
    "snapshot requires complete Candidate24"
  refuse (¬ fields.members.Pairwise MemberRankedBefore ∨
      (fields.members.map fun member => member.stableRank) ≠ List.range' 1 24)
    "snapshot ranking differs from frozen order"
  fields.members.forM fields.checkMember

structure GenericSelectionSnapshotV1 extends SnapshotFields where
  valid : toSnapshotFields.check = .ok ()

/-- The snapshot on the fields, refused where its validator refuses. -/
def GenericSelectionSnapshotV1.ofFields (fields : SnapshotFields) :
    Except String GenericSelectionSnapshotV1 :=
  certify fields.check fun valid => ⟨fields, valid⟩

namespace GenericSelectionSnapshotV1

variable (snapshot : GenericSelectionSnapshotV1)

/-- The selected instruments, ascending. -/
def selectedMembers : List String :=
  ((snapshot.members.filter fun member => member.selected).map fun member =>
    member.exchangeInstrumentId).insertionSort (· ≤ ·)

def memberSetDigest : String :=
  canonicalDigest (.object
    [("selected_exchange_instrument_ids", .array (snapshot.selectedMembers.map .text))])

end GenericSelectionSnapshotV1

/-! ### Inputs -/

/-- The close times that a window has to have. -/
def expectedTimes (spec : GenericSelectionSpecV1) (cutoff : ℤ) : List ℤ :=
  (List.range spec.windowBars).map fun i => cutoff - (spec.windowBars - 1 - i : ℤ) * hourMs

structure GenericSelectionInput where
  spec : GenericSelectionSpecV1
  selectionEpochId : String
  featureCutoffAtMs : ℤ
  decisionAtMs : ℤ
  sourceObservedAtMs : ℤ
  committedAtMs : ℤ
  memberWindows : List GenericSelectionMemberWindow
  predecessorSnapshot : Option GenericSelectionSnapshotV1
  period : ¬ Blank selectionEpochId ∧ 0 < featureCutoffAtMs ∧
    featureCutoffAtMs % (spec.cadenceHours * hourMs) = 0
  timing : featureCutoffAtMs ≤ decisionAtMs ∧ decisionAtMs ≤ sourceObservedAtMs ∧
    sourceObservedAtMs ≤ committedAtMs
  exactCandidates : (memberWindows.map fun window =>
    window.exchangeInstrumentId).insertionSort (· ≤ ·) = candidateIds
  windowsExact : ∀ window ∈ memberWindows,
    window.closedAtMs = expectedTimes spec featureCutoffAtMs ∧
      window.qualification.eventSpecId = spec.eventSpecId ∧
      featureCutoffAtMs ≤ window.qualification.observedAtMs ∧
      window.qualification.observedAtMs ≤ sourceObservedAtMs
  predecessorMatches : ∀ prior ∈ predecessorSnapshot,
    prior.selectionEpochId = selectionEpochId ∧ prior.spec = spec ∧
      prior.featureCutoffAtMs < featureCutoffAtMs ∧ prior.committedAtMs ≤ committedAtMs

namespace GenericSelectionInput

variable (source : GenericSelectionInput)

/-- `windows[member]`. -/
def window (id : String) : Except String GenericSelectionMemberWindow :=
  demand (source.memberWindows.find? fun window => window.exchangeInstrumentId = id)
    ("missing " ++ id)

def closes : Closes := fun id => do
  let window ← source.window id
  pure window.closes

def sourceSemanticDigest : Except String String := do
  let items ← candidateIds.mapM fun id => do
    let window ← source.window id
    pure (Canonical.array [.text id, .text window.inputWindowDigest])
  pure (canonicalDigest (.array items))

/-- The members that the predecessor selected. -/
def previous : List String :=
  match source.predecessorSnapshot with
  | none => []
  | some prior => prior.selectedMembers

/-- The decision on one ranked member. -/
def memberDecision (rank : DynamicSelectionFeatureRank) :
    Except String GenericSelectionMemberDecision := do
  let window ← source.window rank.exchangeInstrumentId
  let held := source.previous.contains rank.exchangeInstrumentId
  GenericSelectionMemberDecision.ofFields
    { exchangeInstrumentId := rank.exchangeInstrumentId
      featureValue := rank.featureValue
      stableRank := rank.rank
      qualified := window.qualified
      selected := window.qualified && (rank.rank ≤ source.spec.entryRank ||
        (held && rank.rank ≤ source.spec.retainRank))
      retained := window.qualified && held && rank.rank ≤ source.spec.retainRank
      inputWindowDigest := window.inputWindowDigest
      qualification := window.qualification }

/-- The snapshot of the input over its decided members. -/
def snapshotFields (members : List GenericSelectionMemberDecision) (digest : String) :
    SnapshotFields where
  selectionSnapshotId :=
    selectionSnapshotIdOf source.spec source.selectionEpochId source.featureCutoffAtMs
  spec := source.spec
  selectionEpochId := source.selectionEpochId
  featureCutoffAtMs := source.featureCutoffAtMs
  effectiveFromMs := source.featureCutoffAtMs + hourMs
  expiresAtMs := source.featureCutoffAtMs + (1 + source.spec.cadenceHours) * hourMs
  committedAtMs := source.committedAtMs
  predecessorSnapshotId := source.predecessorSnapshot.map fun prior => prior.selectionSnapshotId
  predecessorMemberDigest := source.predecessorSnapshot.map fun prior => prior.memberSetDigest
  members := members
  sourceSemanticDigest := digest

end GenericSelectionInput

/-- `compute_generic_selection`. -/
def computeGenericSelection (context : DecimalContext) (source : GenericSelectionInput) :
    Except String GenericSelectionSnapshotV1 := do
  let values ← featureValues context source.spec.family source.closes
  let ranked ← rankDynamicSelectionFeatures values
  let members ← ranked.mapM source.memberDecision
  let digest ← source.sourceSemanticDigest
  GenericSelectionSnapshotV1.ofFields (source.snapshotFields members digest)

end TradingKernel.Selection
