/-
**`SelectionSessionAuthority`: the authority that a selection session grants to open positions.**

An authority holds for one UTC day, and names what it continues: an earlier authority of the same
session, a static baseline, or an audited gap. A trading outcome has its pair of universes, its proof
and its first eligible close (`SessionAuthorityFields.check`). `authoritySuccessorIsCompatible` says
when a signal that was born under one authority may be used under the next.
-/

import TradingKernel.Domain.Commands
import TradingKernel.Domain.Detectors.Session
import TradingKernel.Domain.Recovery.Rebase

namespace TradingKernel.Authority

open Text Guard
open Detectors (dayMs)
open Selection (hourMs)

/-! ### Words of the model -/

inductive AuthorityOutcome where
  | preFenceContinuity
  | activeNew
  | noChange
  | fallbackPrevious
  | validEmpty
  | ownerPausedNotMaterialized
  deriving DecidableEq, Repr

inductive ContinuitySourceKind where
  | selectionAuthority
  | staticBaseline
  | authorityGapAudit
  | none
  deriving DecidableEq, Repr

inductive SelectionMode where
  | disabled
  | staticBaseline
  | dynamicSelection
  deriving DecidableEq, Repr

/-- A continuous proof has its predecessor and no audit, and an audited one its audit and no
predecessor. -/
inductive AuthorityGrantProof where
  | continuousEligibleCloses (predecessorAuthorityId : NonBlankText)
  | auditedAuthorityGap (authorityGapAuditId : NonBlankText)
  deriving DecidableEq, Repr

def AuthorityGrantProof.Audited (proof : AuthorityGrantProof) : Prop :=
  ∃ auditId, proof = .auditedAuthorityGap auditId

instance (proof : AuthorityGrantProof) : Decidable proof.Audited :=
  match proof with
  | .continuousEligibleCloses _ => isFalse (by rintro ⟨_, ⟨⟩⟩)
  | .auditedAuthorityGap auditId => isTrue ⟨auditId, rfl⟩

/-- The universes of a long and a short event. -/
structure UniverseAuthorityPair where
  longUniverseVersionId : NonBlankText
  shortUniverseVersionId : NonBlankText
  distinct : longUniverseVersionId ≠ shortUniverseVersionId
  deriving DecidableEq

/-- `ORB_SELECTION_SPEC_ID`. -/
def orbSelectionSpecId : String := "SOR_1H_OR_ATR_DYNAMIC_V1"

def intervalMs : ℤ := 900000

/-- `_TRADING_OUTCOMES`. -/
def tradingOutcomes : List AuthorityOutcome :=
  [.preFenceContinuity, .activeNew, .noChange, .fallbackPrevious]

/-! ### The authority -/

structure SessionAuthorityFields where
  selectionAuthorityId : NonBlankText
  selectionSpecId : NonBlankText
  selectionEpochId : Option String
  selectionControlVersion : Option ℤ
  activationAuthorizationId : Option String
  sessionStartMs : ℤ
  decisionBoundaryMs : ℤ
  authoritySequence : ℤ
  selectionMode : SelectionMode
  selectionSnapshotId : Option NonBlankText
  continuedFromSelectionAuthorityId : Option NonBlankText
  continuitySourceKind : ContinuitySourceKind
  authorityGapAuditId : Option NonBlankText
  materializationGenerationId : Option NonBlankText
  ownerControlVersion : ℤ
  authorityOutcome : AuthorityOutcome
  authorizedPair : Option UniverseAuthorityPair
  grantProof : Option AuthorityGrantProof
  effectiveFromMs : ℤ
  firstEligibleCloseTimeMs : Option ℤ
  expiresAtMs : ℤ
  createdAtMs : ℤ

namespace SessionAuthorityFields

variable (authority : SessionAuthorityFields)

/-- The authority is one of the hourly session. -/
def Hourly : Prop := authority.selectionSpecId.text = orbSelectionSpecId

instance : Decidable authority.Hourly := inferInstanceAs (Decidable (_ = _))

/-- `require_orb_epoch`. -/
def requireOrbEpoch (epoch : String) : Except ValidationError Unit :=
  refuse (Blank epoch ∨ epoch ≠ strip epoch ∨ 160 < epoch.length ∨ epoch = "sor-v0")
    ⟨"hourly ORB requires independent bounded epoch"⟩

def checkEpoch : Except ValidationError Unit :=
  if authority.Hourly then do
    let epoch ← demand authority.selectionEpochId
      ⟨"hourly ORB Authority requires exact epoch and control version"⟩
    refuse (¬ ∃ version ∈ authority.selectionControlVersion, 0 < version)
      ⟨"hourly ORB Authority requires exact epoch and control version"⟩
    requireOrbEpoch epoch
    refuse (authority.activationAuthorizationId ≠ none ∧
        authority.authorityOutcome ∉ [.activeNew, .noChange, .validEmpty])
      ⟨"hourly ORB activation Owner proof cannot attach to this outcome"⟩
  else
    refuse (authority.selectionEpochId ≠ none ∨ authority.selectionControlVersion ≠ none ∨
        authority.activationAuthorizationId ≠ none)
      ⟨"legacy SOR Authority cannot accept hourly ORB epoch or authorization"⟩

/-- `_validate_period_and_time`. -/
def checkPeriodAndTime : Except ValidationError Unit := do
  refuse (authority.sessionStartMs ≤ 0 ∨ authority.sessionStartMs % dayMs ≠ 0)
    ⟨"Authority session identity must be exact 00:00 UTC"⟩
  refuse (authority.decisionBoundaryMs ≠ authority.sessionStartMs + hourMs)
    ⟨"Authority period must start at the 01:00 UTC decision boundary"⟩
  refuse (authority.expiresAtMs ≠
      authority.sessionStartMs + dayMs + if authority.Hourly then 0 else hourMs)
    ⟨"Authority must expire at the next decision boundary"⟩
  refuse (¬ (authority.decisionBoundaryMs ≤ authority.effectiveFromMs ∧
      authority.effectiveFromMs < authority.expiresAtMs))
    ⟨"Authority effective time cannot precede its decision boundary"⟩
  refuse (¬ (authority.effectiveFromMs ≤ authority.createdAtMs ∧
      authority.createdAtMs < authority.expiresAtMs))
    ⟨"Authority creation time must be within its effective period"⟩

/-- The proof of the authority is audited. -/
def AuditedGrant : Prop := ∃ proof ∈ authority.grantProof, proof.Audited

instance : Decidable authority.AuditedGrant :=
  inferInstanceAs (Decidable (∃ proof ∈ authority.grantProof, proof.Audited))

def checkFallback : Except ValidationError Unit := do
  refuse ((authority.selectionSnapshotId = none ∧ ¬ authority.Hourly) ∨
      authority.materializationGenerationId = none ∨ authority.authorityGapAuditId = none ∨
      ¬ authority.AuditedGrant)
    ⟨"fallback requires generation and audited gap proof"⟩
  if authority.continuitySourceKind = .staticBaseline then do
    refuse (authority.selectionMode ≠ .staticBaseline)
      ⟨"first Static fallback must keep static_baseline mode"⟩
    refuse (authority.continuedFromSelectionAuthorityId ≠ none)
      ⟨"first Static fallback cannot invent Dynamic predecessor"⟩
  else
    refuse (authority.selectionMode ≠ .dynamicSelection ∨
        authority.continuitySourceKind ≠ .authorityGapAudit)
      ⟨"Dynamic fallback requires audited Dynamic authority"⟩

def checkActiveNew : Except ValidationError Unit := do
  refuse (authority.selectionMode ≠ .dynamicSelection ∧
      ¬ (authority.Hourly ∧ authority.selectionMode = .staticBaseline ∧
        authority.activationAuthorizationId ≠ none))
    ⟨"ACTIVE_NEW requires exact dynamic or authorized ORB Static mode"⟩
  refuse ((authority.selectionSnapshotId = none ∧ authority.selectionMode ≠ .staticBaseline) ∨
      authority.materializationGenerationId = none)
    ⟨"ACTIVE_NEW requires exact source and Generation"⟩
  refuse (¬ authority.AuditedGrant)
    ⟨"ACTIVE_NEW requires audited post-Vacuum grant proof"⟩

/-- `_validate_outcome_shape`. -/
def checkOutcomeShape : Except ValidationError Unit :=
  match authority.authorityOutcome with
  | .preFenceContinuity => do
      refuse (authority.selectionMode ≠ .dynamicSelection)
        ⟨"PRE_FENCE_CONTINUITY requires dynamic_selection mode"⟩
      refuse (authority.materializationGenerationId ≠ none)
        ⟨"PRE_FENCE_CONTINUITY cannot own a Generation"⟩
      refuse (authority.continuitySourceKind ∉ [.selectionAuthority, .authorityGapAudit])
        ⟨"PRE_FENCE_CONTINUITY requires Dynamic continuity lineage"⟩
  | .activeNew => authority.checkActiveNew
  | .noChange => do
      refuse (authority.selectionMode ≠ .dynamicSelection)
        ⟨"NO_CHANGE requires dynamic_selection mode"⟩
      refuse (authority.selectionSnapshotId = none)
        ⟨"NO_CHANGE requires current Selection Snapshot"⟩
      refuse (authority.materializationGenerationId ≠ none)
        ⟨"NO_CHANGE cannot own a new Generation"⟩
  | .fallbackPrevious => authority.checkFallback
  | .validEmpty => do
      refuse (authority.selectionMode ≠ .dynamicSelection)
        ⟨"VALID_EMPTY requires dynamic_selection mode"⟩
      refuse (authority.selectionSnapshotId = none)
        ⟨"VALID_EMPTY requires exact zero-member Snapshot"⟩
      refuse (authority.materializationGenerationId ≠ none)
        ⟨"VALID_EMPTY cannot create a Generation"⟩
  | .ownerPausedNotMaterialized =>
      refuse (authority.materializationGenerationId ≠ none)
        ⟨"Owner Pause cannot materialize a Generation"⟩

/-- What a proof needs of the lineage. -/
def checkProof : AuthorityGrantProof → Except ValidationError Unit
  | .continuousEligibleCloses predecessorId => do
      refuse (authority.authorityGapAuditId ≠ none)
        ⟨"continuous Authority cannot reference a Gap Audit"⟩
      match authority.continuitySourceKind with
      | .selectionAuthority =>
          refuse (authority.continuedFromSelectionAuthorityId ≠ some predecessorId)
            ⟨"continuous Authority proof must match predecessor lineage"⟩
      | .staticBaseline =>
          refuse (authority.continuedFromSelectionAuthorityId ≠ none)
            ⟨"Static continuity cannot invent Selection Authority predecessor"⟩
      | _ => .error ⟨"continuous Authority proof must match predecessor lineage"⟩
  | .auditedAuthorityGap auditId => do
      refuse (authority.authorityGapAuditId ≠ some auditId)
        ⟨"audited Authority proof must match exact Gap Audit"⟩
      refuse ((authority.authorityOutcome ≠ .fallbackPrevious ∨
            authority.continuitySourceKind ≠ .staticBaseline) ∧
          authority.continuitySourceKind ≠ .authorityGapAudit)
        ⟨"audited Authority requires AUTHORITY_GAP_AUDIT source"⟩

/-- `_validate_trading_grant`. -/
def checkTradingGrant : Except ValidationError Unit := do
  refuse (authority.authorizedPair = none)
    ⟨"trading Authority requires exact LONG and SHORT Universe pair"⟩
  let proof ← demand authority.grantProof ⟨"trading Authority requires one grant proof"⟩
  let first ← demand authority.firstEligibleCloseTimeMs
    ⟨"trading Authority requires first eligible close"⟩
  let interval := if authority.Hourly then hourMs else intervalMs
  let firstOffset := if authority.Hourly then 2 * hourMs else 5 * intervalMs
  refuse (first % interval ≠ 0) ⟨"first eligible close must be canonical 15m close"⟩
  refuse (first < authority.sessionStartMs + firstOffset)
    ⟨"first eligible close cannot precede SOR eligibility"⟩
  refuse (¬ (authority.createdAtMs < first ∧ first < authority.expiresAtMs))
    ⟨"first eligible close must be a future close within Authority period"⟩
  authority.checkProof proof

/-- `_validate_non_trading_outcome`. -/
def checkNonTradingOutcome : Except ValidationError Unit := do
  refuse (authority.authorizedPair ≠ none) ⟨"non-trading outcome forbids Universe pair"⟩
  refuse (authority.grantProof ≠ none) ⟨"non-trading outcome forbids grant proof"⟩
  refuse (authority.firstEligibleCloseTimeMs ≠ none)
    ⟨"non-trading outcome forbids first eligible close"⟩
  refuse (authority.continuitySourceKind ≠ .none)
    ⟨"non-trading outcome requires NONE continuity source"⟩
  refuse (authority.authorityGapAuditId ≠ none)
    ⟨"non-trading outcome cannot grant through Gap Audit"⟩

/-- `_validate_authority`. -/
def check : Except ValidationError Unit := do
  authority.checkEpoch
  authority.checkPeriodAndTime
  refuse (authority.authoritySequence ≤ 0 ∨ authority.ownerControlVersion ≤ 0)
    ⟨"Authority sequence and Owner control version must be positive"⟩
  authority.checkOutcomeShape
  if authority.authorityOutcome ∈ tradingOutcomes then authority.checkTradingGrant
  else authority.checkNonTradingOutcome

end SessionAuthorityFields

structure SelectionSessionAuthority extends SessionAuthorityFields where
  valid : toSessionAuthorityFields.check = .ok ()

/-! ### Continuity and the time window -/

/-- The successor is not the next authority of the same grant. -/
def DiffersFromGrant (birth successor : SelectionSessionAuthority) : Prop :=
  birth.selectionSpecId ≠ successor.selectionSpecId ∨
    birth.sessionStartMs ≠ successor.sessionStartMs ∨
    birth.decisionBoundaryMs ≠ successor.decisionBoundaryMs ∨
    birth.expiresAtMs ≠ successor.expiresAtMs ∨
    birth.selectionMode ≠ successor.selectionMode ∨
    birth.ownerControlVersion ≠ successor.ownerControlVersion ∨
    birth.authorizedPair ≠ successor.authorizedPair ∨
    successor.authoritySequence ≠ birth.authoritySequence + 1 ∨
    successor.continuedFromSelectionAuthorityId ≠ some birth.selectionAuthorityId ∨
    -- a missing proof, one of the other kind, or one of another predecessor
    successor.grantProof ≠ some (.continuousEligibleCloses birth.selectionAuthorityId) ∨
    successor.authorityGapAuditId ≠ none ∨
    ¬ ∃ close ∈ successor.firstEligibleCloseTimeMs, ∃ earlier ∈ birth.firstEligibleCloseTimeMs,
      earlier ≤ close

instance (birth successor : SelectionSessionAuthority) :
    Decidable (DiffersFromGrant birth successor) := inferInstanceAs (Decidable (_ ∨ _))

/-- Whether a Signal's birth authority may use one continuity successor. -/
def authoritySuccessorIsCompatible (birth successor : SelectionSessionAuthority)
    (vacuumOpened ownerControlContinuous globalPolicyContinuous
      eligibleCloseCoverageContinuous : Bool) : Bool :=
  if vacuumOpened ∨ ¬ ownerControlContinuous ∨ ¬ globalPolicyContinuous ∨
      ¬ eligibleCloseCoverageContinuous then false
  else if birth.authorityOutcome ≠ .preFenceContinuity then false
  else if successor.authorityOutcome ∉ [.preFenceContinuity, .noChange] then false
  else ¬ DiffersFromGrant birth successor

/-- The grant is within its time, and no vacuum fences it. -/
def selectionAuthorityAllowsNewEntry (authority : SelectionSessionAuthority)
    (nowMs observedCloseTimeMs : ℤ) (scopedVacuumOpen : Bool) : Bool :=
  authority.authorityOutcome ∈ tradingOutcomes ∧ ¬ scopedVacuumOpen ∧
    (authority.effectiveFromMs ≤ nowMs ∧ nowMs < authority.expiresAtMs) ∧
    ∃ close ∈ authority.firstEligibleCloseTimeMs, close ≤ observedCloseTimeMs

/-! ### The control -/

structure SelectionControlFields where
  strategyGroupId : NonBlankText
  selectionSpecId : NonBlankText
  selectionMode : SelectionMode
  pendingSelectionMode : Option SelectionMode
  pendingEffectivePeriodAnchorMs : Option ℤ
  pendingAuthorizationId : Option NonBlankText
  controlVersion : ℤ
  updatedAtMs : ℤ
  selectionEpochId : Option String

namespace SelectionControlFields

variable (control : SelectionControlFields)

/-- The period of the strategy's selection. An unknown strategy has none. -/
def cadence : Except ValidationError ℤ :=
  if control.strategyGroupId.text = "SOR-1H-001" then do
    refuse (control.selectionSpecId.text ≠ orbSelectionSpecId)
      ⟨"hourly ORB control requires its independent Selection Spec"⟩
    return dayMs
  else if control.strategyGroupId.text = "SOR-001" then return dayMs
  else do
    let spec ← demand (Recovery.genericSelectionSpec control.strategyGroupId)
      ⟨"unsupported Generic Selection family"⟩
    return spec.cadenceHours * hourMs

/-- The control selects dynamically, or will. -/
def Dynamic : Prop :=
  control.selectionMode = .dynamicSelection ∨ control.pendingSelectionMode = some .dynamicSelection

instance : Decidable control.Dynamic := inferInstanceAs (Decidable (_ ∨ _))

/-- `_validate_selection_control`. -/
def check : Except ValidationError Unit := do
  refuse ((control.pendingSelectionMode = none ∨ control.pendingEffectivePeriodAnchorMs = none ∨
        control.pendingAuthorizationId = none) ∧
      ¬ (control.pendingSelectionMode = none ∧ control.pendingEffectivePeriodAnchorMs = none ∧
        control.pendingAuthorizationId = none))
    ⟨"Selection Control pending transition shape is incomplete"⟩
  refuse (control.controlVersion ≤ 0 ∨ control.updatedAtMs ≤ 0)
    ⟨"Selection Control version and time must be positive"⟩
  let cadence ← control.cadence
  refuse (∃ anchor ∈ control.pendingEffectivePeriodAnchorMs, anchor % cadence ≠ 0)
    ⟨"pending Selection mode must target exact UTC period"⟩
  if control.strategyGroupId.text = "SOR-001" then
    refuse (control.selectionEpochId ≠ none) ⟨"SOR Control keeps frozen Session identity"⟩
  else if control.Dynamic then
    refuse (¬ ∃ epoch ∈ control.selectionEpochId, ¬ Blank epoch ∧ epoch ≠ "sor-v0")
      ⟨"Generic Dynamic Control requires explicit epoch"⟩
  else
    refuse (control.selectionEpochId ≠ none)
      ⟨"Static Generic Control cannot retain Dynamic epoch"⟩

end SelectionControlFields

structure SelectionControl extends SelectionControlFields where
  valid : toSelectionControlFields.check = .ok ()

end TradingKernel.Authority
