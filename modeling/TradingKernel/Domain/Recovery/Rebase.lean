/-
**The recovery barrier in front of the episode.**

After an authority recovery a checkpoint has to be armed by a close that is not triggered before the
episode moves again. `beginAuthorityRecoveryRebase` opens the barrier of a recovery,
`advanceAuthorityRecoveryRebase` shows it one close, and `advanceRecoveryBoundExposureEpisode` composes
it with the comparison barrier and the episode.
-/

import TradingKernel.Domain.Recovery.Episode

namespace TradingKernel.Recovery

open Text CanonicalJson Guard Selection

/-! ### Checkpoints -/

inductive RecoveryCheckpointState where
  | rebaseRequired
  | armed
  deriving DecidableEq, Repr

/-- The identity of a recovery and its period. -/
structure RecoveryIdentity where
  recoveryId : String
  recoveryRevision : ℤ
  effectiveFromMs : ℤ
  firstEligibleCloseTimeMs : ℤ
  deriving DecidableEq

structure RecoveryFields extends RecoveryIdentity where
  episodeDomainKey : String
  state : RecoveryCheckpointState
  armedAtCloseTimeMs : Option ℤ
  lastObservedCloseTimeMs : Option ℤ
  lastDetectorStatus : Option DetectorStatus
  projectionVersion : ℤ

/-- A stripped identity of at most 160 characters. -/
def IsRecoveryIdentity (text : String) : Prop :=
  ¬ Blank text ∧ text = strip text ∧ text.length ≤ 160

instance (text : String) : Decidable (IsRecoveryIdentity text) :=
  inferInstanceAs (Decidable (_ ∧ _))

/-- No close has been observed under the recovery. -/
def RecoveryFields.Pending (fields : RecoveryFields) : Prop :=
  ∀ last ∈ fields.lastObservedCloseTimeMs, last < fields.firstEligibleCloseTimeMs

instance (fields : RecoveryFields) : Decidable fields.Pending :=
  inferInstanceAs (Decidable (∀ last ∈ fields.lastObservedCloseTimeMs, _))

/-- `_shape`. -/
def RecoveryFields.check (fields : RecoveryFields) : Except String Unit := do
  let last := fields.lastObservedCloseTimeMs
  let first := fields.firstEligibleCloseTimeMs
  refuse (¬ IsRecoveryIdentity fields.episodeDomainKey ∨ ¬ IsRecoveryIdentity fields.recoveryId)
    "recovery checkpoint identity is invalid"
  refuse (fields.recoveryRevision ≤ 0 ∨ fields.projectionVersion ≤ 0)
    "recovery checkpoint versions must be positive"
  refuse (¬ (0 < fields.effectiveFromMs ∧ fields.effectiveFromMs < first))
    "recovery checkpoint cannot consume a past close"
  refuse (first % hourMs ≠ 0 ∨ ∃ close ∈ last, close ≤ 0 ∨ close % hourMs ≠ 0)
    "recovery checkpoint requires hourly close boundaries"
  if fields.Pending then
    refuse (fields.state ≠ .rebaseRequired ∨ fields.armedAtCloseTimeMs ≠ none ∨
        fields.lastDetectorStatus ≠ none ∨ ∃ close ∈ last, fields.effectiveFromMs < close)
      "pending recovery cannot fabricate an observation or an arm"
  else
    refuse (fields.lastDetectorStatus = none) "observed recovery requires Detector status"
    refuse (fields.lastDetectorStatus = some .invalid)
      "invalid Detector input cannot advance recovery"
    if fields.state = .rebaseRequired then
      refuse (fields.armedAtCloseTimeMs ≠ none ∨ fields.lastDetectorStatus ≠ some .triggered)
        "unarmed recovery checkpoint has contradictory state"
    else
      refuse (¬ ∃ armed ∈ fields.armedAtCloseTimeMs, first ≤ armed ∧ (∃ close ∈ last, armed ≤ close) ∧
          armed % hourMs = 0)
        "armed recovery checkpoint requires a legal arming close"
    refuse (fields.state = .armed ∧ fields.lastDetectorStatus = some .triggered ∧
        last = fields.armedAtCloseTimeMs)
      "trigger close cannot itself prove recovery arming"

structure AuthorityRecoveryCheckpoint extends RecoveryFields where
  valid : toRecoveryFields.check = .ok ()

def AuthorityRecoveryCheckpoint.ofFields (fields : RecoveryFields) :
    Except String AuthorityRecoveryCheckpoint :=
  certify fields.check fun valid => ⟨fields, valid⟩

/-- The version after a checkpoint's. -/
def nextRecoveryVersion (current : Option AuthorityRecoveryCheckpoint) : ℤ :=
  match current with
  | none => 1
  | some checkpoint => checkpoint.projectionVersion + 1

/-- The later of two closes, where there are any. -/
def latest (first second : Option ℤ) : Option ℤ :=
  match first, second with
  | none, close => close
  | close, none => close
  | some close, some other => some (max close other)

/-- `begin_authority_recovery_rebase`. -/
def beginAuthorityRecoveryRebase (current : Option AuthorityRecoveryCheckpoint)
    (episodeDomainKey : String) (identity : RecoveryIdentity)
    (latestConsumedCloseTimeMs : Option ℤ) : Except String AuthorityRecoveryCheckpoint := do
  refuse (∃ close ∈ latestConsumedCloseTimeMs, close ≤ 0 ∨ close % hourMs ≠ 0)
    "recovery initialization cursor must be a positive hourly close"
  refuse (∃ checkpoint ∈ current, checkpoint.episodeDomainKey ≠ episodeDomainKey ∨
      identity.recoveryRevision < checkpoint.recoveryRevision)
    "recovery initialization scope or revision is stale"
  refuse (∃ checkpoint ∈ current, identity.effectiveFromMs < checkpoint.effectiveFromMs)
    "recovery initialization time cannot move backwards"
  match current.filter fun checkpoint =>
      checkpoint.recoveryRevision = identity.recoveryRevision with
  | some checkpoint =>
      refuse (checkpoint.toRecoveryIdentity ≠ identity)
        "recovery initialization identity changed"
      pure checkpoint
  | none =>
      AuthorityRecoveryCheckpoint.ofFields
        { toRecoveryIdentity := identity
          episodeDomainKey := episodeDomainKey
          state := .rebaseRequired
          armedAtCloseTimeMs := none
          lastObservedCloseTimeMs := latest latestConsumedCloseTimeMs
            (current.bind fun checkpoint => checkpoint.lastObservedCloseTimeMs)
          lastDetectorStatus := none
          projectionVersion := nextRecoveryVersion current }

/-- What a close does to the barrier: the episode advances where there is no suppression. -/
structure AuthorityRecoveryRebaseTransition where
  checkpoint : AuthorityRecoveryCheckpoint
  suppressionReason : Option String

/-- `allow_episode_advance`. -/
def AuthorityRecoveryRebaseTransition.allowEpisodeAdvance
    (transition : AuthorityRecoveryRebaseTransition) : Prop :=
  transition.suppressionReason = none

instance (transition : AuthorityRecoveryRebaseTransition) :
    Decidable transition.allowEpisodeAdvance := inferInstanceAs (Decidable (_ = _))

/-- The arm after a close: the one that the revision has, or this close where it is not triggered. -/
def armAfter (current : Option AuthorityRecoveryCheckpoint) (identity : RecoveryIdentity)
    (observedCloseTimeMs : ℤ) (status : DetectorStatus) : Option ℤ :=
  match (current.filter fun checkpoint =>
      checkpoint.recoveryRevision = identity.recoveryRevision).bind fun checkpoint =>
        checkpoint.armedAtCloseTimeMs with
  | some close => some close
  | none => if status = .notTriggered then some observedCloseTimeMs else none

/-- `advance_authority_recovery_rebase`. -/
def advanceAuthorityRecoveryRebase (current : Option AuthorityRecoveryCheckpoint)
    (episodeDomainKey : String) (identity : RecoveryIdentity) (observedCloseTimeMs : ℤ)
    (status : DetectorStatus) : Except String AuthorityRecoveryRebaseTransition := do
  refuse (observedCloseTimeMs < identity.firstEligibleCloseTimeMs ∨
      observedCloseTimeMs % hourMs ≠ 0)
    "recovery Observation must use a future eligible hourly close"
  refuse (∃ checkpoint ∈ current, checkpoint.episodeDomainKey ≠ episodeDomainKey ∨
      identity.recoveryRevision < checkpoint.recoveryRevision)
    "recovery checkpoint scope or revision is stale"
  refuse (∃ checkpoint ∈ current, identity.recoveryRevision = checkpoint.recoveryRevision ∧
      checkpoint.toRecoveryIdentity ≠ identity)
    "same recovery revision has contradictory identity"
  refuse (∃ checkpoint ∈ current, ∃ last ∈ checkpoint.lastObservedCloseTimeMs,
      observedCloseTimeMs < last)
    "recovery Observation cannot move backwards"
  match current.filter fun checkpoint =>
      checkpoint.lastObservedCloseTimeMs = some observedCloseTimeMs with
  | some checkpoint =>
      refuse (identity.recoveryRevision ≠ checkpoint.recoveryRevision ∨
          some status ≠ checkpoint.lastDetectorStatus)
        "recovery cannot reuse a consumed close with changed input"
      pure ⟨checkpoint, some "RECOVERY_CLOSE_ALREADY_OBSERVED"⟩
  | none =>
      refuse (status = .invalid) "invalid Detector input cannot advance recovery"
      let armed := armAfter current identity observedCloseTimeMs status
      let checkpoint ← AuthorityRecoveryCheckpoint.ofFields
        { toRecoveryIdentity := identity
          episodeDomainKey := episodeDomainKey
          state := if armed = none then .rebaseRequired else .armed
          armedAtCloseTimeMs := armed
          lastObservedCloseTimeMs := some observedCloseTimeMs
          lastDetectorStatus := some status
          projectionVersion := nextRecoveryVersion current }
      pure ⟨checkpoint, if armed = none then some "RECOVERY_REBASE_REQUIRED" else none⟩

/-! ### The comparison universe -/

structure ComparisonUniverseFields where
  eventSpecId : String
  comparisonUniverseId : String
  memberSetDigest : String
  exchangeInstrumentIds : List String
  comparisonTransitionRevision : ℤ
  sourceStaticUniverseVersionId : Option String

/-- `_exact_comparison`. -/
def ComparisonUniverseFields.check (fields : ComparisonUniverseFields) : Except String Unit := do
  let members := fields.exchangeInstrumentIds
  let digest := canonicalDigest
    (.object [("exchange_instrument_ids", .array (members.map .text))])
  refuse (fields.eventSpecId ∉ ["event_spec:MPG-001:MPG-LONG:v3", "event_spec:MI-001:MI-LONG:v3"])
    "Event has no comparative Detector input"
  refuse (members = [] ∨ ¬ members.IsChain (· < ·) ∨ 24 < members.length)
    "comparison membership is not canonical"
  refuse (fields.memberSetDigest ≠ digest ∨ fields.comparisonUniverseId
      ≠ "comparison:" ++ String.ofList (digest.toList.drop 7))
    "comparison definition identity differs"
  refuse (fields.comparisonTransitionRevision < 0) "comparison revision is invalid"
  match fields.sourceStaticUniverseVersionId with
  | none =>
      refuse (members ≠ candidateIds ∨ fields.comparisonTransitionRevision ≤ 0)
        "Dynamic comparison requires exact Candidate24 and transition revision"
  | some version =>
      refuse (Blank version ∨ 10 < members.length)
        "Static comparison requires its original bounded Universe"

structure ComparisonUniverseBinding extends ComparisonUniverseFields where
  valid : toComparisonUniverseFields.check = .ok ()

/-- What the barrier compares of a universe. -/
def ComparisonUniverseBinding.binding (universe_ : ComparisonUniverseBinding) : Binding :=
  ⟨universe_.memberSetDigest, universe_.comparisonTransitionRevision⟩

/-! ### The entry gates -/

/-- `recovery_comparison_entry_rejection`. -/
def recoveryComparisonEntryRejection (checkpoint : Option ComparisonBindingEpisodeCheckpoint)
    (universe_ : ComparisonUniverseBinding) (episodeDomainKey : String) (signalCloseTimeMs : ℤ) :
    Option String :=
  if universe_.comparisonTransitionRevision = 0 then
    if checkpoint = none then none else some "COMPARISON_REBASE_AUTHORITY_CHANGED"
  else
    match checkpoint with
    | none => some "COMPARISON_REBASE_AUTHORITY_CHANGED"
    | some checkpoint =>
        if checkpoint.episodeDomainKey.text ≠ episodeDomainKey ∨
            checkpoint.comparisonBindingDigest ≠ universe_.memberSetDigest ∨
            checkpoint.comparisonTransitionRevision ≠ universe_.comparisonTransitionRevision then
          some "COMPARISON_REBASE_AUTHORITY_CHANGED"
        else if checkpoint.state ≠ .armedUnderBinding ∨ checkpoint.armedAtMs = none then
          some "COMPARISON_REBASE_REQUIRED"
        else if checkpoint.lastDetectorStatus ≠ .triggered ∨
            checkpoint.lastObservedAtMs ≠ signalCloseTimeMs ∨
            ∃ armed ∈ checkpoint.armedAtMs, signalCloseTimeMs ≤ armed then
          some "COMPARISON_TRIGGER_NOT_CURRENT"
        else none

/-- `recovery_rebase_entry_rejection`: the commit time is the start of the recovery. -/
def recoveryRebaseEntryRejection (checkpoint : Option AuthorityRecoveryCheckpoint)
    (episodeDomainKey : String) (identity : RecoveryIdentity) (signalCloseTimeMs : ℤ) :
    Option String :=
  match checkpoint with
  | none => some "RECOVERY_REBASE_REQUIRED"
  | some checkpoint =>
      if checkpoint.episodeDomainKey ≠ episodeDomainKey ∨
          checkpoint.toRecoveryIdentity ≠ identity then
        some "RECOVERY_REBASE_AUTHORITY_CHANGED"
      else if checkpoint.state ≠ .armed ∨ checkpoint.armedAtCloseTimeMs = none then
        some "RECOVERY_REBASE_REQUIRED"
      else if checkpoint.lastDetectorStatus ≠ some .triggered ∨
          checkpoint.lastObservedCloseTimeMs ≠ some signalCloseTimeMs ∨
          ∃ armed ∈ checkpoint.armedAtCloseTimeMs, signalCloseTimeMs ≤ armed then
        some "RECOVERY_TRIGGER_NOT_CURRENT"
      else none

/-! ### The composition -/

inductive SelectionMode where
  | dynamicSelection
  | staticBaseline
  deriving DecidableEq, Repr

/-- One call with a closed bar under a recovery. -/
structure RecoveryObservation extends Observation where
  contract : RegisteredStrategyContract
  identity : RecoveryIdentity
  selectionMode : SelectionMode
  universeVersionId : String
  comparisonBinding : Option ComparisonUniverseBinding

/-- The projections that a call reads and the next one reads again. -/
structure RecoveryState where
  recovery : Option AuthorityRecoveryCheckpoint
  comparison : Option ComparisonBindingEpisodeCheckpoint
  episode : Option ExposureEpisodeState

structure RecoveryBoundFields where
  recoveryCheckpoint : AuthorityRecoveryCheckpoint
  comparisonCheckpoint : Option ComparisonBindingEpisodeCheckpoint
  episodeTransition : Option ExposureEpisodeTransition
  signalEligible : Bool
  suppressionReason : Option String

/-- `_consistent_transition`. -/
def RecoveryBoundFields.check (fields : RecoveryBoundFields) : Except String Unit := do
  let recovery := fields.recoveryCheckpoint
  refuse (∃ comparison ∈ fields.comparisonCheckpoint,
      comparison.episodeDomainKey.text ≠ recovery.episodeDomainKey)
    "recovery/comparison Episode identity differs"
  refuse (∃ episode ∈ fields.episodeTransition,
      episode.current.episodeDomainKey.text ≠ recovery.episodeDomainKey ∨
        episode.current.lastObservedAtMs ≠ recovery.lastObservedCloseTimeMs ∨
        recovery.state ≠ .armed)
    "recovery Episode advancement requires its exact armed cursor"
  refuse (fields.episodeTransition.isSome ∧ ∃ comparison ∈ fields.comparisonCheckpoint,
      comparison.state ≠ .armedUnderBinding ∨
        some comparison.lastObservedAtMs ≠ recovery.lastObservedCloseTimeMs)
    "recovery Episode must also satisfy its comparison barrier"
  refuse (fields.signalEligible ∧
      ((¬ ∃ episode ∈ fields.episodeTransition, episode.createdNewEpisode) ∨
        fields.suppressionReason ≠ none))
    "recovery Signal requires one unsuppressed new Episode"

structure RecoveryBoundExposureEpisodeTransition extends RecoveryBoundFields where
  valid : toRecoveryBoundFields.check = .ok ()

def RecoveryBoundExposureEpisodeTransition.ofFields (fields : RecoveryBoundFields) :
    Except String RecoveryBoundExposureEpisodeTransition :=
  certify fields.check fun valid => ⟨fields, valid⟩

/-- `generic_selection_spec` of a strategy group. -/
def genericSelectionSpec (strategyGroupId : String) : Option GenericSelectionSpecV1 :=
  ([⟨.cpm⟩, ⟨.mpg⟩, ⟨.mi⟩, ⟨.brf2⟩] : List GenericSelectionSpecV1).find? fun spec =>
    spec.strategyGroupId = strategyGroupId

/-- The events whose detector compares instruments. -/
def Comparative (contract : RegisteredStrategyContract) : Prop :=
  contract.strategyGroupId.text ∈ ["MPG-001", "MI-001"]

instance (contract : RegisteredStrategyContract) : Decidable (Comparative contract) :=
  inferInstanceAs (Decidable (_ ∈ _))

/-- The checks of an episode that a call is handed. -/
def checkEpisode (episode : Option ExposureEpisodeState) (spec : GenericSelectionSpecV1)
    (key : String) (observation : Observation) (duplicate : Prop) [Decidable duplicate] :
    Except String Unit := do
  refuse (∃ state ∈ episode,
      state.Differs key spec.eventSpecId observation.exchangeInstrumentId spec.positionSide)
    "recovery Episode identity differs"
  refuse (∃ state ∈ episode, ∃ last ∈ state.lastObservedAtMs, observation.observedAtMs < last ∨
      (last = observation.observedAtMs ∧ ¬ duplicate))
    "recovery cannot reuse a consumed Episode close"

/-- The checks of a comparison checkpoint that a call is handed, and of its binding. -/
def checkComparison (comparison : Option ComparisonBindingEpisodeCheckpoint)
    (spec : GenericSelectionSpecV1) (key : String) (observation : RecoveryObservation)
    (duplicate : Prop) [Decidable duplicate] : Except String (Option Binding) := do
  if Comparative observation.contract then
    let universe_ ← demand observation.comparisonBinding "recovery comparison binding is missing"
    let binding := universe_.binding
    refuse (universe_.eventSpecId ≠ spec.eventSpecId ∨
        observation.exchangeInstrumentId ∉ universe_.exchangeInstrumentIds ∨
        universe_.sourceStaticUniverseVersionId ≠
          (if observation.selectionMode = .staticBaseline then some observation.universeVersionId
            else none))
      "recovery comparison mode, member or Universe differs"
    refuse (∃ checkpoint ∈ comparison, checkpoint.episodeDomainKey.text ≠ key ∨
        binding.revision < checkpoint.comparisonTransitionRevision ∨
        (binding.revision = checkpoint.comparisonTransitionRevision ∧
          binding.digest ≠ checkpoint.comparisonBindingDigest))
      "recovery comparison identity or revision differs"
    refuse (∃ checkpoint ∈ comparison, observation.observedAtMs < checkpoint.lastObservedAtMs ∨
        (checkpoint.lastObservedAtMs = observation.observedAtMs ∧ ¬ duplicate))
      "recovery cannot reuse a consumed comparison close"
    pure (some binding)
  else
    refuse (comparison.isSome ∨ observation.comparisonBinding.isSome)
      "non-comparative recovery forbids comparison identity"
    pure none

/-- Behind an open recovery barrier: the comparison barrier where there is one, then the episode. -/
def advanceBehindBarrier (state : RecoveryState) (observation : RecoveryObservation)
    (binding : Option Binding) (recovery : AuthorityRecoveryCheckpoint) :
    Except String RecoveryBoundExposureEpisodeTransition := do
  match binding.filter fun binding => binding.revision ≠ 0 with
  | some binding =>
      let compared ← advanceComparisonBoundExposureEpisode observation.contract state.episode
        state.comparison observation.toObservation binding
      RecoveryBoundExposureEpisodeTransition.ofFields
        ⟨recovery, some compared.checkpoint, compared.episodeTransition, compared.signalEligible,
          compared.suppressionReason⟩
  | none =>
      let episode ← advanceExposureEpisode observation.contract state.episode
        observation.toObservation
      RecoveryBoundExposureEpisodeTransition.ofFields
        ⟨recovery, none, some episode,
          episode.createdNewEpisode && observation.detectorStatus = .triggered, none⟩

/-- `advance_recovery_bound_exposure_episode`. -/
def advanceRecoveryBoundExposureEpisode (state : RecoveryState)
    (observation : RecoveryObservation) :
    Except String RecoveryBoundExposureEpisodeTransition := do
  let contract := observation.contract
  let status := observation.detectorStatus
  let observedAtMs := observation.observedAtMs
  let spec ← demand (genericSelectionSpec contract.strategyGroupId)
    "unsupported Generic Selection family"
  refuse (Blank observation.universeVersionId)
    "recovery requires an exact current mode and Universe"
  refuse (contract.eventSpecId.text ≠ spec.eventSpecId ∨ Blank observation.exchangeInstrumentId ∨
      (observation.selectionMode ≠ .staticBaseline ∧
        observation.exchangeInstrumentId ∉ candidateIds))
    "recovery Event or member differs from Generic Spec"
  refuse (status = .invalid ∨
      (status = .triggered ∧
        ¬ ∃ occurred ∈ observation.occurredAtMs, 0 < occurred ∧ occurred ≤ observedAtMs) ∨
      (status = .notTriggered ∧ observation.occurredAtMs ≠ none))
    "recovery requires a valid closed-bar Detector result"
  let key := buildEpisodeDomainKey spec.eventSpecId observation.exchangeInstrumentId
    spec.positionSide
  let duplicate := ∃ checkpoint ∈ state.recovery,
    checkpoint.lastObservedCloseTimeMs = some observedAtMs
  checkEpisode state.episode spec key observation.toObservation duplicate
  let binding ← checkComparison state.comparison spec key observation duplicate
  let recovery ← advanceAuthorityRecoveryRebase state.recovery key observation.identity observedAtMs
    status
  if recovery.allowEpisodeAdvance then
    advanceBehindBarrier state observation binding recovery.checkpoint
  else
    RecoveryBoundExposureEpisodeTransition.ofFields
      ⟨recovery.checkpoint, state.comparison, none, false, recovery.suppressionReason⟩

end TradingKernel.Recovery
