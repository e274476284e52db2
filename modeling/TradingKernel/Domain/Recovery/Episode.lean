/-
**Exposure episodes and the comparison barrier.**

An episode is triggered on a rising edge: the detector has to report a close as not triggered before a
triggered close opens a new one. The comparison barrier of the comparative events (MPG, MI) asks for
that edge under the active comparison binding, and keeps a triggered close from the episode until then.
-/

import TradingKernel.Domain.Selection.Source
import TradingKernel.Lib.Guard

namespace TradingKernel.Recovery

open Text CanonicalJson Guard Sha256 Selection

inductive DetectorStatus where
  | triggered
  | notTriggered
  | invalid
  deriving DecidableEq, Repr

inductive EpisodePolicy where
  | risingEdge
  | sessionReference
  deriving DecidableEq, Repr

/-- The fields of a registered strategy contract that an episode reads. -/
structure RegisteredStrategyContract where
  strategyGroupId : NonBlankText
  eventSpecId : NonBlankText
  positionSide : PositionSide
  episodePolicy : EpisodePolicy

/-- `build_episode_domain_key`. -/
def buildEpisodeDomainKey (eventSpecId exchangeInstrumentId : String) (side : PositionSide) :
    String :=
  "episode-domain:" ++ hexDigest (render (.object [("event_spec_id", .text eventSpecId),
    ("exchange_instrument_id", .text exchangeInstrumentId), ("position_side", .text side.value)]))

/-- `build_exposure_episode_id`. -/
def buildExposureEpisodeId (eventSpecId exchangeInstrumentId : String) (side : PositionSide)
    (occurredAtMs : ℤ) : String :=
  "episode:" ++ hexDigest (render (.object [("event_spec_id", .text eventSpecId),
    ("exchange_instrument_id", .text exchangeInstrumentId), ("position_side", .text side.value),
    ("occurred_at_ms", .integer occurredAtMs)]))

/-! ### Episodes -/

inductive EpisodeState where
  | armed
  | triggered
  | comparisonRebaseRequired
  | authorityRebaseRequired
  deriving DecidableEq, Repr

/-- The state waits for a close that is not triggered. -/
def EpisodeState.Rebases (state : EpisodeState) : Prop :=
  state = .comparisonRebaseRequired ∨ state = .authorityRebaseRequired

instance (state : EpisodeState) : Decidable state.Rebases := inferInstanceAs (Decidable (_ ∨ _))

structure EpisodeFields where
  episodeDomainKey : NonBlankText
  eventSpecId : NonBlankText
  exchangeInstrumentId : NonBlankText
  positionSide : PositionSide
  state : EpisodeState
  exposureEpisodeId : Option String
  triggeredAtMs : Option ℤ
  rearmedAtMs : Option ℤ
  lastObservedAtMs : Option ℤ
  projectionVersion : ℤ

/-- `_validate_shape` of an episode. -/
def EpisodeFields.check (fields : EpisodeFields) : Except String Unit := do
  refuse (fields.projectionVersion ≤ 0 ∨ ∃ last ∈ fields.lastObservedAtMs, last ≤ 0)
    "Exposure Episode time and version must be positive"
  refuse (fields.lastObservedAtMs = none ∧ fields.state ≠ .authorityRebaseRequired)
    "only a pending recovery Episode may be unobserved"
  refuse (∃ rearmed ∈ fields.rearmedAtMs, rearmed ≤ 0)
    "Exposure Episode re-arm time must be positive"
  if fields.state = .triggered then
    refuse (fields.exposureEpisodeId = none ∨ fields.triggeredAtMs = none)
      "triggered Episode requires identity and trigger time"
    refuse (∃ triggered ∈ fields.triggeredAtMs, triggered ≤ 0)
      "Episode trigger time must be positive"
  else
    refuse (fields.exposureEpisodeId ≠ none ∨ fields.triggeredAtMs ≠ none)
      "armed Episode forbids active identity and trigger time"
  refuse (fields.state.Rebases ∧ fields.rearmedAtMs ≠ none)
    "rebase cursor must not fabricate an arm"

structure ExposureEpisodeState extends EpisodeFields where
  valid : toEpisodeFields.check = .ok ()

def ExposureEpisodeState.ofFields (fields : EpisodeFields) : Except String ExposureEpisodeState :=
  certify fields.check fun valid => ⟨fields, valid⟩

/-- What a step of the episode leads to. -/
structure ExposureEpisodeTransition where
  current : ExposureEpisodeState
  createdNewEpisode : Bool

/-- The result of one closed bar. -/
structure Observation where
  detectorStatus : DetectorStatus
  occurredAtMs : Option ℤ
  observedAtMs : ℤ
  exchangeInstrumentId : String

/-- A validated identity, or the refusal of a blank one. -/
def requireIdentity (text : String) (error : String) : Except String NonBlankText :=
  demand (NonBlankText.ofText? text) error

/-- The identity of the episode differs from the one that is advanced. -/
def EpisodeFields.Differs (fields : EpisodeFields) (key eventSpecId instrumentId : String)
    (side : PositionSide) : Prop :=
  fields.episodeDomainKey.text ≠ key ∨ fields.eventSpecId.text ≠ eventSpecId ∨
    fields.exchangeInstrumentId.text ≠ instrumentId ∨ fields.positionSide ≠ side

instance (fields : EpisodeFields) (key eventSpecId instrumentId : String) (side : PositionSide) :
    Decidable (fields.Differs key eventSpecId instrumentId side) :=
  inferInstanceAs (Decidable (_ ∨ _))

/-- The state that a result alone stands for. -/
def expectedState (status : DetectorStatus) : EpisodeState :=
  if status = .triggered then .triggered else .armed

/-- `advance_exposure_episode`. -/
def advanceExposureEpisode (contract : RegisteredStrategyContract)
    (current : Option ExposureEpisodeState) (observation : Observation) :
    Except String ExposureEpisodeTransition := do
  let status := observation.detectorStatus
  let observedAtMs := observation.observedAtMs
  refuse (contract.episodePolicy ≠ .risingEdge)
    "rising-edge reducer requires a rising-edge Event contract"
  refuse (status = .invalid) "Episode reducer accepts triggered or not_triggered only"
  refuse (observedAtMs ≤ 0) "Episode observation time must be positive"
  let instrumentId ← requireIdentity observation.exchangeInstrumentId
    "Episode instrument identity must be non-blank"
  refuse (status = .triggered ∧ ¬ ∃ occurred ∈ observation.occurredAtMs, 0 < occurred)
    "triggered Episode transition requires occurrence time"
  refuse (status = .notTriggered ∧ observation.occurredAtMs ≠ none)
    "not-triggered Episode transition forbids occurrence time"
  let domainKey ← requireIdentity
    (buildEpisodeDomainKey contract.eventSpecId instrumentId contract.positionSide)
    "Exposure Episode identities must be non-blank"
  refuse (∃ episode ∈ current, episode.state.Rebases ∧ status = .triggered)
    "rebase requires a valid NOT_TRIGGERED before an Episode"
  refuse (∃ episode ∈ current,
      episode.Differs domainKey contract.eventSpecId instrumentId contract.positionSide)
    "Exposure Episode current state identity differs"
  refuse (∃ episode ∈ current, ∃ last ∈ episode.lastObservedAtMs, observedAtMs < last)
    "Exposure Episode observation cannot move backwards"
  match current.filter fun episode => episode.lastObservedAtMs = some observedAtMs with
  | some episode =>
      refuse (episode.state ≠ expectedState status)
        "same Episode observation has contradictory result"
      pure ⟨episode, false⟩
  | none =>
      let version := match current with
        | none => 1
        | some episode => episode.projectionVersion + 1
      let rearmed := current.bind fun episode => episode.rearmedAtMs
      let fields : EpisodeFields :=
        { episodeDomainKey := domainKey
          eventSpecId := contract.eventSpecId
          exchangeInstrumentId := instrumentId
          positionSide := contract.positionSide
          state := .armed
          exposureEpisodeId := none
          triggeredAtMs := none
          rearmedAtMs := rearmed
          lastObservedAtMs := some observedAtMs
          projectionVersion := version }
      if status = .notTriggered then
        let stillArmed := current.any fun episode => episode.state = .armed
        let state ← ExposureEpisodeState.ofFields
          { fields with rearmedAtMs := if stillArmed then rearmed else some observedAtMs }
        pure ⟨state, false⟩
      else
        match current.filter fun episode => episode.state = .triggered with
        | some episode =>
            let state ← ExposureEpisodeState.ofFields
              { fields with
                state := .triggered
                exposureEpisodeId := episode.exposureEpisodeId
                triggeredAtMs := episode.triggeredAtMs }
            pure ⟨state, false⟩
        | none =>
            let occurredAtMs ← demand observation.occurredAtMs
              "validated Episode occurrence disappeared"
            let state ← ExposureEpisodeState.ofFields
              { fields with
                state := .triggered
                exposureEpisodeId := some (buildExposureEpisodeId contract.eventSpecId
                  instrumentId contract.positionSide occurredAtMs)
                triggeredAtMs := some occurredAtMs }
            pure ⟨state, true⟩

/-! ### The comparison barrier -/

inductive ComparisonBindingEpisodeState where
  | rebaseRequired
  | armedUnderBinding
  deriving DecidableEq, Repr

structure ComparisonFields where
  episodeDomainKey : NonBlankText
  comparisonBindingDigest : String
  comparisonTransitionRevision : ℤ
  state : ComparisonBindingEpisodeState
  armedAtMs : Option ℤ
  lastObservedAtMs : ℤ
  lastDetectorStatus : DetectorStatus
  projectionVersion : ℤ

/-- The validators of a comparison checkpoint. -/
def ComparisonFields.check (fields : ComparisonFields) : Except String Unit := do
  refuse (¬ IsSha256Digest fields.comparisonBindingDigest)
    "comparison binding digest must be canonical sha256"
  refuse (fields.comparisonTransitionRevision ≤ 0 ∨ fields.lastObservedAtMs ≤ 0 ∨
      fields.projectionVersion ≤ 0)
    "comparison checkpoint version and time must be positive"
  refuse (fields.lastDetectorStatus = .invalid)
    "comparison checkpoint requires a valid detector status"
  if fields.state = .rebaseRequired then
    refuse (fields.armedAtMs ≠ none) "rebase-required comparison checkpoint forbids arming"
    refuse (fields.lastDetectorStatus ≠ .triggered)
      "rebase-required checkpoint records suppressed trigger"
  else
    refuse (¬ ∃ armed ∈ fields.armedAtMs, 0 < armed ∧ armed ≤ fields.lastObservedAtMs)
      "armed comparison checkpoint requires a prior valid arm"

structure ComparisonBindingEpisodeCheckpoint extends ComparisonFields where
  valid : toComparisonFields.check = .ok ()

def ComparisonBindingEpisodeCheckpoint.ofFields (fields : ComparisonFields) :
    Except String ComparisonBindingEpisodeCheckpoint :=
  certify fields.check fun valid => ⟨fields, valid⟩

/-- What a step of the comparison barrier leads to: a suppressed close moves no episode. -/
structure ComparisonBoundExposureEpisodeTransition where
  checkpoint : ComparisonBindingEpisodeCheckpoint
  episodeTransition : Option ExposureEpisodeTransition
  signalEligible : Bool
  suppressionReason : Option String

/-- The binding under which a close is compared. -/
structure Binding where
  digest : String
  revision : ℤ

/-- `_validate_comparison_request`. -/
def validateComparisonRequest (contract : RegisteredStrategyContract) (observation : Observation)
    (binding : Binding) : Except String Unit := do
  refuse (contract.episodePolicy ≠ .risingEdge)
    "comparison barrier requires a rising-edge Event contract"
  refuse (observation.detectorStatus = .invalid)
    "comparison barrier accepts triggered or not_triggered only"
  refuse (observation.observedAtMs ≤ 0 ∨ Blank observation.exchangeInstrumentId)
    "comparison barrier Observation identity is invalid"
  refuse (binding.revision ≤ 0) "comparison transition revision must be positive"
  refuse (¬ IsSha256Digest binding.digest) "comparison binding digest must be canonical sha256"
  refuse (observation.detectorStatus = .triggered ∧
      ¬ ∃ occurred ∈ observation.occurredAtMs, 0 < occurred)
    "triggered comparison barrier requires occurrence time"
  refuse (observation.detectorStatus = .notTriggered ∧ observation.occurredAtMs ≠ none)
    "not-triggered comparison barrier forbids occurrence time"

/-- The version after a checkpoint's. -/
def nextVersion (current : Option ComparisonBindingEpisodeCheckpoint) : ℤ :=
  match current with
  | none => 1
  | some checkpoint => checkpoint.projectionVersion + 1

/-- A triggered close that the barrier keeps from the episode. -/
def suppressed (checkpoint : ComparisonBindingEpisodeCheckpoint) :
    ComparisonBoundExposureEpisodeTransition :=
  ⟨checkpoint, none, false, some "COMPARISON_REBASE_REQUIRED"⟩

/-- `_arm_under_comparison_binding`. -/
def armUnderComparisonBinding (contract : RegisteredStrategyContract)
    (episode : Option ExposureEpisodeState) (current : Option ComparisonBindingEpisodeCheckpoint)
    (observation : Observation) (binding : Binding) :
    Except String ComparisonBoundExposureEpisodeTransition := do
  refuse (observation.detectorStatus ≠ .notTriggered ∨ observation.occurredAtMs ≠ none)
    "comparison binding arm requires validated NOT_TRIGGERED"
  let transition ← advanceExposureEpisode contract episode observation
  let checkpoint ← ComparisonBindingEpisodeCheckpoint.ofFields
    { episodeDomainKey := transition.current.episodeDomainKey
      comparisonBindingDigest := binding.digest
      comparisonTransitionRevision := binding.revision
      state := .armedUnderBinding
      armedAtMs := some observation.observedAtMs
      lastObservedAtMs := observation.observedAtMs
      lastDetectorStatus := .notTriggered
      projectionVersion := nextVersion current }
  pure ⟨checkpoint, some transition, false, none⟩

/-- The step under a binding that is not the checkpoint's. -/
def advanceUnderNewBinding (contract : RegisteredStrategyContract) (domainKey : NonBlankText)
    (episode : Option ExposureEpisodeState) (current : Option ComparisonBindingEpisodeCheckpoint)
    (observation : Observation) (binding : Binding) :
    Except String ComparisonBoundExposureEpisodeTransition := do
  refuse (∃ state ∈ episode, ∃ last ∈ state.lastObservedAtMs, observation.observedAtMs ≤ last)
    "comparison transition cannot reuse a consumed Episode close"
  refuse (∃ checkpoint ∈ current, observation.observedAtMs ≤ checkpoint.lastObservedAtMs)
    "comparison transition must use a later Observation close"
  if observation.detectorStatus = .triggered then
    let checkpoint ← ComparisonBindingEpisodeCheckpoint.ofFields
      { episodeDomainKey := domainKey
        comparisonBindingDigest := binding.digest
        comparisonTransitionRevision := binding.revision
        state := .rebaseRequired
        armedAtMs := none
        lastObservedAtMs := observation.observedAtMs
        lastDetectorStatus := .triggered
        projectionVersion := nextVersion current }
    pure (suppressed checkpoint)
  else armUnderComparisonBinding contract episode current observation binding

/-- The checkpoint after one more close under its binding. -/
def observedUnderBinding (checkpoint : ComparisonBindingEpisodeCheckpoint)
    (observation : Observation) : Except String ComparisonBindingEpisodeCheckpoint :=
  ComparisonBindingEpisodeCheckpoint.ofFields
    { checkpoint.toComparisonFields with
      lastObservedAtMs := observation.observedAtMs
      lastDetectorStatus := observation.detectorStatus
      projectionVersion := checkpoint.projectionVersion + 1 }

/-- The step under the checkpoint's own binding. -/
def advanceUnderSameBinding (contract : RegisteredStrategyContract)
    (episode : Option ExposureEpisodeState) (checkpoint : ComparisonBindingEpisodeCheckpoint)
    (observation : Observation) (binding : Binding) :
    Except String ComparisonBoundExposureEpisodeTransition := do
  refuse (observation.observedAtMs < checkpoint.lastObservedAtMs)
    "comparison Observation cannot move backwards"
  if observation.observedAtMs = checkpoint.lastObservedAtMs then
    refuse (observation.detectorStatus ≠ checkpoint.lastDetectorStatus)
      "same comparison Observation has contradictory result"
    if checkpoint.state = .rebaseRequired then
      pure (suppressed checkpoint)
    else
      refuse (¬ ∃ state ∈ episode, state.lastObservedAtMs = some observation.observedAtMs)
        "comparison replay lacks matching Episode cursor"
      let replay ← advanceExposureEpisode contract episode observation
      pure ⟨checkpoint, some replay, false, none⟩
  else if checkpoint.state = .rebaseRequired then
    if observation.detectorStatus = .triggered then
      let next ← observedUnderBinding checkpoint observation
      pure (suppressed next)
    else armUnderComparisonBinding contract episode (some checkpoint) observation binding
  else
    refuse (observation.detectorStatus = .triggered ∧
        ∃ armed ∈ checkpoint.armedAtMs, observation.observedAtMs ≤ armed)
      "comparison trigger must be later than its arming close"
    let transition ← advanceExposureEpisode contract episode observation
    let next ← observedUnderBinding checkpoint observation
    pure ⟨next, some transition,
      observation.detectorStatus = .triggered && transition.createdNewEpisode, none⟩

/-- `advance_comparison_bound_exposure_episode`. -/
def advanceComparisonBoundExposureEpisode (contract : RegisteredStrategyContract)
    (episode : Option ExposureEpisodeState) (current : Option ComparisonBindingEpisodeCheckpoint)
    (observation : Observation) (binding : Binding) :
    Except String ComparisonBoundExposureEpisodeTransition := do
  validateComparisonRequest contract observation binding
  let domainKey ← requireIdentity
    (buildEpisodeDomainKey contract.eventSpecId observation.exchangeInstrumentId
      contract.positionSide)
    "comparison checkpoint requires an Episode domain key"
  refuse (∃ state ∈ episode, state.episodeDomainKey ≠ domainKey)
    "comparison Episode state identity differs"
  refuse (∃ checkpoint ∈ current, checkpoint.episodeDomainKey ≠ domainKey)
    "comparison checkpoint Episode identity differs"
  refuse (∃ checkpoint ∈ current, binding.revision < checkpoint.comparisonTransitionRevision ∨
      (binding.revision = checkpoint.comparisonTransitionRevision ∧
        binding.digest ≠ checkpoint.comparisonBindingDigest))
    "comparison transition revision is stale or has contradictory digest"
  match current.filter fun checkpoint => checkpoint.comparisonBindingDigest = binding.digest ∧
      checkpoint.comparisonTransitionRevision = binding.revision with
  | none => advanceUnderNewBinding contract domainKey episode current observation binding
  | some checkpoint => advanceUnderSameBinding contract episode checkpoint observation binding

end TradingKernel.Recovery
