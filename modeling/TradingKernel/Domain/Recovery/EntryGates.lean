/-
**The entry gates agree with the machine that wrote the checkpoints.**

A recovery call returns its projections through a validator, and the entry gates decide once more from
the stored projections. `fields_sound` says that the validator never refuses what the call has built, as
long as the call and the episode file the close under one key (`Addressed`: the episode strips the
instrument, the call does not). A signal passes both gates at its own close (`recoveryGate_of_signal`,
`comparisonGate_of_signal`), and once a later close was observed the recovery gate refuses
(`refused_of_consumed`).
-/

import TradingKernel.Domain.Recovery.FreshEdge

namespace TradingKernel.Recovery

open Text CanonicalJson Guard Sha256 Selection

/-! ### The call before its validator -/

/-- The part of a call behind the open barrier, before the validator of its result. -/
def barrierFields (state : RecoveryState) (observation : RecoveryObservation)
    (binding : Option Binding) (recovery : AuthorityRecoveryCheckpoint) :
    Except String RecoveryBoundFields := do
  match binding.filter fun binding => binding.revision ≠ 0 with
  | some binding =>
      let compared ← advanceComparisonBoundExposureEpisode observation.contract state.episode
        state.comparison observation.toObservation binding
      pure ⟨recovery, some compared.checkpoint, compared.episodeTransition, compared.signalEligible,
        compared.suppressionReason⟩
  | none =>
      let episode ← advanceExposureEpisode observation.contract state.episode
        observation.toObservation
      pure ⟨recovery, none, some episode,
        episode.createdNewEpisode && observation.detectorStatus = .triggered, none⟩

/-- A call before the validator of its result. -/
def callFields (state : RecoveryState) (observation : RecoveryObservation) :
    Except String RecoveryBoundFields := do
  let contract := observation.contract
  let status := observation.detectorStatus
  let observedAtMs := observation.observedAtMs
  let spec ← demand (genericSelectionSpec contract.strategyGroupId)
    "unsupported Generic Selection family"
  refuse (Blank observation.universeVersionId)
    "recovery requires an exact current mode and Universe"
  refuse (contract.eventSpecId.text ≠ spec.eventSpecId ∨ Blank observation.exchangeInstrumentId ∨
      (observation.selectionMode ≠ .staticBaseline ∧
        observation.exchangeInstrumentId ∉ candidateIds))
    "recovery Event or member differs from Generic Spec"
  refuse (status = .invalid ∨
      (status = .triggered ∧
        ¬ ∃ occurred ∈ observation.occurredAtMs, 0 < occurred ∧ occurred ≤ observedAtMs) ∨
      (status = .notTriggered ∧ observation.occurredAtMs ≠ none))
    "recovery requires a valid closed-bar Detector result"
  let key := buildEpisodeDomainKey spec.eventSpecId observation.exchangeInstrumentId
    spec.positionSide
  let duplicate := ∃ checkpoint ∈ state.recovery,
    checkpoint.lastObservedCloseTimeMs = some observedAtMs
  checkEpisode state.episode spec key observation.toObservation duplicate
  let binding ← checkComparison state.comparison spec key observation duplicate
  let recovery ← advanceAuthorityRecoveryRebase state.recovery key observation.identity observedAtMs
    status
  if recovery.allowEpisodeAdvance then
    barrierFields state observation binding recovery.checkpoint
  else
    pure ⟨recovery.checkpoint, state.comparison, none, false, recovery.suppressionReason⟩

theorem advanceBehindBarrier_eq (state : RecoveryState) (observation : RecoveryObservation)
    (binding : Option Binding) (recovery : AuthorityRecoveryCheckpoint) :
    advanceBehindBarrier state observation binding recovery =
      barrierFields state observation binding recovery >>=
        RecoveryBoundExposureEpisodeTransition.ofFields := by
  unfold advanceBehindBarrier barrierFields
  cases binding.filter fun binding => binding.revision ≠ 0 with
  | none => simp only [bind_assoc, pure_bind]
  | some compared => simp only [bind_assoc, pure_bind]

/-- **A call is what it builds, and then the validator.** -/
theorem advance_eq_callFields (state : RecoveryState) (observation : RecoveryObservation) :
    advanceRecoveryBoundExposureEpisode state observation =
      callFields state observation >>= RecoveryBoundExposureEpisodeTransition.ofFields := by
  unfold advanceRecoveryBoundExposureEpisode callFields
  simp only [bind_assoc, advanceBehindBarrier_eq]
  refine bind_congr fun spec => bind_congr fun _ => bind_congr fun _ => bind_congr fun _ =>
    bind_congr fun _ => bind_congr fun binding => bind_congr fun recovery => ?_
  split_ifs
  · rfl
  · rw [pure_bind]

/-- The key that a call files its close under. -/
def RecoveryObservation.key (observation : RecoveryObservation) (spec : GenericSelectionSpecV1) :
    String :=
  buildEpisodeDomainKey spec.eventSpecId observation.exchangeInstrumentId spec.positionSide

/-- The parts of a call: the binding it compares under, the recovery barrier, and what lies behind. -/
structure CallParts (state : RecoveryState) (observation : RecoveryObservation)
    (fields : RecoveryBoundFields) (spec : GenericSelectionSpecV1) (binding : Option Binding)
    (recovery : AuthorityRecoveryRebaseTransition) : Prop where
  found : genericSelectionSpec observation.contract.strategyGroupId = some spec
  event : observation.contract.eventSpecId.text = spec.eventSpecId
  compared : checkComparison state.comparison spec (observation.key spec) observation
    (∃ checkpoint ∈ state.recovery,
      checkpoint.lastObservedCloseTimeMs = some observation.observedAtMs) = .ok binding
  moved : advanceAuthorityRecoveryRebase state.recovery (observation.key spec) observation.identity
    observation.observedAtMs observation.detectorStatus = .ok recovery
  behind : recovery.allowEpisodeAdvance →
    barrierFields state observation binding recovery.checkpoint = .ok fields
  kept : ¬ recovery.allowEpisodeAdvance →
    fields = ⟨recovery.checkpoint, state.comparison, none, false, recovery.suppressionReason⟩

theorem parts_of_callFields {state : RecoveryState} {observation : RecoveryObservation}
    {fields : RecoveryBoundFields} (built : callFields state observation = .ok fields) :
    ∃ spec binding recovery, CallParts state observation fields spec binding recovery := by
  unfold callFields at built
  simp only [demand_bind_eq_ok, refuse_bind_eq_ok] at built
  obtain ⟨spec, found, -, event, -, built⟩ := built
  obtain ⟨-, -, built⟩ := bind_eq_ok.mp built
  obtain ⟨binding, compared, built⟩ := bind_eq_ok.mp built
  obtain ⟨recovery, moved, built⟩ := bind_eq_ok.mp built
  refine ⟨spec, binding, recovery, found, not_not.mp (not_or.mp event).1, compared, moved, ?_, ?_⟩
  · intro allowed
    rwa [if_pos allowed] at built
  · intro refused
    rw [if_neg refused] at built
    exact (pure_eq_ok.mp built)

/-! ### The validator never refuses -/

/-- The contract has the side that its spec names, and the instrument carries no surrounding
whitespace. -/
def Addressed (observation : RecoveryObservation) : Prop :=
  strip observation.exchangeInstrumentId = observation.exchangeInstrumentId ∧
    ∀ spec ∈ genericSelectionSpec observation.contract.strategyGroupId,
      observation.contract.positionSide = spec.positionSide

/-- A domain key is its own strip. -/
theorem strip_buildEpisodeDomainKey (eventSpecId instrumentId : String) (side : PositionSide) :
    strip (buildEpisodeDomainKey eventSpecId instrumentId side) =
      buildEpisodeDomainKey eventSpecId instrumentId side := by
  refine strip_of_no_space fun c member => ?_
  rw [buildEpisodeDomainKey, String.toList_append] at member
  rcases List.mem_append.mp member with scheme | digest
  · have solid : ∀ c ∈ ("episode-domain:" : String).toList, isSpace c = false :=
      solid_of_all (by decide)
    exact solid c scheme
  · refine isSpace_of_isHexDigit (List.all_eq_true.mp ?_ c digest)
    rw [hexDigest, String.toList_ofList]
    exact hexDigits_isHexDigit _

/-- What the validator asks for. -/
theorem RecoveryBoundFields.check_eq_ok {fields : RecoveryBoundFields}
    (compared : ∀ comparison ∈ fields.comparisonCheckpoint,
      comparison.episodeDomainKey.text = fields.recoveryCheckpoint.episodeDomainKey)
    (advanced : ∀ episode ∈ fields.episodeTransition,
      episode.current.episodeDomainKey.text = fields.recoveryCheckpoint.episodeDomainKey ∧
        episode.current.lastObservedAtMs = fields.recoveryCheckpoint.lastObservedCloseTimeMs ∧
        fields.recoveryCheckpoint.state = .armed)
    (barrier : fields.episodeTransition.isSome → ∀ comparison ∈ fields.comparisonCheckpoint,
      comparison.state = .armedUnderBinding ∧
        some comparison.lastObservedAtMs = fields.recoveryCheckpoint.lastObservedCloseTimeMs)
    (signal : fields.signalEligible = true →
      (∃ episode ∈ fields.episodeTransition, episode.createdNewEpisode = true) ∧
        fields.suppressionReason = none) : fields.check = .ok () := by
  unfold RecoveryBoundFields.check
  simp only [refuse_bind_eq_ok, refuse_eq_ok]
  refine ⟨?_, ?_, ?_, ?_⟩
  · rintro ⟨comparison, found, differs⟩
    exact differs (compared comparison found)
  · rintro ⟨episode, found, differs⟩
    obtain ⟨key, cursor, armed⟩ := advanced episode found
    rcases differs with other | other | other
    · exact other key
    · exact other cursor
    · exact other armed
  · rintro ⟨moved, comparison, found, differs⟩
    obtain ⟨armed, cursor⟩ := barrier moved comparison found
    rcases differs with other | other
    · exact other armed
    · exact other cursor
  · rintro ⟨eligible, differs⟩
    obtain ⟨created, unsuppressed⟩ := signal eligible
    rcases differs with other | other
    · exact other created
    · exact other unsuppressed

section Barrier

variable {current : Option AuthorityRecoveryCheckpoint} {key : String}
  {identity : RecoveryIdentity} {close : ℤ} {status : DetectorStatus}
  {transition : AuthorityRecoveryRebaseTransition}

/-- After an accepted close the checkpoint has the key of the call, and behind an open barrier it is
armed at that close. -/
theorem key_of_advanceRecovery
    (accepted : advanceAuthorityRecoveryRebase current key identity close status = .ok transition) :
    transition.checkpoint.episodeDomainKey = key ∧ (transition.allowEpisodeAdvance →
      transition.checkpoint.state = .armed ∧
        transition.checkpoint.lastObservedCloseTimeMs = some close) := by
  unfold advanceAuthorityRecoveryRebase at accepted
  simp only [refuse_bind_eq_ok] at accepted
  obtain ⟨-, stale, -, -, accepted⟩ := accepted
  split at accepted
  · rename_i checkpoint same
    obtain ⟨-, accepted⟩ := refuse_bind_eq_ok.mp accepted
    obtain rfl := pure_eq_ok.mp accepted
    obtain ⟨found, -⟩ := Option.filter_eq_some_iff.mp same
    refine ⟨not_not.mp fun other => stale ⟨checkpoint, found, .inl other⟩, fun allowed => ?_⟩
    exact absurd allowed (Option.some_ne_none _)
  · obtain ⟨-, accepted⟩ := refuse_bind_eq_ok.mp accepted
    obtain ⟨checkpoint, built, accepted⟩ := bind_eq_ok.mp accepted
    obtain rfl := pure_eq_ok.mp accepted
    obtain ⟨checked, rfl⟩ := certify_eq_ok.mp built
    refine ⟨rfl, fun allowed => ⟨?_, rfl⟩⟩
    have unsuppressed : (if armAfter current identity close status = none then
        some "RECOVERY_REBASE_REQUIRED" else none) = none := allowed
    split_ifs at unsuppressed with armed
    exact if_neg armed

end Barrier

section Call

variable {state : RecoveryState} {observation : RecoveryObservation}
  {spec : GenericSelectionSpecV1} {duplicate : Prop} [Decidable duplicate]
  {binding : Option Binding} {key : String} {recovery : AuthorityRecoveryCheckpoint}
  {fields : RecoveryBoundFields}

/-- A comparison checkpoint that a call is handed has the key of the call. -/
theorem key_of_checkComparison {comparison : Option ComparisonBindingEpisodeCheckpoint}
    (checked : checkComparison comparison spec key observation duplicate = .ok binding) :
    ∀ checkpoint ∈ comparison, checkpoint.episodeDomainKey.text = key := by
  intro checkpoint found
  unfold checkComparison at checked
  by_cases comparative : Comparative observation.contract
  · rw [if_pos comparative, demand_bind_eq_ok] at checked
    obtain ⟨universe_, -, checked⟩ := checked
    simp only [refuse_bind_eq_ok] at checked
    exact not_not.mp fun other => checked.2.1 ⟨checkpoint, found, .inl other⟩
  · rw [if_neg comparative, refuse_bind_eq_ok] at checked
    rw [found] at checked
    exact absurd (Or.inl rfl) checked.1

/-- The episode is filed under the key of the call. -/
theorem key_of_episode {episode : Option ExposureEpisodeState} {advanced : ExposureEpisodeTransition}
    (found : genericSelectionSpec observation.contract.strategyGroupId = some spec)
    (event : observation.contract.eventSpecId.text = spec.eventSpecId)
    (addressed : Addressed observation)
    (accepted : advanceExposureEpisode observation.contract episode observation.toObservation =
      .ok advanced) :
    advanced.current.episodeDomainKey.text =
      buildEpisodeDomainKey spec.eventSpecId observation.exchangeInstrumentId spec.positionSide := by
  have named : EpisodeOf observation.contract observation.toObservation advanced.current := by
    cases EpisodeStep.of_advance accepted with
    | replayed _ named => exact named
    | observed new => exact new.named
  rw [← strip_buildEpisodeDomainKey, ← event, ← addressed.2 spec found, ← addressed.1]
  exact not_not.mp (not_or.mp named).1

/-- What a call builds behind the open barrier passes the validator. -/
theorem check_of_barrierFields
    (built : barrierFields state observation binding recovery = .ok fields)
    (found : genericSelectionSpec observation.contract.strategyGroupId = some spec)
    (event : observation.contract.eventSpecId.text = spec.eventSpecId)
    (addressed : Addressed observation)
    (keyed : recovery.episodeDomainKey =
      buildEpisodeDomainKey spec.eventSpecId observation.exchangeInstrumentId spec.positionSide)
    (compared : ∀ checkpoint ∈ state.comparison,
      checkpoint.episodeDomainKey.text = recovery.episodeDomainKey)
    (armed : recovery.state = .armed)
    (cursor : recovery.lastObservedCloseTimeMs = some observation.observedAtMs) :
    fields.check = .ok () := by
  have keys {advanced : ExposureEpisodeTransition}
      (moved : advanceExposureEpisode observation.contract state.episode observation.toObservation =
        .ok advanced) :
      advanced.current.episodeDomainKey.text = recovery.episodeDomainKey ∧
        advanced.current.lastObservedAtMs = recovery.lastObservedCloseTimeMs := by
    rw [keyed, cursor]
    exact ⟨key_of_episode found event addressed moved, (cursor_of_advance moved).1⟩
  have scope : strip (buildEpisodeDomainKey observation.contract.eventSpecId
      observation.exchangeInstrumentId observation.contract.positionSide) =
        recovery.episodeDomainKey := by
    rw [strip_buildEpisodeDomainKey, event, addressed.2 spec found, keyed]
  unfold barrierFields at built
  split at built
  · obtain ⟨⟨checkpoint, advanced, signal, reason⟩, accepted, built⟩ := bind_eq_ok.mp built
    obtain rfl := pure_eq_ok.mp built
    obtain ⟨stands, step⟩ := ComparisonStep.of_advance accepted
    have last : some checkpoint.lastObservedAtMs = recovery.lastObservedCloseTimeMs := by
      rw [stands.cursor, cursor]
    cases step with
    | repeated present =>
      refine RecoveryBoundFields.check_eq_ok ?_ (by simp) (by simp) (by simp)
      rintro _ ⟨⟩
      exact compared _ present
    | replayed present held moved =>
      refine RecoveryBoundFields.check_eq_ok ?_ ?_ ?_ (by simp)
      · rintro _ ⟨⟩
        exact compared _ present
      · rintro _ ⟨⟩
        exact ⟨(keys moved).1, (keys moved).2, armed⟩
      · rintro - _ ⟨⟩
        exact ⟨held, last⟩
    | suppressed later triggered waits unarmed own =>
      refine RecoveryBoundFields.check_eq_ok ?_ (by simp) (by simp) (by simp)
      rintro _ ⟨⟩
      exact own.trans scope
    | armed later quiet moved arms arm own =>
      refine RecoveryBoundFields.check_eq_ok ?_ ?_ ?_ (by simp)
      · rintro _ ⟨⟩
        rw [own]
        exact (keys moved).1
      · rintro _ ⟨⟩
        exact ⟨(keys moved).1, (keys moved).2, armed⟩
      · rintro - _ ⟨⟩
        exact ⟨arms, last⟩
    | tracked present digest revision held later moved arms arm own edge =>
      refine RecoveryBoundFields.check_eq_ok ?_ ?_ ?_ ?_
      · rintro _ ⟨⟩
        exact own.trans scope
      · rintro _ ⟨⟩
        exact ⟨(keys moved).1, (keys moved).2, armed⟩
      · rintro - _ ⟨⟩
        exact ⟨arms, last⟩
      · intro signal
        exact ⟨⟨_, rfl, (edge.mp signal).2⟩, rfl⟩
  · obtain ⟨advanced, moved, built⟩ := bind_eq_ok.mp built
    obtain rfl := pure_eq_ok.mp built
    refine RecoveryBoundFields.check_eq_ok (by simp) ?_ (by simp) ?_
    · rintro _ ⟨⟩
      exact ⟨(keys moved).1, (keys moved).2, armed⟩
    · intro signal
      exact ⟨⟨advanced, rfl, (Bool.and_eq_true_iff.mp signal).1⟩, rfl⟩

/-- **The validator never refuses what a call has built.** -/
theorem fields_sound (addressed : Addressed observation)
    (built : callFields state observation = .ok fields) : fields.check = .ok () := by
  obtain ⟨spec, binding, recovery, parts⟩ := parts_of_callFields built
  obtain ⟨keyed, open_⟩ := key_of_advanceRecovery parts.moved
  have compared := key_of_checkComparison parts.compared
  rw [← keyed] at compared
  by_cases allowed : recovery.allowEpisodeAdvance
  · obtain ⟨armed, cursor⟩ := open_ allowed
    exact check_of_barrierFields (parts.behind allowed) parts.found parts.event addressed keyed
      compared armed cursor
  · rw [parts.kept allowed]
    exact RecoveryBoundFields.check_eq_ok compared (by simp) (by simp) (by simp)

end Call

/-! ### The gates -/

/-- The arm of a recovery is not after its last close. -/
theorem AuthorityRecoveryCheckpoint.arm_le_last (checkpoint : AuthorityRecoveryCheckpoint) :
    ∀ armed ∈ checkpoint.armedAtCloseTimeMs,
      ∃ last ∈ checkpoint.lastObservedCloseTimeMs, armed ≤ last := by
  intro armed found
  have valid := checkpoint.valid
  unfold RecoveryFields.check at valid
  simp only [refuse_bind_eq_ok] at valid
  obtain ⟨-, -, -, -, valid⟩ := valid
  by_cases pending : checkpoint.Pending
  · rw [if_pos pending, refuse_eq_ok] at valid
    rw [not_or, not_or, not_not, not_not] at valid
    rw [valid.2.1] at found
    cases found
  · rw [if_neg pending] at valid
    simp only [refuse_bind_eq_ok] at valid
    obtain ⟨-, -, valid⟩ := valid
    by_cases waits : checkpoint.state = .rebaseRequired
    · rw [if_pos waits, refuse_bind_eq_ok, not_or, not_not] at valid
      rw [valid.1.1] at found
      cases found
    · rw [if_neg waits, refuse_bind_eq_ok, not_not] at valid
      obtain ⟨⟨other, same, -, ⟨last, seen, before⟩, -⟩, -⟩ := valid
      obtain rfl := Option.some.inj (found.symm.trans same)
      exact ⟨last, seen, before⟩

/-- The arm of an armed comparison checkpoint is not after its last close. -/
theorem ComparisonBindingEpisodeCheckpoint.arm_le_last
    (checkpoint : ComparisonBindingEpisodeCheckpoint)
    (armed : checkpoint.state = .armedUnderBinding) :
    ∃ arm, checkpoint.armedAtMs = some arm ∧ arm ≤ checkpoint.lastObservedAtMs := by
  have valid := checkpoint.valid
  unfold ComparisonFields.check at valid
  simp only [refuse_bind_eq_ok] at valid
  obtain ⟨-, -, -, valid⟩ := valid
  rw [if_neg (by rw [armed]; decide), refuse_eq_ok, not_not] at valid
  obtain ⟨arm, found, -, before⟩ := valid
  exact ⟨arm, found, before⟩

/-- The recovery gate lets a close through that the armed checkpoint observed last, triggered and after
its arm. -/
theorem recoveryRebaseEntryRejection_eq_none {checkpoint : AuthorityRecoveryCheckpoint}
    {identity : RecoveryIdentity} {close : ℤ} (same : checkpoint.toRecoveryIdentity = identity)
    (armed : checkpoint.state = .armed) (triggered : checkpoint.lastDetectorStatus = some .triggered)
    (last : checkpoint.lastObservedCloseTimeMs = some close)
    (arm : ∃ arm, checkpoint.armedAtCloseTimeMs = some arm ∧ arm < close) :
    recoveryRebaseEntryRejection (some checkpoint) checkpoint.episodeDomainKey identity close =
      none := by
  obtain ⟨arm, found, before⟩ := arm
  unfold recoveryRebaseEntryRejection
  dsimp only
  rw [if_neg (by simp [same]), if_neg (by simp [armed, found]),
    if_neg (by simp [triggered, last, found, before])]

/-- **The recovery gate refuses every close but the last one.** -/
theorem last_of_recoveryRebaseEntryRejection {checkpoint : Option AuthorityRecoveryCheckpoint}
    {key : String} {identity : RecoveryIdentity} {close : ℤ}
    (passes : recoveryRebaseEntryRejection checkpoint key identity close = none) :
    ∃ stored ∈ checkpoint, stored.lastObservedCloseTimeMs = some close := by
  unfold recoveryRebaseEntryRejection at passes
  cases checkpoint with
  | none => exact absurd passes (Option.some_ne_none _)
  | some stored =>
    dsimp only at passes
    split_ifs at passes with changed unarmed stale
    rw [not_or, not_or, not_not, not_not] at stale
    exact ⟨stored, rfl, stale.2.1⟩

section Signal

variable {state : RecoveryState} {observation : RecoveryObservation}
  {spec : GenericSelectionSpecV1} {transition : RecoveryBoundExposureEpisodeTransition}

/-- The parts of an accepted call. -/
theorem parts_of_advance
    (accepted : advanceRecoveryBoundExposureEpisode state observation = .ok transition) :
    ∃ spec binding recovery,
      CallParts state observation transition.toRecoveryBoundFields spec binding recovery := by
  rw [advance_eq_callFields] at accepted
  obtain ⟨fields, built, certified⟩ := bind_eq_ok.mp accepted
  obtain ⟨checked, rfl⟩ := certify_eq_ok.mp certified
  exact parts_of_callFields built

/-- A signal comes from behind an open barrier, whose checkpoint has the key of the call. -/
theorem barrier_of_signal {binding : Option Binding} {recovery : AuthorityRecoveryRebaseTransition}
    (parts : CallParts state observation transition.toRecoveryBoundFields spec binding recovery)
    (signal : transition.signalEligible = true) :
    barrierFields state observation binding transition.recoveryCheckpoint =
        .ok transition.toRecoveryBoundFields ∧
      transition.recoveryCheckpoint.episodeDomainKey = observation.key spec ∧
      transition.recoveryCheckpoint.state = .armed := by
  obtain ⟨keyed, open_⟩ := key_of_advanceRecovery parts.moved
  by_cases allowed : recovery.allowEpisodeAdvance
  · have behind := parts.behind allowed
    have kept : transition.recoveryCheckpoint = recovery.checkpoint := by
      unfold barrierFields at behind
      split at behind
      · obtain ⟨_, -, built⟩ := bind_eq_ok.mp behind
        rw [pure_eq_ok.mp built]
      · obtain ⟨_, -, built⟩ := bind_eq_ok.mp behind
        rw [pure_eq_ok.mp built]
    rw [kept]
    exact ⟨behind, keyed, (open_ allowed).1⟩
  · rw [parts.kept allowed] at signal
    exact absurd signal Bool.false_ne_true

/-- **A signal passes the recovery gate** at its own close. -/
theorem recoveryGate_of_signal
    (found : genericSelectionSpec observation.contract.strategyGroupId = some spec)
    (accepted : advanceRecoveryBoundExposureEpisode state observation = .ok transition)
    (signal : transition.signalEligible = true) :
    recoveryRebaseEntryRejection (some transition.recoveryCheckpoint) (observation.key spec)
      observation.identity observation.observedAtMs = none := by
  obtain ⟨spec', binding, recovery, parts⟩ := parts_of_advance accepted
  obtain rfl := Option.some.inj (found.symm.trans parts.found)
  obtain ⟨-, keyed, armed⟩ := barrier_of_signal parts signal
  obtain ⟨-, -, ⟨-, -, silent, -⟩ | ⟨new, -, edge⟩⟩ := observed_of_advance accepted
  · exact absurd (silent.symm.trans signal) Bool.false_ne_true
  obtain ⟨armedAt, triggered, -⟩ := edge signal
  obtain ⟨arm, present⟩ := Option.ne_none_iff_exists'.mp armedAt
  rw [← keyed]
  refine recoveryRebaseEntryRejection_eq_none new.identity_eq armed (triggered ▸ new.status_eq)
    new.observed ⟨arm, present, ?_⟩
  -- The close is triggered, so the arm is an earlier one of the same revision.
  rcases new.arm arm present with ⟨-, quiet⟩ | ⟨old, held, -, kept⟩
  · exact absurd (triggered.symm.trans quiet) (by decide)
  · obtain ⟨last, seen, before⟩ := old.arm_le_last arm kept
    exact before.trans_lt ((new.advances old held).2.2 last seen)

/-- The binding that a comparative call compares under is the one of its universe. -/
theorem universe_of_checkComparison {comparison : Option ComparisonBindingEpisodeCheckpoint}
    {key : String} {duplicate : Prop} [Decidable duplicate] {binding : Option Binding}
    (checked : checkComparison comparison spec key observation duplicate = .ok binding)
    (comparative : Comparative observation.contract) :
    ∃ universe_, observation.comparisonBinding = some universe_ ∧ binding = some universe_.binding := by
  unfold checkComparison at checked
  rw [if_pos comparative, demand_bind_eq_ok] at checked
  obtain ⟨universe_, found, checked⟩ := checked
  simp only [refuse_bind_eq_ok, pure_eq_ok] at checked
  exact ⟨universe_, found, checked.2.2.2⟩

/-- **A signal passes the comparison gate** of its own universe at its own close. -/
theorem comparisonGate_of_signal
    (found : genericSelectionSpec observation.contract.strategyGroupId = some spec)
    (accepted : advanceRecoveryBoundExposureEpisode state observation = .ok transition)
    (signal : transition.signalEligible = true) (comparative : Comparative observation.contract) :
    ∃ universe_, observation.comparisonBinding = some universe_ ∧
      recoveryComparisonEntryRejection transition.comparisonCheckpoint universe_
        (observation.key spec) observation.observedAtMs = none := by
  obtain ⟨spec', binding, recovery, parts⟩ := parts_of_advance accepted
  obtain rfl := Option.some.inj (found.symm.trans parts.found)
  obtain ⟨behind, keyed, -⟩ := barrier_of_signal parts signal
  obtain ⟨universe_, named, rfl⟩ := universe_of_checkComparison parts.compared comparative
  refine ⟨universe_, named, ?_⟩
  have consistent := transition.valid
  unfold RecoveryBoundFields.check at consistent
  simp only [refuse_bind_eq_ok] at consistent
  obtain ⟨sameKey, -⟩ := consistent
  unfold barrierFields at behind
  by_cases static : universe_.comparisonTransitionRevision = 0
  · have closed : (some universe_.binding).filter (fun binding => binding.revision ≠ 0) = none := by
      simp [Option.filter, ComparisonUniverseBinding.binding, static]
    rw [closed] at behind
    obtain ⟨advanced, -, built⟩ := bind_eq_ok.mp behind
    rw [pure_eq_ok.mp built, recoveryComparisonEntryRejection, if_pos static, if_pos rfl]
  · have open_ : (some universe_.binding).filter (fun binding => binding.revision ≠ 0) =
        some universe_.binding := by
      simp [Option.filter, ComparisonUniverseBinding.binding, static]
    rw [open_] at behind
    obtain ⟨compared, moved, built⟩ := bind_eq_ok.mp behind
    have built := pure_eq_ok.mp built
    have signalled : compared.signalEligible = true := by
      rw [← signal, built]
    have own : compared.checkpoint.episodeDomainKey.text = observation.key spec := by
      rw [← keyed]
      refine not_not.mp fun other => sameKey ⟨compared.checkpoint, ?_, other⟩
      rw [built]
      rfl
    obtain ⟨stands, step⟩ := ComparisonStep.of_advance moved
    rw [built]
    obtain ⟨checkpoint, kept, eligible, reason⟩ := compared
    cases step with
    | repeated => exact absurd signalled Bool.false_ne_true
    | replayed => exact absurd signalled Bool.false_ne_true
    | suppressed => exact absurd signalled Bool.false_ne_true
    | armed => exact absurd signalled Bool.false_ne_true
    | @tracked held _ _ _ _ _ _ armed later _ arms arm _ edge =>
      obtain ⟨close, armedAt, before⟩ := held.arm_le_last armed
      have triggered := (edge.mp signalled).1
      unfold recoveryComparisonEntryRejection
      rw [if_neg static]
      dsimp only
      rw [if_neg, if_neg, if_neg]
      · rw [not_or, not_or, not_not, not_not]
        refine ⟨stands.status.trans triggered, stands.cursor, ?_⟩
        rintro ⟨other, found, late⟩
        obtain rfl := Option.some.inj ((arm.trans armedAt).symm.trans found)
        exact absurd (before.trans_lt later) late.not_gt
      · rw [not_or, not_not, arm, armedAt]
        exact ⟨arms, Option.some_ne_none _⟩
      · rw [not_or, not_or, not_not, not_not, not_not]
        exact ⟨own, stands.digest, stands.revision⟩

end Signal

/-! ### The law -/

section Law

variable {episode : Option ExposureEpisodeState}
  {comparison : Option ComparisonBindingEpisodeCheckpoint} {calls : List RecoveryCall}
  {state : RecoveryState}

/-- **Once a later close was observed the recovery gate refuses.** -/
theorem refused_of_consumed (run : RecoveryRun episode comparison calls state) {close : ℤ}
    (consumed : ∃ observation ∈ observations calls, close < observation.observedAtMs) (key : String)
    (identity : RecoveryIdentity) :
    recoveryRebaseEntryRejection state.recovery key identity close ≠ none := by
  intro passes
  obtain ⟨checkpoint, stored, last⟩ := last_of_recoveryRebaseEntryRejection passes
  obtain ⟨observation, seen, later⟩ := consumed
  obtain ⟨-, final, reached, before⟩ :=
    (remembers_of_run run).earlier checkpoint stored observation seen
  obtain rfl := Option.some.inj (last.symm.trans reached)
  exact absurd (later.trans_le before) (lt_irrefl _)

/-- **The entry gates agree with the recovery machine.** In every state that a chain of accepted calls
reaches:

* a call returns what it has built, its validator never refuses, if the call and the episode file the
  close under one key;
* a signal passes the recovery gate, and the comparison gate where there is one, at its own close;
* once a later close was observed, the recovery gate refuses. -/
theorem entry_gates_agree (run : RecoveryRun episode comparison calls state) :
    (∀ observation fields, Addressed observation → callFields state observation = .ok fields →
      ∃ transition, advanceRecoveryBoundExposureEpisode state observation = .ok transition ∧
        transition.toRecoveryBoundFields = fields) ∧
    (∀ observation transition spec,
      genericSelectionSpec observation.contract.strategyGroupId = some spec →
      advanceRecoveryBoundExposureEpisode state observation = .ok transition →
      transition.signalEligible = true →
      recoveryRebaseEntryRejection (state.after transition).recovery (observation.key spec)
          observation.identity observation.observedAtMs = none ∧
        (Comparative observation.contract → ∃ universe_,
          observation.comparisonBinding = some universe_ ∧
            recoveryComparisonEntryRejection (state.after transition).comparison universe_
              (observation.key spec) observation.observedAtMs = none)) ∧
    (∀ close, (∃ observation ∈ observations calls, close < observation.observedAtMs) →
      ∀ key identity, recoveryRebaseEntryRejection state.recovery key identity close ≠ none) := by
  refine ⟨fun observation fields addressed built => ?_,
    fun observation transition spec found accepted signal => ?_,
    fun close consumed => refused_of_consumed run consumed⟩
  · have checked := fields_sound addressed built
    refine ⟨⟨fields, checked⟩, ?_, rfl⟩
    rw [advance_eq_callFields, built]
    exact certify_eq_ok.mpr ⟨checked, rfl⟩
  · exact ⟨recoveryGate_of_signal found accepted signal,
      fun comparative => comparisonGate_of_signal found accepted signal comparative⟩

/-- A quiet close of an instrument that is named with a blank in front. -/
def paddedClose : RecoveryObservation :=
  { sampleClose 6 .notTriggered with exchangeInstrumentId := " A" }

/-- The validator's refusal is the call's. -/
theorem advance_eq_error {observation : RecoveryObservation} {fields : RecoveryBoundFields}
    {error : String} (built : callFields state observation = .ok fields)
    (refused : fields.check = .error error) :
    advanceRecoveryBoundExposureEpisode state observation = .error error := by
  rw [advance_eq_callFields, built]
  show certify fields.check _ = .error error
  unfold certify
  split
  · rename_i passed _
    exact nomatch passed.symm.trans refused
  · rename_i raised _
    exact congrArg Except.error (Except.error.inj (raised.symm.trans refused))

/-- The first quiet close of an instrument whose name is padded: the episode is filed under the key of
the stripped name, and the call raises because its own validator refuses what it has built. -/
theorem padded_instrument_refused : RecoveryRun none none [] ⟨none, none, none⟩ ∧
    ∃ fields, callFields ⟨none, none, none⟩ paddedClose = .ok fields ∧
      fields.check = .error "recovery Episode advancement requires its exact armed cursor" ∧
      advanceRecoveryBoundExposureEpisode ⟨none, none, none⟩ paddedClose =
        .error "recovery Episode advancement requires its exact armed cursor" := by
  have evaluated : (match callFields ⟨none, none, none⟩ paddedClose with
      | .ok fields => decide (fields.check =
          .error "recovery Episode advancement requires its exact armed cursor")
      | .error _ => false) = true := by
    decide +kernel
  refine ⟨.nil, ?_⟩
  cases built : callFields ⟨none, none, none⟩ paddedClose with
  | error raised =>
    rw [built] at evaluated
    exact absurd evaluated Bool.false_ne_true
  | ok fields =>
    rw [built] at evaluated
    have refused := of_decide_eq_true evaluated
    exact ⟨fields, rfl, refused, advance_eq_error built refused⟩

/-- The gates on the sample recovery: its signal passes at its close, and the close before is refused. -/
theorem entry_gates_agree_of_sample : ∃ before transition,
    advanceRecoveryBoundExposureEpisode before (sampleClose 7 .triggered) = .ok transition ∧
      transition.signalEligible = true ∧
      recoveryRebaseEntryRejection (before.after transition).recovery
        ((sampleClose 7 .triggered).key ⟨.cpm⟩) sampleRecovery (7 * hourMs) = none ∧
      recoveryRebaseEntryRejection before.recovery ((sampleClose 7 .triggered).key ⟨.cpm⟩)
        sampleRecovery (5 * hourMs) ≠ none := by
  obtain ⟨state, run⟩ := exists_sampleRun
  obtain ⟨before, past, last⟩ := Run.append_iff.mp
    (show Run Recovers _ ([_] ++ [_]) state from run)
  obtain ⟨_, step, -⟩ := Run.cons_iff.mp last
  obtain ⟨signal, eligible⟩ : ∃ signal, signal = true := ⟨true, rfl⟩
  rw [← eligible] at step
  cases step with
  | @advance _ transition accepted =>
    obtain ⟨-, passes, refuses⟩ := entry_gates_agree past
    have named : genericSelectionSpec cpmContract.strategyGroupId = some ⟨.cpm⟩ := rfl
    exact ⟨before, transition, accepted, eligible,
      (passes _ transition ⟨.cpm⟩ named accepted eligible).1,
      refuses _ ⟨sampleClose 6 .notTriggered, List.mem_singleton_self _, by decide⟩ _ _⟩

end Law

end TradingKernel.Recovery
