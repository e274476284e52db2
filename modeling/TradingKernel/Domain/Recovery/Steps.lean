/-
**What an accepted call does to the recovery, the comparison and the episode.**

A close at the recovery barrier is a repetition of the last one, or later than every close before it
(`newClose_of_advance`). Behind the open barrier a triggered close leaves the episode triggered or the
comparison barrier waiting for a rebase (`blocked_of_advance`), and in both cases no further triggered
close signals. `observed_of_advance` is the whole call, `begun_of_begin` the opening of a barrier.
-/

import TradingKernel.Domain.Recovery.Rebase
import TradingKernel.Domain.Recovery.ComparisonEdge

namespace TradingKernel.Recovery

open Text CanonicalJson Guard Selection

/-! ### Calls -/

/-- An accepted call. -/
inductive RecoveryCall where
  | begin (episodeDomainKey : String) (identity : RecoveryIdentity) (latestConsumed : Option ℤ)
  | advance (observation : RecoveryObservation) (signalEligible : Bool)

/-- The projections after a transition: a suppressed close leaves the episode. -/
def RecoveryState.after (state : RecoveryState)
    (transition : RecoveryBoundExposureEpisodeTransition) : RecoveryState where
  recovery := some transition.recoveryCheckpoint
  comparison := transition.comparisonCheckpoint
  episode := match transition.episodeTransition with
    | none => state.episode
    | some episode => some episode.current

/-- One call is accepted. -/
inductive Recovers : RecoveryState → RecoveryCall → RecoveryState → Prop
  | begin {state : RecoveryState} {key : String} {identity : RecoveryIdentity}
      {latestConsumed : Option ℤ} {checkpoint : AuthorityRecoveryCheckpoint} :
      beginAuthorityRecoveryRebase state.recovery key identity latestConsumed = .ok checkpoint →
      Recovers state (.begin key identity latestConsumed)
        { state with recovery := some checkpoint }
  | advance {state : RecoveryState} {observation : RecoveryObservation}
      {transition : RecoveryBoundExposureEpisodeTransition} :
      advanceRecoveryBoundExposureEpisode state observation = .ok transition →
      Recovers state (.advance observation transition.signalEligible) (state.after transition)

/-- A chain of accepted calls, from any episode and comparison checkpoint and no recovery. -/
def RecoveryRun (episode : Option ExposureEpisodeState)
    (comparison : Option ComparisonBindingEpisodeCheckpoint) (calls : List RecoveryCall)
    (state : RecoveryState) : Prop :=
  Run Recovers ⟨none, comparison, episode⟩ calls state

/-- The observation that a call shows. -/
def RecoveryCall.observation? : RecoveryCall → Option RecoveryObservation
  | .begin _ _ _ => none
  | .advance observation _ => some observation

/-- What a chain has observed, in order. -/
def observations (calls : List RecoveryCall) : List RecoveryObservation :=
  calls.filterMap RecoveryCall.observation?

/-- What was observed under a recovery revision, in order. -/
def observedUnder (revision : ℤ) (seen : List RecoveryObservation) : List RecoveryObservation :=
  seen.filter fun observation => observation.identity.recoveryRevision = revision

/-! ### One episode step -/

/-- **An episode step on a triggered close** leaves the episode triggered, and opens a new one only
where it was not. -/
theorem triggered_of_advance {contract : RegisteredStrategyContract}
    {current : Option ExposureEpisodeState} {observation : Observation}
    {transition : ExposureEpisodeTransition}
    (h : advanceExposureEpisode contract current observation = .ok transition)
    (hStatus : observation.detectorStatus = .triggered) :
    transition.current.state = .triggered ∧ (transition.createdNewEpisode = true →
      ∀ episode ∈ current, episode.state ≠ .triggered) := by
  cases EpisodeStep.of_advance h with
  | replayed hFound hNamed hCursor hState =>
      rw [hStatus] at hState
      exact ⟨hState, fun hCreated => nomatch hCreated⟩
  | observed hNew =>
      refine ⟨?_, fun hCreated => (hNew.created.1 hCreated).2⟩
      rw [hNew.state, hStatus]
      rfl

/-- A close that is not triggered opens no episode. -/
theorem not_created_of_notTriggered {contract : RegisteredStrategyContract}
    {current : Option ExposureEpisodeState} {observation : Observation}
    {transition : ExposureEpisodeTransition}
    (h : advanceExposureEpisode contract current observation = .ok transition)
    (hStatus : observation.detectorStatus = .notTriggered) :
    transition.createdNewEpisode = false := by
  cases EpisodeStep.of_advance h with
  | replayed => rfl
  | observed hNew =>
      refine Bool.eq_false_iff.2 fun hCreated => ?_
      rw [(hNew.created.1 hCreated).1] at hStatus
      exact nomatch hStatus

/-! ### One comparison step -/

/-- What a comparison step on a triggered close does: it suppresses the close and waits for a rebase,
or it advances the episode. -/
def Compares (contract : RegisteredStrategyContract) (episode : Option ExposureEpisodeState)
    (observation : Observation) (transition : ComparisonBoundExposureEpisodeTransition) : Prop :=
  (transition.episodeTransition = none ∧ transition.signalEligible = false ∧
      transition.checkpoint.state = .rebaseRequired) ∨
    ∃ advanced, transition.episodeTransition = some advanced ∧
      advanceExposureEpisode contract episode observation = .ok advanced ∧
      (transition.signalEligible = true → advanced.createdNewEpisode = true)

/-- **A comparison step on a triggered close.** A checkpoint that waits for a rebase goes on waiting. -/
theorem compares_of_advance {contract : RegisteredStrategyContract}
    {episode : Option ExposureEpisodeState} {current : Option ComparisonBindingEpisodeCheckpoint}
    {observation : Observation} {binding : Binding}
    {transition : ComparisonBoundExposureEpisodeTransition}
    (h : advanceComparisonBoundExposureEpisode contract episode current observation binding
      = .ok transition)
    (hStatus : observation.detectorStatus = .triggered) :
    Compares contract episode observation transition ∧
      ((∃ checkpoint ∈ current, checkpoint.state = .rebaseRequired) →
        transition.signalEligible = false) := by
  obtain ⟨-, hStep⟩ := ComparisonStep.of_advance h
  cases hStep with
  | repeated hFound hWaits => exact ⟨Or.inl ⟨rfl, rfl, hWaits⟩, fun _ => rfl⟩
  | replayed hFound hArmed hReplay =>
      exact ⟨Or.inr ⟨_, rfl, hReplay, fun hSignal => nomatch hSignal⟩, fun _ => rfl⟩
  | suppressed hLater hTriggered hWaits => exact ⟨Or.inl ⟨rfl, rfl, hWaits⟩, fun _ => rfl⟩
  | armed hLater hQuiet =>
      rw [hStatus] at hQuiet
      exact nomatch hQuiet
  | tracked hFound hDigest hRevision hArmed hLater hAdvanced hArms hArm hKeyed hEdge =>
      refine ⟨Or.inr ⟨_, rfl, hAdvanced, fun hSignal => (hEdge.1 hSignal).2⟩, ?_⟩
      rintro ⟨other, hOther, hState⟩
      rw [hFound, Option.mem_some_iff] at hOther
      rw [← hOther, hArmed] at hState
      exact nomatch hState

/-! ### Behind the open barrier -/

/-- No triggered close can open an episode: it is triggered already, or a rebase is required. -/
def Blocked (state : RecoveryState) : Prop :=
  (∃ episode ∈ state.episode, episode.state = .triggered) ∨
    ∃ checkpoint ∈ state.comparison, checkpoint.state = .rebaseRequired

/-- **A triggered close behind the barrier blocks**, and from a blocked state it signals nothing. -/
theorem blocked_of_advance {state : RecoveryState} {observation : RecoveryObservation}
    {binding : Option Binding} {recovery : AuthorityRecoveryCheckpoint}
    {transition : RecoveryBoundExposureEpisodeTransition}
    (h : advanceBehindBarrier state observation binding recovery = .ok transition)
    (hStatus : observation.detectorStatus = .triggered)
    (hBinding : state.comparison.isSome → ∃ compared ∈ binding, compared.revision ≠ 0) :
    Blocked (state.after transition) ∧
      (Blocked state → transition.signalEligible = false) := by
  unfold advanceBehindBarrier at h
  split at h
  · rw [bind_eq_ok] at h
    obtain ⟨compared, hCompared, h⟩ := h
    rw [RecoveryBoundExposureEpisodeTransition.ofFields, certify_eq_ok] at h
    obtain ⟨valid, rfl⟩ := h
    obtain ⟨hSuppressed | ⟨advanced, hEpisode, hAdvanced, hSignal⟩, hRebase⟩ :=
      compares_of_advance hCompared hStatus
    · exact ⟨Or.inr ⟨compared.checkpoint, rfl, hSuppressed.2.2⟩, fun _ => hSuppressed.2.1⟩
    · obtain ⟨hTriggered, hCreated⟩ := triggered_of_advance hAdvanced hStatus
      refine ⟨Or.inl ⟨advanced.current, ?_, hTriggered⟩, ?_⟩
      · simp [RecoveryState.after, hEpisode]
      · rintro (⟨episode, hMem, hState⟩ | hWaits)
        · rw [← Bool.not_eq_true]
          exact fun hEligible => hCreated (hSignal hEligible) episode hMem hState
        · exact hRebase hWaits
  · next hNone =>
      rw [bind_eq_ok] at h
      obtain ⟨advanced, hAdvanced, h⟩ := h
      rw [RecoveryBoundExposureEpisodeTransition.ofFields, certify_eq_ok] at h
      obtain ⟨valid, rfl⟩ := h
      obtain ⟨hTriggered, hCreated⟩ := triggered_of_advance hAdvanced hStatus
      refine ⟨Or.inl ⟨advanced.current, rfl, hTriggered⟩, ?_⟩
      rintro (⟨episode, hMem, hState⟩ | ⟨checkpoint, hMem, -⟩)
      · rw [← Bool.not_eq_true]
        intro hEligible
        exact hCreated (Bool.and_eq_true_iff.1 hEligible).1 episode hMem hState
      · -- A comparison checkpoint is there only with a positive binding.
        obtain ⟨compared, hCompared, hRevision⟩ := hBinding (by rw [Option.mem_def.1 hMem]; rfl)
        rw [Option.mem_def.1 hCompared] at hNone
        simp [Option.filter, hRevision] at hNone

/-- A comparison step signals triggered closes only. -/
theorem triggered_of_compared_signal {contract : RegisteredStrategyContract}
    {episode : Option ExposureEpisodeState} {current : Option ComparisonBindingEpisodeCheckpoint}
    {observation : Observation} {binding : Binding}
    {transition : ComparisonBoundExposureEpisodeTransition}
    (h : advanceComparisonBoundExposureEpisode contract episode current observation binding
      = .ok transition)
    (hSignal : transition.signalEligible = true) : observation.detectorStatus = .triggered := by
  obtain ⟨-, hStep⟩ := ComparisonStep.of_advance h
  cases hStep with
  | repeated => exact absurd hSignal Bool.false_ne_true
  | replayed => exact absurd hSignal Bool.false_ne_true
  | suppressed _ hTriggered => exact hTriggered
  | armed => exact absurd hSignal Bool.false_ne_true
  | tracked _ _ _ _ _ _ _ _ _ hEdge => exact (hEdge.1 hSignal).1

/-- Behind the barrier the recovery checkpoint is kept, and only triggered closes signal. -/
theorem recoveryCheckpoint_of_advance {state : RecoveryState} {observation : RecoveryObservation}
    {binding : Option Binding} {recovery : AuthorityRecoveryCheckpoint}
    {transition : RecoveryBoundExposureEpisodeTransition}
    (h : advanceBehindBarrier state observation binding recovery = .ok transition) :
    transition.recoveryCheckpoint = recovery ∧
      (transition.signalEligible = true → observation.detectorStatus = .triggered) := by
  unfold advanceBehindBarrier at h
  split at h
  · rw [bind_eq_ok] at h
    obtain ⟨compared, hCompared, h⟩ := h
    rw [RecoveryBoundExposureEpisodeTransition.ofFields, certify_eq_ok] at h
    obtain ⟨valid, rfl⟩ := h
    exact ⟨rfl, triggered_of_compared_signal hCompared⟩
  · rw [bind_eq_ok] at h
    obtain ⟨advanced, -, h⟩ := h
    rw [RecoveryBoundExposureEpisodeTransition.ofFields, certify_eq_ok] at h
    obtain ⟨valid, rfl⟩ := h
    exact ⟨rfl, fun hSignal => of_decide_eq_true (Bool.and_eq_true_iff.1 hSignal).2⟩

/-- A comparison checkpoint is handed over only with a binding at a positive revision. -/
theorem binding_of_checkComparison {comparison : Option ComparisonBindingEpisodeCheckpoint}
    {spec : GenericSelectionSpecV1} {key : String} {observation : RecoveryObservation}
    {duplicate : Prop} [Decidable duplicate] {binding : Option Binding}
    (h : checkComparison comparison spec key observation duplicate = .ok binding)
    (hComparison : comparison.isSome) : ∃ compared ∈ binding, compared.revision ≠ 0 := by
  obtain ⟨checkpoint, hCheckpoint⟩ := Option.isSome_iff_exists.1 hComparison
  have hPositive : 0 < checkpoint.comparisonTransitionRevision := by
    have hValid := checkpoint.valid
    unfold ComparisonFields.check at hValid
    simp only [refuse_bind_eq_ok] at hValid
    exact not_le.1 fun hLow => hValid.2.1 (Or.inl hLow)
  unfold checkComparison at h
  by_cases hComparative : Comparative observation.contract
  · rw [if_pos hComparative, demand_bind_eq_ok] at h
    obtain ⟨universe_, -, h⟩ := h
    simp only [refuse_bind_eq_ok, pure_eq_ok] at h
    obtain ⟨-, hRevision, -, rfl⟩ := h
    refine ⟨universe_.binding, rfl, fun hZero => hRevision ⟨checkpoint, hCheckpoint, ?_⟩⟩
    rw [hZero]
    exact Or.inr (Or.inl hPositive)
  · rw [if_neg hComparative, refuse_bind_eq_ok] at h
    exact absurd (Or.inl hComparison) h.1

/-! ### The recovery barrier -/

/-- A new close at the barrier, later than every close before it. -/
structure NewClose (current : Option AuthorityRecoveryCheckpoint) (identity : RecoveryIdentity)
    (close : ℤ) (status : DetectorStatus) (next : AuthorityRecoveryCheckpoint) : Prop where
  identity_eq : next.toRecoveryIdentity = identity
  observed : next.lastObservedCloseTimeMs = some close
  status_eq : next.lastDetectorStatus = some status
  advances : ∀ checkpoint ∈ current, checkpoint.recoveryRevision ≤ identity.recoveryRevision ∧
    (checkpoint.recoveryRevision = identity.recoveryRevision →
      checkpoint.toRecoveryIdentity = identity) ∧
    ∀ last ∈ checkpoint.lastObservedCloseTimeMs, last < close
  arm : ∀ armed ∈ next.armedAtCloseTimeMs, (armed = close ∧ status = .notTriggered) ∨
    ∃ checkpoint ∈ current, checkpoint.recoveryRevision = identity.recoveryRevision ∧
      checkpoint.armedAtCloseTimeMs = some armed

theorem arm_of_armAfter {current : Option AuthorityRecoveryCheckpoint} {identity : RecoveryIdentity}
    {close : ℤ} {status : DetectorStatus} {armed : ℤ}
    (h : armed ∈ armAfter current identity close status) :
    (armed = close ∧ status = .notTriggered) ∨
      ∃ checkpoint ∈ current, checkpoint.recoveryRevision = identity.recoveryRevision ∧
        checkpoint.armedAtCloseTimeMs = some armed := by
  unfold armAfter at h
  split at h
  · next kept hKept =>
      rw [Option.mem_some_iff] at h
      subst h
      rw [Option.bind_eq_some_iff] at hKept
      obtain ⟨checkpoint, hFiltered, hKept⟩ := hKept
      rw [Option.filter_eq_some_iff] at hFiltered
      exact Or.inr ⟨checkpoint, hFiltered.1, of_decide_eq_true hFiltered.2, hKept⟩
  · split_ifs at h with hStatus
    · rw [Option.mem_some_iff] at h
      exact Or.inl ⟨h.symm, hStatus⟩
    · exact nomatch h

/-- **One close at the barrier**: a repetition, or a new close. Behind an open barrier it is new. -/
theorem newClose_of_advance {current : Option AuthorityRecoveryCheckpoint} {key : String}
    {identity : RecoveryIdentity} {close : ℤ} {status : DetectorStatus}
    {transition : AuthorityRecoveryRebaseTransition}
    (h : advanceAuthorityRecoveryRebase current key identity close status = .ok transition) :
    identity.firstEligibleCloseTimeMs ≤ close ∧
      ((current = some transition.checkpoint ∧ ¬ transition.allowEpisodeAdvance ∧
          transition.checkpoint.toRecoveryIdentity = identity ∧
          transition.checkpoint.lastObservedCloseTimeMs = some close ∧
          transition.checkpoint.lastDetectorStatus = some status) ∨
        (NewClose current identity close status transition.checkpoint ∧
          (transition.allowEpisodeAdvance ↔
            transition.checkpoint.armedAtCloseTimeMs ≠ none))) := by
  unfold advanceAuthorityRecoveryRebase at h
  simp only [refuse_bind_eq_ok] at h
  obtain ⟨hFuture, hStale, hIdentity, hBack, h⟩ := h
  refine ⟨?_, ?_⟩
  · by_contra hPast
    exact hFuture (Or.inl (not_le.1 hPast))
  · split at h
    · next checkpoint hFound =>
        rw [refuse_bind_eq_ok, pure_eq_ok] at h
        obtain ⟨hInput, rfl⟩ := h
        rw [Option.filter_eq_some_iff] at hFound
        rw [not_or, not_not, not_not] at hInput
        have hSame : checkpoint.toRecoveryIdentity = identity := by
          by_contra hDiffers
          exact hIdentity ⟨checkpoint, hFound.1, hInput.1, hDiffers⟩
        left
        refine ⟨hFound.1, ?_, hSame, of_decide_eq_true hFound.2, hInput.2.symm⟩
        simp [AuthorityRecoveryRebaseTransition.allowEpisodeAdvance]
    · next hNone =>
        rw [refuse_bind_eq_ok, bind_eq_ok] at h
        obtain ⟨-, checkpoint, hFields, h⟩ := h
        rw [pure_eq_ok] at h
        subst h
        rw [AuthorityRecoveryCheckpoint.ofFields, certify_eq_ok] at hFields
        obtain ⟨valid, rfl⟩ := hFields
        right
        refine ⟨⟨rfl, rfl, rfl, ?_, ?_⟩, ?_⟩
        · intro checkpoint hCurrent
          refine ⟨?_, fun hRevision => ?_, fun last hLast => ?_⟩
          · by_contra hStaleRevision
            exact hStale ⟨checkpoint, hCurrent, Or.inr (not_le.1 hStaleRevision)⟩
          · by_contra hDiffers
            exact hIdentity ⟨checkpoint, hCurrent, hRevision.symm, hDiffers⟩
          · refine lt_of_le_of_ne ?_ ?_
            · by_contra hLater
              exact hBack ⟨checkpoint, hCurrent, last, hLast, not_le.1 hLater⟩
            · rintro rfl
              rw [Option.mem_def.1 hCurrent] at hNone
              simp [Option.filter, Option.mem_def.1 hLast] at hNone
        · exact fun armed hArmed => arm_of_armAfter hArmed
        · unfold AuthorityRecoveryRebaseTransition.allowEpisodeAdvance
          show (if armAfter current identity close status = none then
            some "RECOVERY_REBASE_REQUIRED" else none) = none ↔
              armAfter current identity close status ≠ none
          split_ifs with hArmed
          · simp [hArmed]
          · simp [hArmed]

/-! ### One call -/

/-- **An accepted close** is a repetition that changes nothing, or a new close at the barrier; a signal
is a new triggered close behind an open barrier that was not blocked, and a triggered close behind an
open barrier blocks. -/
theorem observed_of_advance {state : RecoveryState} {observation : RecoveryObservation}
    {transition : RecoveryBoundExposureEpisodeTransition}
    (h : advanceRecoveryBoundExposureEpisode state observation = .ok transition) :
    observation.identity.firstEligibleCloseTimeMs ≤ observation.observedAtMs ∧
      observation.detectorStatus ≠ .invalid ∧
      ((state.recovery = some transition.recoveryCheckpoint ∧
          state.after transition = state ∧ transition.signalEligible = false ∧
          transition.recoveryCheckpoint.toRecoveryIdentity = observation.identity ∧
          transition.recoveryCheckpoint.lastObservedCloseTimeMs = some observation.observedAtMs ∧
          transition.recoveryCheckpoint.lastDetectorStatus = some observation.detectorStatus) ∨
        (NewClose state.recovery observation.identity observation.observedAtMs
            observation.detectorStatus transition.recoveryCheckpoint ∧
          (transition.recoveryCheckpoint.armedAtCloseTimeMs ≠ none →
            observation.detectorStatus = .triggered → Blocked (state.after transition)) ∧
          (transition.signalEligible = true →
            transition.recoveryCheckpoint.armedAtCloseTimeMs ≠ none ∧
              observation.detectorStatus = .triggered ∧ ¬ Blocked state))) := by
  unfold advanceRecoveryBoundExposureEpisode at h
  simp only [demand_bind_eq_ok, refuse_bind_eq_ok] at h
  obtain ⟨spec, -, -, -, hInput, h⟩ := h
  rw [bind_eq_ok] at h
  obtain ⟨-, -, h⟩ := h
  rw [bind_eq_ok] at h
  obtain ⟨binding, hBinding, h⟩ := h
  rw [bind_eq_ok] at h
  obtain ⟨recovery, hRecovery, h⟩ := h
  obtain ⟨hFuture, hClose⟩ := newClose_of_advance hRecovery
  refine ⟨hFuture, fun hInvalid => hInput (Or.inl hInvalid), ?_⟩
  split_ifs at h with hAllowed
  · -- Behind the open barrier the close is new.
    obtain ⟨hKept, hTriggered⟩ := recoveryCheckpoint_of_advance h
    obtain ⟨-, hSuppressed, -⟩ | ⟨hNew, hArmed⟩ := hClose
    · exact absurd hAllowed hSuppressed
    · right
      rw [hKept]
      refine ⟨hNew, fun _ hStatus => ?_, fun hSignal => ⟨hArmed.1 hAllowed, hTriggered hSignal, ?_⟩⟩
      · exact (blocked_of_advance h hStatus (binding_of_checkComparison hBinding)).1
      · intro hBlocked
        have hNone := (blocked_of_advance h (hTriggered hSignal)
          (binding_of_checkComparison hBinding)).2 hBlocked
        exact Bool.false_ne_true (hNone.symm.trans hSignal)
  · rw [RecoveryBoundExposureEpisodeTransition.ofFields, certify_eq_ok] at h
    obtain ⟨valid, rfl⟩ := h
    obtain ⟨hSame, -, hIdentity, hLast, hStatus⟩ | ⟨hNew, hArmed⟩ := hClose
    · left
      refine ⟨hSame, ?_, rfl, hIdentity, hLast, hStatus⟩
      rw [RecoveryState.after, ← hSame]
    · right
      exact ⟨hNew, fun hArm => absurd (hArmed.2 hArm) hAllowed,
        fun hSignal => absurd hSignal Bool.false_ne_true⟩

/-- **An accepted beginning** repeats the identity of the checkpoint and keeps it, or opens the barrier
of a later revision, which has observed nothing and is past every consumed close. -/
theorem begun_of_begin {current : Option AuthorityRecoveryCheckpoint} {key : String}
    {identity : RecoveryIdentity} {latestConsumed : Option ℤ}
    {checkpoint : AuthorityRecoveryCheckpoint}
    (h : beginAuthorityRecoveryRebase current key identity latestConsumed = .ok checkpoint) :
    checkpoint.toRecoveryIdentity = identity ∧ (current = some checkpoint ∨
      (checkpoint.armedAtCloseTimeMs = none ∧ checkpoint.lastDetectorStatus = none ∧
        ∀ old ∈ current, old.recoveryRevision < checkpoint.recoveryRevision ∧
          ∀ last ∈ old.lastObservedCloseTimeMs,
            ∃ close ∈ checkpoint.lastObservedCloseTimeMs, last ≤ close)) := by
  unfold beginAuthorityRecoveryRebase at h
  simp only [refuse_bind_eq_ok] at h
  obtain ⟨-, hStale, -, h⟩ := h
  split at h
  · next kept hFound =>
      rw [refuse_bind_eq_ok, pure_eq_ok] at h
      obtain ⟨hIdentity, rfl⟩ := h
      rw [Option.filter_eq_some_iff] at hFound
      exact ⟨not_not.1 hIdentity, Or.inl hFound.1⟩
  · next hNone =>
      rw [AuthorityRecoveryCheckpoint.ofFields, certify_eq_ok] at h
      obtain ⟨valid, rfl⟩ := h
      refine ⟨rfl, Or.inr ⟨rfl, rfl, fun old hOld => ⟨?_, fun last hLast => ?_⟩⟩⟩
      · refine lt_of_le_of_ne ?_ ?_
        · by_contra hLater
          exact hStale ⟨old, hOld, Or.inr (not_le.1 hLater)⟩
        · intro hSame
          rw [Option.mem_def.1 hOld] at hNone
          simp [Option.filter, show old.recoveryRevision = identity.recoveryRevision from hSame]
            at hNone
      · show ∃ close ∈ latest latestConsumed (current.bind fun checkpoint =>
          checkpoint.lastObservedCloseTimeMs), last ≤ close
        rw [Option.mem_def.1 hOld, Option.bind_some, Option.mem_def.1 hLast]
        cases latestConsumed with
        | none => exact ⟨last, rfl, le_rfl⟩
        | some consumed => exact ⟨max consumed last, rfl, le_max_right _ _⟩

end TradingKernel.Recovery
