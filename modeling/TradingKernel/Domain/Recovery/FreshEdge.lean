/-
**After an authority recovery only a fresh edge signals.**

Along every chain of accepted calls the recovery checkpoint remembers what was observed under its
revision (`Remembers`): its arm is a close that was not triggered, its last status is that of the last
close, and after a triggered close behind the open barrier the state is blocked. A signal needs a
triggered close behind an open barrier that is not blocked, so the last close before it was not
triggered (`fresh_edge_after_recovery`).
-/

import TradingKernel.Domain.Recovery.Steps

namespace TradingKernel.Recovery

open Guard Selection

/-! ### Observations -/

theorem observations_begin (calls : List RecoveryCall) (key : String)
    (identity : RecoveryIdentity) (latestConsumed : Option ℤ) :
    observations (calls ++ [.begin key identity latestConsumed]) = observations calls := by
  rw [observations, List.filterMap_append]
  exact List.append_nil _

theorem observations_advance (calls : List RecoveryCall) (observation : RecoveryObservation)
    (signal : Bool) :
    observations (calls ++ [.advance observation signal]) = observations calls ++ [observation] := by
  rw [observations, List.filterMap_append]
  rfl

theorem mem_observedUnder {revision : ℤ} {seen : List RecoveryObservation}
    {observation : RecoveryObservation} :
    observation ∈ observedUnder revision seen ↔
      observation ∈ seen ∧ observation.identity.recoveryRevision = revision := by
  rw [observedUnder, List.mem_filter, decide_eq_true_eq]

theorem observedUnder_snoc {seen : List RecoveryObservation} {observation : RecoveryObservation}
    {revision : ℤ} (h : observation.identity.recoveryRevision = revision) :
    observedUnder revision (seen ++ [observation])
      = observedUnder revision seen ++ [observation] := by
  rw [observedUnder, List.filter_append, observedUnder]
  simp [h]

/-! ### What the checkpoint remembers -/

/-- The memory of what was seen in the state it led to. -/
structure Remembers (seen : List RecoveryObservation) (state : RecoveryState) : Prop where
  eligible : ∀ observation ∈ seen,
    observation.identity.firstEligibleCloseTimeMs ≤ observation.observedAtMs ∧
      observation.detectorStatus ≠ .invalid
  unstarted : state.recovery = none → seen = []
  earlier : ∀ checkpoint ∈ state.recovery, ∀ observation ∈ seen,
    observation.identity.recoveryRevision ≤ checkpoint.recoveryRevision ∧
      ∃ last ∈ checkpoint.lastObservedCloseTimeMs, observation.observedAtMs ≤ last
  identity : ∀ checkpoint ∈ state.recovery,
    ∀ observation ∈ observedUnder checkpoint.recoveryRevision seen,
      observation.identity = checkpoint.toRecoveryIdentity
  arm : ∀ checkpoint ∈ state.recovery, ∀ armed ∈ checkpoint.armedAtCloseTimeMs,
    ∃ observation ∈ observedUnder checkpoint.recoveryRevision seen,
      observation.detectorStatus = .notTriggered ∧ observation.observedAtMs = armed
  lastStatus : ∀ checkpoint ∈ state.recovery,
    (observedUnder checkpoint.recoveryRevision seen).getLast?.map
      (fun observation => observation.detectorStatus) = checkpoint.lastDetectorStatus
  blocked : ∀ checkpoint ∈ state.recovery, checkpoint.armedAtCloseTimeMs ≠ none →
    checkpoint.lastDetectorStatus = some .triggered → Blocked state

theorem remembers_start (episode : Option ExposureEpisodeState)
    (comparison : Option ComparisonBindingEpisodeCheckpoint) :
    Remembers [] ⟨none, comparison, episode⟩ where
  eligible := fun _ h => absurd h List.not_mem_nil
  unstarted := fun _ => rfl
  earlier := fun _ h => nomatch h
  identity := fun _ h => nomatch h
  arm := fun _ h => nomatch h
  lastStatus := fun _ h => nomatch h
  blocked := fun _ h => nomatch h

/-- **Opening a barrier keeps the memory**: a new revision has observed nothing. -/
theorem Remembers.begin {seen : List RecoveryObservation} {state : RecoveryState} {key : String}
    {identity : RecoveryIdentity} {latestConsumed : Option ℤ}
    {checkpoint : AuthorityRecoveryCheckpoint} (h : Remembers seen state)
    (hBegin : beginAuthorityRecoveryRebase state.recovery key identity latestConsumed
      = .ok checkpoint) :
    Remembers seen { state with recovery := some checkpoint } := by
  obtain ⟨-, hSame | ⟨hArm, hStatus, hLater⟩⟩ := begun_of_begin hBegin
  · have hState : { state with recovery := some checkpoint } = state := by rw [← hSame]
    rw [hState]
    exact h
  · have hEarlier : ∀ observation ∈ seen,
        observation.identity.recoveryRevision < checkpoint.recoveryRevision ∧
          ∃ close ∈ checkpoint.lastObservedCloseTimeMs, observation.observedAtMs ≤ close := by
      intro observation hSeen
      cases hOld : state.recovery with
      | none =>
          rw [h.unstarted hOld] at hSeen
          exact absurd hSeen List.not_mem_nil
      | some old =>
          obtain ⟨hRevision, hCloses⟩ := hLater old hOld
          obtain ⟨hBefore, last, hLast, hClose⟩ := h.earlier old hOld observation hSeen
          obtain ⟨close, hMem, hle⟩ := hCloses last hLast
          exact ⟨hBefore.trans_lt hRevision, close, hMem, hClose.trans hle⟩
    have hNone : observedUnder checkpoint.recoveryRevision seen = [] := by
      rw [List.eq_nil_iff_forall_not_mem]
      intro observation hMem
      obtain ⟨hSeen, hRevision⟩ := mem_observedUnder.1 hMem
      exact absurd hRevision (hEarlier observation hSeen).1.ne
    refine ⟨h.eligible, (fun hUnstarted => nomatch hUnstarted), ?_, ?_, ?_, ?_, ?_⟩
    · rintro _ ⟨⟩ observation hSeen
      exact ⟨(hEarlier observation hSeen).1.le, (hEarlier observation hSeen).2⟩
    · rintro _ ⟨⟩ observation hMem
      rw [hNone] at hMem
      exact absurd hMem List.not_mem_nil
    · rintro _ ⟨⟩ armed hArmed
      rw [hArm] at hArmed
      exact nomatch hArmed
    · rintro _ ⟨⟩
      rw [hNone, hStatus]
      rfl
    · rintro _ ⟨⟩ hArmed
      exact absurd hArm hArmed

/-- A new close is later than everything seen, and agrees with its revision. -/
theorem Remembers.before_newClose {seen : List RecoveryObservation} {state : RecoveryState}
    {identity : RecoveryIdentity} {close : ℤ} {status : DetectorStatus}
    {next : AuthorityRecoveryCheckpoint} (h : Remembers seen state)
    (hNew : NewClose state.recovery identity close status next)
    {other : RecoveryObservation} (hOther : other ∈ seen) :
    other.identity.recoveryRevision ≤ identity.recoveryRevision ∧ other.observedAtMs < close ∧
      (other.identity.recoveryRevision = identity.recoveryRevision → other.identity = identity) := by
  cases hRecovery : state.recovery with
  | none =>
      rw [h.unstarted hRecovery] at hOther
      exact absurd hOther List.not_mem_nil
  | some checkpoint =>
      obtain ⟨hBefore, last, hLast, hClose⟩ := h.earlier checkpoint hRecovery other hOther
      obtain ⟨hRevision, hIdentity, hLater⟩ := hNew.advances checkpoint hRecovery
      refine ⟨hBefore.trans hRevision, hClose.trans_lt (hLater last hLast), fun hSame => ?_⟩
      have hCheckpoint : checkpoint.recoveryRevision = identity.recoveryRevision :=
        le_antisymm hRevision (hSame ▸ hBefore)
      rw [h.identity checkpoint hRecovery other
        (mem_observedUnder.2 ⟨hOther, hSame.trans hCheckpoint.symm⟩), hIdentity hCheckpoint]

/-- **An observation is remembered.** -/
theorem Remembers.advance {seen : List RecoveryObservation} {state : RecoveryState}
    {observation : RecoveryObservation} {transition : RecoveryBoundExposureEpisodeTransition}
    (h : Remembers seen state)
    (hAdvance : advanceRecoveryBoundExposureEpisode state observation = .ok transition) :
    Remembers (seen ++ [observation]) (state.after transition) := by
  obtain ⟨hFuture, hStatus, hClose⟩ := observed_of_advance hAdvance
  have hEligible : ∀ other ∈ seen ++ [observation],
      other.identity.firstEligibleCloseTimeMs ≤ other.observedAtMs ∧
        other.detectorStatus ≠ .invalid := by
    intro other hMem
    rcases List.mem_append.1 hMem with hSeen | hNew
    · exact h.eligible other hSeen
    · rw [List.mem_singleton.1 hNew]
      exact ⟨hFuture, hStatus⟩
  rcases hClose with ⟨hSame, hState, -, hIdentity, hLast, hLastStatus⟩ | ⟨hNew, hBlocked, -⟩
  · -- A repetition: the observation is the last one once more.
    rw [hState]
    have hCheckpoint : ∀ checkpoint ∈ state.recovery, checkpoint = transition.recoveryCheckpoint := by
      intro checkpoint hMem
      rw [hSame, Option.mem_some_iff] at hMem
      exact hMem.symm
    have hRevision : observation.identity.recoveryRevision
        = transition.recoveryCheckpoint.recoveryRevision := by rw [← hIdentity]
    refine ⟨hEligible, ?_, ?_, ?_, ?_, ?_, h.blocked⟩
    · intro hUnstarted
      rw [hSame] at hUnstarted
      exact nomatch hUnstarted
    · intro checkpoint hMem other hOther
      rcases List.mem_append.1 hOther with hSeen | hNew
      · exact h.earlier checkpoint hMem other hSeen
      · rw [List.mem_singleton.1 hNew, hCheckpoint checkpoint hMem]
        exact ⟨hRevision.le, observation.observedAtMs, hLast, le_rfl⟩
    · intro checkpoint hMem other hOther
      rw [hCheckpoint checkpoint hMem, observedUnder_snoc hRevision] at hOther
      rw [hCheckpoint checkpoint hMem]
      rcases List.mem_append.1 hOther with hSeen | hNew
      · exact h.identity _ hSame other hSeen
      · rw [List.mem_singleton.1 hNew, hIdentity]
    · intro checkpoint hMem armed hArmed
      obtain ⟨other, hOther, hFacts⟩ := h.arm checkpoint hMem armed hArmed
      rw [hCheckpoint checkpoint hMem] at hOther ⊢
      rw [observedUnder_snoc hRevision]
      exact ⟨other, List.mem_append_left _ hOther, hFacts⟩
    · intro checkpoint hMem
      rw [hCheckpoint checkpoint hMem, observedUnder_snoc hRevision, List.getLast?_concat,
        Option.map_some, hLastStatus]
  · -- A new close: it is later than everything seen, and the last one of its revision.
    have hRevision : observation.identity.recoveryRevision
        = transition.recoveryCheckpoint.recoveryRevision := by rw [← hNew.identity_eq]
    refine ⟨hEligible, (fun hUnstarted => nomatch hUnstarted), ?_, ?_, ?_, ?_, ?_⟩
    · rintro _ ⟨⟩ other hOther
      rcases List.mem_append.1 hOther with hSeen | hLast
      · obtain ⟨hBefore, hClose, -⟩ := h.before_newClose hNew hSeen
        exact ⟨hRevision ▸ hBefore, observation.observedAtMs, hNew.observed, hClose.le⟩
      · rw [List.mem_singleton.1 hLast]
        exact ⟨hRevision.le, observation.observedAtMs, hNew.observed, le_rfl⟩
    · rintro _ ⟨⟩ other hOther
      rw [hNew.identity_eq]
      obtain ⟨hMem, hUnder⟩ := mem_observedUnder.1 hOther
      rcases List.mem_append.1 hMem with hSeen | hLast
      · exact (h.before_newClose hNew hSeen).2.2 (hUnder.trans hRevision.symm)
      · rw [List.mem_singleton.1 hLast]
    · rintro _ ⟨⟩ armed hArmed
      rw [observedUnder_snoc hRevision]
      rcases hNew.arm armed hArmed with ⟨rfl, hNot⟩ | ⟨old, hOld, hSameRevision, hOldArm⟩
      · exact ⟨observation, List.mem_append_right _ (List.mem_singleton_self _), hNot, rfl⟩
      · obtain ⟨other, hOther, hFacts⟩ := h.arm old hOld armed hOldArm
        rw [hSameRevision, hRevision] at hOther
        exact ⟨other, List.mem_append_left _ hOther, hFacts⟩
    · rintro _ ⟨⟩
      rw [observedUnder_snoc hRevision, List.getLast?_concat, Option.map_some, hNew.status_eq]
    · rintro _ ⟨⟩ hArmed hTriggered
      rw [hNew.status_eq, Option.some_inj] at hTriggered
      exact hBlocked hArmed hTriggered

/-- **What a chain saw is remembered.** -/
theorem remembers_of_run {episode : Option ExposureEpisodeState}
    {comparison : Option ComparisonBindingEpisodeCheckpoint} {calls : List RecoveryCall}
    {state : RecoveryState} (run : RecoveryRun episode comparison calls state) :
    Remembers (observations calls) state := by
  refine run.history_invariant (fun past state => Remembers (observations past) state)
    (remembers_start episode comparison) ?_
  intro past call before after _ hBefore hStep
  cases hStep with
  | begin hBegin =>
      rw [observations_begin]
      exact hBefore.begin hBegin
  | advance hAdvance =>
      rw [observations_advance]
      exact hBefore.advance hAdvance

/-! ### Signals -/

/-- **A signal has a fresh edge behind it.** -/
theorem Remembers.fresh_edge {seen : List RecoveryObservation} {state : RecoveryState}
    {observation : RecoveryObservation} {transition : RecoveryBoundExposureEpisodeTransition}
    (h : Remembers seen state)
    (hAdvance : advanceRecoveryBoundExposureEpisode state observation = .ok transition)
    (hSignal : transition.signalEligible = true) :
    (∃ arm ∈ observedUnder observation.identity.recoveryRevision seen,
      arm.detectorStatus = .notTriggered ∧
        observation.identity.firstEligibleCloseTimeMs ≤ arm.observedAtMs ∧
        arm.observedAtMs < observation.observedAtMs) ∧
    (∃ last, (observedUnder observation.identity.recoveryRevision seen).getLast? = some last ∧
      last.detectorStatus = .notTriggered ∧ last.observedAtMs < observation.observedAtMs) ∧
    ∀ other ∈ seen, other.observedAtMs < observation.observedAtMs := by
  obtain ⟨-, -, ⟨-, -, hNone, -⟩ | ⟨hNew, -, hFacts⟩⟩ := observed_of_advance hAdvance
  · exact absurd hSignal (by rw [hNone]; decide)
  obtain ⟨hArmed, hTriggered, hOpen⟩ := hFacts hSignal
  obtain ⟨armed, hArm⟩ := Option.ne_none_iff_exists'.1 hArmed
  -- The close is triggered, so the arm is the one that the checkpoint had under the revision.
  rcases hNew.arm armed hArm with ⟨-, hNot⟩ | ⟨old, hOld, hRevision, hOldArm⟩
  · rw [hTriggered] at hNot
    exact nomatch hNot
  obtain ⟨arm, hMem, hNot, rfl⟩ := h.arm old hOld armed hOldArm
  rw [hRevision] at hMem
  obtain ⟨hSeen, hUnder⟩ := mem_observedUnder.1 hMem
  obtain ⟨-, hBefore, hIdentity⟩ := h.before_newClose hNew hSeen
  refine ⟨⟨arm, hMem, hNot, ?_, hBefore⟩, ?_, fun other hOther =>
    (h.before_newClose hNew hOther).2.1⟩
  · rw [← hIdentity hUnder]
    exact (h.eligible arm hSeen).1
  · obtain ⟨last, hLast⟩ : ∃ last, (observedUnder observation.identity.recoveryRevision
        seen).getLast? = some last :=
      Option.isSome_iff_exists.1 (by
        rw [List.getLast?_isSome]
        exact List.ne_nil_of_mem hMem)
    have hLastSeen : last ∈ seen :=
      (mem_observedUnder.1 (List.mem_of_getLast? hLast)).1
    refine ⟨last, hLast, ?_, (h.before_newClose hNew hLastSeen).2.1⟩
    have hStatus := h.lastStatus old hOld
    rw [hRevision, hLast, Option.map_some] at hStatus
    cases hDetector : last.detectorStatus with
    | notTriggered => rfl
    | invalid => exact absurd hDetector (h.eligible last hLastSeen).2
    | triggered =>
        -- A triggered close behind the open barrier would have blocked the state.
        rw [hDetector] at hStatus
        exact absurd (h.blocked old hOld (by rw [hOldArm]; exact Option.some_ne_none _)
          hStatus.symm) hOpen

/-! ### The observed cursor -/

/-- The last close that the recovery checkpoint has observed. -/
def RecoveryState.lastObserved (state : RecoveryState) : Option ℤ :=
  state.recovery.bind fun checkpoint => checkpoint.lastObservedCloseTimeMs

/-- No observed close of the one state is after the last one of the other. -/
def NotBehind (before after : RecoveryState) : Prop :=
  ∀ last ∈ before.lastObserved, ∃ final ∈ after.lastObserved, last ≤ final

theorem notBehind_of_step {before after : RecoveryState} {call : RecoveryCall}
    (h : Recovers before call after) : NotBehind before after := by
  intro last hLast
  obtain ⟨checkpoint, hCheckpoint, hClose⟩ := Option.bind_eq_some_iff.1 hLast
  cases h with
  | begin hBegin =>
      obtain ⟨-, hSame | ⟨-, -, hLater⟩⟩ := begun_of_begin hBegin
      · rw [hSame, Option.some_inj] at hCheckpoint
        subst hCheckpoint
        exact ⟨last, hClose, le_rfl⟩
      · exact (hLater checkpoint hCheckpoint).2 last hClose
  | @advance observation transition hAdvance =>
      obtain ⟨-, -, ⟨-, hSame, -⟩ | ⟨hNew, -⟩⟩ := observed_of_advance hAdvance
      · rw [hSame]
        exact ⟨last, hLast, le_rfl⟩
      · exact ⟨observation.observedAtMs, hNew.observed,
          ((hNew.advances checkpoint hCheckpoint).2.2 last hClose).le⟩

/-- **The cursor never moves back**, across recoveries and revisions. -/
theorem notBehind_of_run {before after : RecoveryState} {calls : List RecoveryCall}
    (run : Run Recovers before calls after) : NotBehind before after := by
  refine run.invariant (NotBehind before) (fun last hLast => ⟨last, hLast, le_rfl⟩) ?_
  intro call middle next hBefore hStep last hLast
  obtain ⟨close, hClose, hle⟩ := hBefore last hLast
  obtain ⟨final, hFinal, hle'⟩ := notBehind_of_step hStep close hClose
  exact ⟨final, hFinal, hle.trans hle'⟩

/-! ### The chain as a whole -/

/-- An accepted call of a chain, with the state before it. -/
theorem advance_of_run {episode : Option ExposureEpisodeState}
    {comparison : Option ComparisonBindingEpisodeCheckpoint} {earlier later : List RecoveryCall}
    {observation : RecoveryObservation} {signal : Bool} {state : RecoveryState}
    (run : RecoveryRun episode comparison (earlier ++ .advance observation signal :: later) state) :
    ∃ before transition, Remembers (observations earlier) before ∧
      advanceRecoveryBoundExposureEpisode before observation = .ok transition ∧
      transition.signalEligible = signal := by
  obtain ⟨before, hEarlier, hRest⟩ := Run.append_iff.1 run
  obtain ⟨after, hStep, -⟩ := Run.cons_iff.1 hRest
  cases hStep with
  | advance hAdvance => exact ⟨before, _, remembers_of_run hEarlier, hAdvance, rfl⟩

/-- **After an authority recovery only a fresh edge signals.** In every chain of accepted calls, from
any episode and any comparison checkpoint:

* a signal has, under its own revision, a close at or after the first eligible one and before it that
  was not triggered, and the last close under that revision before it was not triggered;
* signals are at later and later closes;
* the last observed close never moves back;
* beginning again with the identity of the checkpoint keeps it as it is. -/
theorem fresh_edge_after_recovery {episode : Option ExposureEpisodeState}
    {comparison : Option ComparisonBindingEpisodeCheckpoint} {calls : List RecoveryCall}
    {state : RecoveryState} (run : RecoveryRun episode comparison calls state) :
    (∀ earlier observation later, calls = earlier ++ .advance observation true :: later →
      (∃ arm ∈ observedUnder observation.identity.recoveryRevision (observations earlier),
        arm.detectorStatus = .notTriggered ∧
          observation.identity.firstEligibleCloseTimeMs ≤ arm.observedAtMs ∧
          arm.observedAtMs < observation.observedAtMs) ∧
      ∃ last, (observedUnder observation.identity.recoveryRevision
          (observations earlier)).getLast? = some last ∧
        last.detectorStatus = .notTriggered ∧ last.observedAtMs < observation.observedAtMs) ∧
    (∀ earlier first middle second later,
      calls = earlier ++ .advance first true :: middle ++ .advance second true :: later →
      first.observedAtMs < second.observedAtMs) ∧
    (∀ earlier between later, RecoveryRun episode comparison earlier between →
      Run Recovers between later state → NotBehind between state) ∧
    (∀ checkpoint ∈ state.recovery, ∀ latestConsumed next,
      beginAuthorityRecoveryRebase state.recovery checkpoint.episodeDomainKey
        checkpoint.toRecoveryIdentity latestConsumed = .ok next → next = checkpoint) := by
  refine ⟨?_, ?_, ?_, ?_⟩
  · rintro earlier observation later rfl
    obtain ⟨before, transition, hRemembers, hAdvance, hSignal⟩ := advance_of_run run
    obtain ⟨hArm, hLast, -⟩ := hRemembers.fresh_edge hAdvance hSignal
    exact ⟨hArm, hLast⟩
  · rintro earlier first middle second later rfl
    obtain ⟨before, transition, hRemembers, hAdvance, hSignal⟩ := advance_of_run run
    refine (hRemembers.fresh_edge hAdvance hSignal).2.2 first ?_
    refine List.mem_filterMap.2 ⟨.advance first true, ?_, rfl⟩
    simp
  · exact fun earlier between later _ hLater => notBehind_of_run hLater
  · intro checkpoint hCheckpoint latestConsumed next hBegin
    obtain ⟨hIdentity, hSame | ⟨-, -, hLater⟩⟩ := begun_of_begin hBegin
    · rw [Option.mem_def.1 hCheckpoint, Option.some_inj] at hSame
      exact hSame.symm
    · have hRevision : next.recoveryRevision = checkpoint.recoveryRevision := by rw [hIdentity]
      exact absurd hRevision (hLater checkpoint hCheckpoint).1.ne'

/-! ### A chain with a signal -/

/-- The next state of a call, where it is accepted with the given signal. -/
def nextState (state : RecoveryState) : RecoveryCall → Option RecoveryState
  | .begin key identity latestConsumed =>
      (beginAuthorityRecoveryRebase state.recovery key identity latestConsumed).toOption.map
        fun checkpoint => { state with recovery := some checkpoint }
  | .advance observation signal =>
      (advanceRecoveryBoundExposureEpisode state observation).toOption.bind fun transition =>
        if transition.signalEligible = signal then some (state.after transition) else none

theorem recovers_of_nextState {state next : RecoveryState} {call : RecoveryCall}
    (h : nextState state call = some next) : Recovers state call next := by
  cases call with
  | begin key identity latestConsumed =>
      obtain ⟨checkpoint, hBegin, rfl⟩ := Option.map_eq_some_iff.1 h
      exact .begin (toOption_eq_some.1 hBegin)
  | advance observation signal =>
      obtain ⟨transition, hAdvance, hNext⟩ := Option.bind_eq_some_iff.1 h
      split_ifs at hNext with hSignal
      subst hSignal
      rw [Option.some_inj] at hNext
      subst hNext
      exact .advance (toOption_eq_some.1 hAdvance)

/-- The contract of the CPM event. -/
def cpmContract : RegisteredStrategyContract where
  strategyGroupId := .ofSolid "CPM-RO-001" (Text.solid_of_all (by decide)) (by decide)
  eventSpecId := .ofSolid "event_spec:CPM-RO-001:CPM-LONG:v3" (Text.solid_of_all (by decide))
    (by decide)
  positionSide := .long
  episodePolicy := .risingEdge

/-- A recovery between the fifth and the sixth hour. -/
def sampleRecovery : RecoveryIdentity := ⟨"recovery:1", 1, 5 * hourMs + 1000, 6 * hourMs⟩

/-- A close of the sample recovery. -/
def sampleClose (hour : ℤ) (status : DetectorStatus) : RecoveryObservation where
  detectorStatus := status
  occurredAtMs := if status = .triggered then some (hour * hourMs) else none
  observedAtMs := hour * hourMs
  exchangeInstrumentId := "A"
  contract := cpmContract
  identity := sampleRecovery
  selectionMode := .staticBaseline
  universeVersionId := "universe:1"
  comparisonBinding := none

/-- A close that is not triggered arms the barrier, and the next triggered close signals. -/
def sampleCalls : List RecoveryCall :=
  [.advance (sampleClose 6 .notTriggered) false, .advance (sampleClose 7 .triggered) true]

theorem exists_sampleRun : ∃ state, RecoveryRun none none sampleCalls state := by
  have hEvaluates : (Run.evaluate nextState ⟨none, none, none⟩ sampleCalls).isSome = true := by
    decide +kernel
  obtain ⟨state, hState⟩ := Option.isSome_iff_exists.1 hEvaluates
  exact ⟨state, (Run.of_evaluate hState).mono recovers_of_nextState⟩

theorem fresh_edge_after_recovery_of_sample : ∃ state,
    RecoveryRun none none sampleCalls state ∧
      ∃ arm ∈ observedUnder 1 (observations (sampleCalls.take 1)),
        arm.detectorStatus = .notTriggered ∧ arm.observedAtMs < 7 * hourMs := by
  obtain ⟨state, run⟩ := exists_sampleRun
  obtain ⟨⟨arm, hArm, hNot, -, hBefore⟩, -⟩ := (fresh_edge_after_recovery run).1
    (sampleCalls.take 1) (sampleClose 7 .triggered) [] rfl
  exact ⟨state, run, arm, hArm, hNot, hBefore⟩

end TradingKernel.Recovery
