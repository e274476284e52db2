/-
**The comparison barrier: an edge counts under one binding.**

`ComparisonStep` is all that an accepted close does to the checkpoint and the episode: it repeats the
latest close, or it is suppressed, arms the binding, or is tracked under the binding that is armed. The
checkpoint moves on every later close and the episode on some of them, so along a run the checkpoint
remembers the latest close with its verdict and binding, and behind an armed checkpoint the episode
stands at that same close (`Recalls`). A signal needs both, so the last close before it was not
triggered under the binding of the signal (`signals_are_edges_under_one_binding`).
-/

import TradingKernel.Domain.Recovery.RisingEdge

namespace TradingKernel.Recovery

open Text CanonicalJson Guard Sha256

/-! ### One close -/

/-- The checkpoint is the one of a close that was compared under a binding. -/
structure StandsFor (checkpoint : ComparisonBindingEpisodeCheckpoint) (observation : Observation)
    (binding : Binding) : Prop where
  digest : checkpoint.comparisonBindingDigest = binding.digest
  revision : checkpoint.comparisonTransitionRevision = binding.revision
  cursor : checkpoint.lastObservedAtMs = observation.observedAtMs
  status : checkpoint.lastDetectorStatus = observation.detectorStatus

/-- What an accepted close does to the checkpoint and the episode. -/
inductive ComparisonStep (contract : RegisteredStrategyContract)
    (episode : Option ExposureEpisodeState) (current : Option ComparisonBindingEpisodeCheckpoint)
    (observation : Observation) (binding : Binding) :
    ComparisonBoundExposureEpisodeTransition → Prop
  | repeated {checkpoint : ComparisonBindingEpisodeCheckpoint} (found : current = some checkpoint)
      (waits : checkpoint.state = .rebaseRequired) :
      ComparisonStep contract episode current observation binding (suppressed checkpoint)
  | replayed {checkpoint : ComparisonBindingEpisodeCheckpoint} {replay : ExposureEpisodeTransition}
      (found : current = some checkpoint) (armed : checkpoint.state = .armedUnderBinding)
      (accepted : advanceExposureEpisode contract episode observation = .ok replay)
      (unmoved : episode = some replay.current) :
      ComparisonStep contract episode current observation binding
        ⟨checkpoint, some replay, false, none⟩
  | suppressed {checkpoint : ComparisonBindingEpisodeCheckpoint}
      (later : ∀ held ∈ current, held.lastObservedAtMs < observation.observedAtMs)
      (triggered : observation.detectorStatus = .triggered)
      (waits : checkpoint.state = .rebaseRequired)
      (unarmed : ∀ held ∈ current, held.comparisonBindingDigest = binding.digest →
        held.comparisonTransitionRevision = binding.revision → held.state = .rebaseRequired)
      (keyed : checkpoint.episodeDomainKey.text = strip (buildEpisodeDomainKey contract.eventSpecId
        observation.exchangeInstrumentId contract.positionSide)) :
      ComparisonStep contract episode current observation binding (suppressed checkpoint)
  | armed {checkpoint : ComparisonBindingEpisodeCheckpoint} {advanced : ExposureEpisodeTransition}
      (later : ∀ held ∈ current, held.lastObservedAtMs < observation.observedAtMs)
      (quiet : observation.detectorStatus = .notTriggered)
      (accepted : advanceExposureEpisode contract episode observation = .ok advanced)
      (arms : checkpoint.state = .armedUnderBinding)
      (arm : checkpoint.armedAtMs = some observation.observedAtMs)
      (key : checkpoint.episodeDomainKey = advanced.current.episodeDomainKey) :
      ComparisonStep contract episode current observation binding
        ⟨checkpoint, some advanced, false, none⟩
  | tracked {held checkpoint : ComparisonBindingEpisodeCheckpoint}
      {advanced : ExposureEpisodeTransition} {signal : Bool}
      (found : current = some held)
      (digest : held.comparisonBindingDigest = binding.digest)
      (revision : held.comparisonTransitionRevision = binding.revision)
      (armed : held.state = .armedUnderBinding)
      (later : held.lastObservedAtMs < observation.observedAtMs)
      (accepted : advanceExposureEpisode contract episode observation = .ok advanced)
      (arms : checkpoint.state = .armedUnderBinding)
      (arm : checkpoint.armedAtMs = held.armedAtMs)
      (keyed : checkpoint.episodeDomainKey.text = strip (buildEpisodeDomainKey contract.eventSpecId
        observation.exchangeInstrumentId contract.positionSide))
      (edge : signal = true ↔
        observation.detectorStatus = .triggered ∧ advanced.createdNewEpisode = true) :
      ComparisonStep contract episode current observation binding
        ⟨checkpoint, some advanced, signal, none⟩

section Step

variable {contract : RegisteredStrategyContract} {key : NonBlankText}
  {episode : Option ExposureEpisodeState} {current : Option ComparisonBindingEpisodeCheckpoint}
  {checkpoint : ComparisonBindingEpisodeCheckpoint} {observation : Observation} {binding : Binding}
  {transition : ComparisonBoundExposureEpisodeTransition}

theorem armed_of_not_waiting (waits : checkpoint.state ≠ .rebaseRequired) :
    checkpoint.state = .armedUnderBinding := by
  cases state : checkpoint.state with
  | rebaseRequired => exact absurd state waits
  | armedUnderBinding => rfl

/-- A close that arms the binding. -/
theorem ComparisonStep.of_arm
    (accepted : armUnderComparisonBinding contract episode current observation binding = .ok transition)
    (later : ∀ held ∈ current, held.lastObservedAtMs < observation.observedAtMs) :
    StandsFor transition.checkpoint observation binding ∧
      ComparisonStep contract episode current observation binding transition := by
  unfold armUnderComparisonBinding at accepted
  rw [refuse_bind_eq_ok, bind_eq_ok] at accepted
  obtain ⟨quiet, advanced, moved, accepted⟩ := accepted
  obtain ⟨checkpoint, built, accepted⟩ := bind_eq_ok.mp accepted
  obtain rfl := pure_eq_ok.mp accepted
  obtain ⟨checked, rfl⟩ := certify_eq_ok.mp built
  have quiet : observation.detectorStatus = .notTriggered :=
    not_not.mp (not_or.mp quiet).1
  exact ⟨⟨rfl, rfl, rfl, quiet.symm⟩, .armed later quiet moved rfl rfl rfl⟩

/-- A close under a binding that is not the checkpoint's. -/
theorem ComparisonStep.of_newBinding
    (accepted : advanceUnderNewBinding contract key episode current observation binding
      = .ok transition)
    (new : ∀ held ∈ current, ¬ (held.comparisonBindingDigest = binding.digest ∧
      held.comparisonTransitionRevision = binding.revision))
    (keyed : key.text = strip (buildEpisodeDomainKey contract.eventSpecId
      observation.exchangeInstrumentId contract.positionSide)) :
    StandsFor transition.checkpoint observation binding ∧
      ComparisonStep contract episode current observation binding transition := by
  unfold advanceUnderNewBinding at accepted
  simp only [refuse_bind_eq_ok] at accepted
  obtain ⟨-, fresh, accepted⟩ := accepted
  have later : ∀ held ∈ current, held.lastObservedAtMs < observation.observedAtMs := by
    intro held found
    exact not_le.mp fun behind => fresh ⟨held, found, behind⟩
  by_cases triggered : observation.detectorStatus = .triggered
  · rw [if_pos triggered] at accepted
    obtain ⟨checkpoint, built, accepted⟩ := bind_eq_ok.mp accepted
    obtain rfl := pure_eq_ok.mp accepted
    obtain ⟨checked, rfl⟩ := certify_eq_ok.mp built
    exact ⟨⟨rfl, rfl, rfl, triggered.symm⟩, .suppressed later triggered rfl
      (fun held found digest revision => absurd ⟨digest, revision⟩ (new held found)) keyed⟩
  · rw [if_neg triggered] at accepted
    exact ComparisonStep.of_arm accepted later

/-- The checkpoint after one more close. -/
theorem observedUnderBinding_eq_ok {next : ComparisonBindingEpisodeCheckpoint}
    (built : observedUnderBinding checkpoint observation = .ok next) :
    next.toComparisonFields = { checkpoint.toComparisonFields with
      lastObservedAtMs := observation.observedAtMs
      lastDetectorStatus := observation.detectorStatus
      projectionVersion := checkpoint.projectionVersion + 1 } := by
  obtain ⟨checked, rfl⟩ := certify_eq_ok.mp built
  rfl

/-- A close under the checkpoint's own binding. -/
theorem ComparisonStep.of_sameBinding
    (accepted : advanceUnderSameBinding contract episode checkpoint observation binding
      = .ok transition)
    (digest : checkpoint.comparisonBindingDigest = binding.digest)
    (revision : checkpoint.comparisonTransitionRevision = binding.revision)
    (keyed : checkpoint.episodeDomainKey.text = strip (buildEpisodeDomainKey contract.eventSpecId
      observation.exchangeInstrumentId contract.positionSide)) :
    StandsFor transition.checkpoint observation binding ∧
      ComparisonStep contract episode (some checkpoint) observation binding transition := by
  unfold advanceUnderSameBinding at accepted
  rw [refuse_bind_eq_ok] at accepted
  obtain ⟨forward, accepted⟩ := accepted
  by_cases same : observation.observedAtMs = checkpoint.lastObservedAtMs
  · rw [if_pos same, refuse_bind_eq_ok] at accepted
    obtain ⟨agrees, accepted⟩ := accepted
    have stands : StandsFor checkpoint observation binding :=
      ⟨digest, revision, same.symm, (not_not.mp agrees).symm⟩
    by_cases waits : checkpoint.state = .rebaseRequired
    · rw [if_pos waits] at accepted
      obtain rfl := pure_eq_ok.mp accepted
      exact ⟨stands, .repeated rfl waits⟩
    · rw [if_neg waits, refuse_bind_eq_ok] at accepted
      obtain ⟨matching, accepted⟩ := accepted
      obtain ⟨replay, moved, accepted⟩ := bind_eq_ok.mp accepted
      obtain rfl := pure_eq_ok.mp accepted
      refine ⟨stands, .replayed rfl (armed_of_not_waiting waits) moved ?_⟩
      obtain ⟨held, found, cursor⟩ := not_not.mp matching
      cases EpisodeStep.of_advance moved with
      | replayed found' => exact found'
      | observed new => exact absurd (new.later held found _ cursor) (lt_irrefl _)
  · rw [if_neg same] at accepted
    have later : checkpoint.lastObservedAtMs < observation.observedAtMs :=
      lt_of_le_of_ne (not_lt.mp forward) (Ne.symm same)
    by_cases waits : checkpoint.state = .rebaseRequired
    · rw [if_pos waits] at accepted
      by_cases triggered : observation.detectorStatus = .triggered
      · rw [if_pos triggered] at accepted
        obtain ⟨next, built, accepted⟩ := bind_eq_ok.mp accepted
        obtain rfl := pure_eq_ok.mp accepted
        obtain ⟨checked, rfl⟩ := certify_eq_ok.mp built
        refine ⟨⟨digest, revision, rfl, rfl⟩, .suppressed ?_ triggered waits ?_ keyed⟩
        · rintro _ ⟨⟩
          exact later
        · rintro _ ⟨⟩ - -
          exact waits
      · rw [if_neg triggered] at accepted
        refine ComparisonStep.of_arm accepted ?_
        rintro _ ⟨⟩
        exact later
    · rw [if_neg waits, refuse_bind_eq_ok] at accepted
      obtain ⟨-, accepted⟩ := accepted
      obtain ⟨advanced, moved, accepted⟩ := bind_eq_ok.mp accepted
      obtain ⟨next, built, accepted⟩ := bind_eq_ok.mp accepted
      obtain rfl := pure_eq_ok.mp accepted
      obtain ⟨checked, rfl⟩ := certify_eq_ok.mp built
      have armed := armed_of_not_waiting waits
      exact ⟨⟨digest, revision, rfl, rfl⟩,
        .tracked rfl digest revision armed later moved armed rfl keyed (by simp)⟩

/-- **What an accepted close does**: afterwards the checkpoint stands for it. -/
theorem ComparisonStep.of_advance
    (accepted : advanceComparisonBoundExposureEpisode contract episode current observation binding
      = .ok transition) :
    StandsFor transition.checkpoint observation binding ∧
      ComparisonStep contract episode current observation binding transition := by
  unfold advanceComparisonBoundExposureEpisode at accepted
  obtain ⟨-, -, accepted⟩ := bind_eq_ok.mp accepted
  obtain ⟨key, required, accepted⟩ := bind_eq_ok.mp accepted
  simp only [refuse_bind_eq_ok] at accepted
  obtain ⟨-, differs, -, accepted⟩ := accepted
  have keyed := text_of_requireIdentity required
  split at accepted
  · rename_i other
    rw [Option.filter_eq_none_iff] at other
    exact ComparisonStep.of_newBinding accepted
      (fun held found bound => other held found (decide_eq_true bound)) keyed
  · rename_i held same
    obtain ⟨found, bound⟩ := Option.filter_eq_some_iff.mp same
    obtain ⟨digest, revision⟩ := of_decide_eq_true bound
    have own : held.episodeDomainKey = key :=
      not_not.mp fun other => differs ⟨held, found, other⟩
    rw [found]
    refine ComparisonStep.of_sameBinding accepted digest revision ?_
    rw [own]
    exact keyed

end Step

/-! ### Runs of the barrier -/

/-- The two projections that a step reads and the next one reads again. -/
structure ComparisonState where
  episode : Option ExposureEpisodeState
  checkpoint : Option ComparisonBindingEpisodeCheckpoint

/-- A close, the binding it is compared under, and what it led to. -/
structure ComparisonEntry where
  contract : RegisteredStrategyContract
  observation : Observation
  binding : Binding
  transition : ComparisonBoundExposureEpisodeTransition

/-- The close of an entry. -/
def ComparisonEntry.close (entry : ComparisonEntry) : ℤ := entry.observation.observedAtMs

/-- The projections after a transition: without an episode transition the episode is unchanged. -/
def ComparisonState.after (state : ComparisonState)
    (transition : ComparisonBoundExposureEpisodeTransition) : ComparisonState where
  episode := match transition.episodeTransition with
    | none => state.episode
    | some advanced => some advanced.current
  checkpoint := some transition.checkpoint

/-- One close is accepted. -/
def ComparisonAccepts (state : ComparisonState) (entry : ComparisonEntry) (next : ComparisonState) :
    Prop :=
  advanceComparisonBoundExposureEpisode entry.contract state.episode state.checkpoint
      entry.observation entry.binding = .ok entry.transition ∧
    next = state.after entry.transition

/-- The runs from any episode and no checkpoint. -/
def ComparisonRun (episode : Option ExposureEpisodeState) (history : List ComparisonEntry)
    (state : ComparisonState) : Prop :=
  Run ComparisonAccepts ⟨episode, none⟩ history state

/-- The closes that signal. -/
def signalledAt (history : List ComparisonEntry) : List ℤ :=
  (history.filter fun entry => entry.transition.signalEligible).map ComparisonEntry.close

/-- The last close before the entry was not triggered, whenever it was observed, under the entry's own
binding. -/
def FreshUnderBinding (earlier : List ComparisonEntry) (entry : ComparisonEntry) : Prop :=
  ∃ previous ∈ earlier, previous.close < entry.close ∧
    (∀ other ∈ earlier, other.close ≤ previous.close) ∧
    ∀ other ∈ earlier, other.close = previous.close →
      other.observation.detectorStatus = .notTriggered ∧ other.binding = entry.binding

/-! ### What the projections remember -/

/-- The projections remember the latest close of the history: the checkpoint its verdict and binding,
and behind an armed checkpoint the episode stands at it. -/
structure Recalls (history : List ComparisonEntry) (state : ComparisonState) : Prop where
  unstarted : state.checkpoint = none → history = []
  latest : ∀ checkpoint ∈ state.checkpoint,
    ∃ entry ∈ history, entry.close = checkpoint.lastObservedAtMs
  behind : ∀ checkpoint ∈ state.checkpoint, ∀ entry ∈ history,
    entry.close ≤ checkpoint.lastObservedAtMs
  stands : ∀ checkpoint ∈ state.checkpoint, ∀ entry ∈ history,
    entry.close = checkpoint.lastObservedAtMs →
      StandsFor checkpoint entry.observation entry.binding
  cursor : ∀ checkpoint ∈ state.checkpoint, checkpoint.state = .armedUnderBinding →
    ∃ episode ∈ state.episode, episode.lastObservedAtMs = some checkpoint.lastObservedAtMs ∧
      episode.state = expectedState checkpoint.lastDetectorStatus

section Recalls

variable {history : List ComparisonEntry} {state : ComparisonState} {entry : ComparisonEntry}
  {close : ℤ}

theorem recalls_start (episode : Option ExposureEpisodeState) : Recalls [] ⟨episode, none⟩ where
  unstarted := fun _ => rfl
  latest := fun _ found => nomatch found
  behind := fun _ found => nomatch found
  stands := fun _ found => nomatch found
  cursor := fun _ found => nomatch found

/-- A close after the checkpoint's is after every close of the history. -/
theorem Recalls.above (recalls : Recalls history state)
    (later : ∀ held ∈ state.checkpoint, held.lastObservedAtMs < close) :
    ∀ entry ∈ history, entry.close < close := by
  intro entry member
  cases found : state.checkpoint with
  | none =>
    rw [recalls.unstarted found] at member
    exact absurd member List.not_mem_nil
  | some held => exact (recalls.behind held found entry member).trans_lt (later held found)

/-- **A later close** leaves a checkpoint that stands for it, and for no other close. -/
theorem Recalls.later (recalls : Recalls history state)
    (later : ∀ held ∈ state.checkpoint, held.lastObservedAtMs < entry.close)
    (stands : StandsFor entry.transition.checkpoint entry.observation entry.binding)
    (cursor : entry.transition.checkpoint.state = .armedUnderBinding →
      ∃ episode ∈ (state.after entry.transition).episode,
        episode.lastObservedAtMs = some entry.transition.checkpoint.lastObservedAtMs ∧
          episode.state = expectedState entry.transition.checkpoint.lastDetectorStatus) :
    Recalls (history ++ [entry]) (state.after entry.transition) := by
  have above := recalls.above later
  have last : entry.close = entry.transition.checkpoint.lastObservedAtMs := stands.cursor.symm
  refine ⟨nofun, ?_, ?_, ?_, ?_⟩
  · rintro _ ⟨⟩
    exact ⟨entry, List.mem_append_right _ (List.mem_singleton_self entry), last⟩
  · rintro _ ⟨⟩ other member
    rw [← last]
    rcases List.mem_append.mp member with earlier | final
    · exact (above other earlier).le
    · rw [List.mem_singleton.mp final]
  · rintro _ ⟨⟩ other member same
    rcases List.mem_append.mp member with earlier | final
    · rw [← last] at same
      exact absurd same (above other earlier).ne
    · rw [List.mem_singleton.mp final]
      exact stands
  · rintro _ ⟨⟩
    exact cursor

/-- After an accepted close that moves the episode, the episode stands where the checkpoint does. -/
theorem cursor_of_standsFor {contract : RegisteredStrategyContract}
    {episode : Option ExposureEpisodeState} {checkpoint : ComparisonBindingEpisodeCheckpoint}
    {observation : Observation} {binding : Binding} {advanced : ExposureEpisodeTransition}
    (stands : StandsFor checkpoint observation binding)
    (accepted : advanceExposureEpisode contract episode observation = .ok advanced) :
    advanced.current.lastObservedAtMs = some checkpoint.lastObservedAtMs ∧
      advanced.current.state = expectedState checkpoint.lastDetectorStatus := by
  rw [stands.cursor, stands.status]
  exact cursor_of_advance accepted

/-- **The latest close, once more**, leaves what is remembered. -/
theorem Recalls.repeated (recalls : Recalls history state)
    (found : state.checkpoint = some entry.transition.checkpoint)
    (stands : StandsFor entry.transition.checkpoint entry.observation entry.binding) :
    Recalls (history ++ [entry]) state := by
  refine ⟨fun none => absurd (found.symm.trans none) (Option.some_ne_none _), ?_, ?_, ?_,
    recalls.cursor⟩
  · intro other held
    obtain ⟨entry, member, last⟩ := recalls.latest other held
    exact ⟨entry, List.mem_append_left _ member, last⟩
  · intro other held entry member
    obtain rfl := Option.some.inj (found.symm.trans held)
    rcases List.mem_append.mp member with earlier | final
    · exact recalls.behind _ held entry earlier
    · rw [List.mem_singleton.mp final]
      exact stands.cursor.ge
  · intro other held entry member last
    obtain rfl := Option.some.inj (found.symm.trans held)
    rcases List.mem_append.mp member with earlier | final
    · exact recalls.stands _ held entry earlier last
    · rw [List.mem_singleton.mp final]
      exact stands

/-- **Every accepted close is remembered.** -/
theorem Recalls.accepted (recalls : Recalls history state)
    (accepted : advanceComparisonBoundExposureEpisode entry.contract state.episode state.checkpoint
      entry.observation entry.binding = .ok entry.transition) :
    Recalls (history ++ [entry]) (state.after entry.transition) := by
  obtain ⟨stands, step⟩ := ComparisonStep.of_advance accepted
  obtain ⟨contract, observation, binding, transition⟩ := entry
  obtain ⟨episode, current⟩ := state
  cases step with
  | repeated found =>
    subst found
    exact recalls.repeated rfl stands
  | replayed found armed moved unmoved =>
    subst found
    subst unmoved
    exact recalls.repeated rfl stands
  | suppressed later triggered waits =>
    refine recalls.later later stands fun armed => ?_
    rw [show (_ : ComparisonBindingEpisodeState) = _ from waits] at armed
    exact absurd armed (by decide)
  | armed later quiet moved arms arm key =>
    exact recalls.later later stands fun _ => ⟨_, rfl, cursor_of_standsFor stands moved⟩
  | tracked found digest revision armed later moved =>
    refine recalls.later ?_ stands fun _ => ⟨_, rfl, cursor_of_standsFor stands moved⟩
    intro held same
    obtain rfl := Option.some.inj (found.symm.trans same)
    exact later

theorem recalls_of_run {episode : Option ExposureEpisodeState}
    (run : ComparisonRun episode history state) : Recalls history state :=
  run.history_invariant Recalls (recalls_start episode) fun _ recalls ⟨accepted, next⟩ =>
    next ▸ recalls.accepted accepted

/-- **A signal is a fresh edge**: it is tracked under an armed checkpoint, and the episode behind it was
not triggered. -/
theorem Recalls.fresh (recalls : Recalls history state)
    (accepted : advanceComparisonBoundExposureEpisode entry.contract state.episode state.checkpoint
      entry.observation entry.binding = .ok entry.transition)
    (signal : entry.transition.signalEligible = true) : FreshUnderBinding history entry := by
  obtain ⟨stands, step⟩ := ComparisonStep.of_advance accepted
  obtain ⟨contract, observation, binding, transition⟩ := entry
  cases step with
  | repeated => exact absurd signal Bool.false_ne_true
  | replayed => exact absurd signal Bool.false_ne_true
  | suppressed => exact absurd signal Bool.false_ne_true
  | armed => exact absurd signal Bool.false_ne_true
  | @tracked held checkpoint advanced _ found digest revision armed later moved _ _ _ edge =>
    obtain ⟨-, created⟩ := edge.mp signal
    obtain ⟨previous, member, last⟩ := recalls.latest held found
    obtain ⟨episode, present, cursor, verdict⟩ := recalls.cursor held found armed
    have idle : episode.state ≠ .triggered := by
      cases EpisodeStep.of_advance moved with
      | replayed => exact absurd created Bool.false_ne_true
      | observed new => exact (new.created.mp created).2 episode present
    refine ⟨previous, member, last ▸ later, ?_, fun other among same => ?_⟩
    · rw [last]
      exact recalls.behind held found
    · have stood := recalls.stands held found other among (same.trans last)
      refine ⟨?_, ?_⟩
      · rw [← stood.status]
        cases status : held.lastDetectorStatus with
        | notTriggered => rfl
        | triggered =>
          rw [verdict, status] at idle
          exact absurd rfl idle
        | invalid =>
          have valid := held.valid
          unfold ComparisonFields.check at valid
          simp only [refuse_bind_eq_ok] at valid
          exact absurd status valid.2.2.1
      · obtain ⟨contract', observation', ⟨digest', revision'⟩, transition'⟩ := other
        obtain ⟨digest₀, revision₀⟩ := binding
        rw [Binding.mk.injEq]
        exact ⟨stood.digest.symm.trans digest, stood.revision.symm.trans revision⟩

end Recalls

/-! ### The law -/

section Law

variable {history : List ComparisonEntry} {state : ComparisonState} {entry : ComparisonEntry}
  {episode : Option ExposureEpisodeState}

theorem signalledAt_snoc (history : List ComparisonEntry) (entry : ComparisonEntry) :
    signalledAt (history ++ [entry]) = signalledAt history ++
      if entry.transition.signalEligible then [entry.close] else [] := by
  rw [signalledAt, List.filter_append, List.map_append, ← signalledAt]
  split_ifs with signal <;> simp [signal]

/-- No close signals twice. -/
theorem signalledAt_nodup (run : ComparisonRun episode history state) :
    (signalledAt history).Nodup := by
  refine run.history_invariant (fun past _ => (signalledAt past).Nodup) List.nodup_nil ?_
  rintro past entry before after earlier distinct ⟨accepted, -⟩
  rw [signalledAt_snoc]
  split_ifs with signal
  · obtain ⟨previous, -, below, behind, -⟩ := (recalls_of_run earlier).fresh accepted signal
    refine List.Nodup.append distinct (List.nodup_singleton _) ?_
    rw [List.disjoint_singleton]
    intro again
    obtain ⟨other, member, same⟩ := List.mem_map.mp again
    exact absurd ((behind other (List.mem_filter.mp member).1).trans_lt below) same.not_lt
  · rw [List.append_nil]
    exact distinct

end Law

/-! ### A concrete history -/

section Sample

variable {contract : RegisteredStrategyContract} {episode : Option ExposureEpisodeState}
  {current : Option ComparisonBindingEpisodeCheckpoint} {observation : Observation}
  {binding : Binding}

/-- A well-formed close under a canonical binding passes the request validator. -/
theorem validateComparisonRequest_eq_ok (formed : WellFormed contract observation)
    (digest : IsSha256Digest binding.digest) (revision : 0 < binding.revision) :
    validateComparisonRequest contract observation binding = .ok () := by
  unfold validateComparisonRequest
  simp only [refuse_bind_eq_ok, refuse_eq_ok]
  refine ⟨not_not.mpr formed.policy, formed.valid, ?_, not_le.mpr revision, not_not.mpr digest,
    ?_, ?_⟩
  · exact not_or.mpr ⟨not_le.mpr formed.positive, formed.instrument⟩
  · rintro ⟨triggered, missing⟩
    exact missing (formed.occurred triggered)
  · rintro ⟨quiet, present⟩
    exact present (formed.unoccurred quiet)

/-- **The first quiet close arms its binding.** -/
theorem exists_arm (formed : WellFormed contract observation)
    (quiet : observation.detectorStatus = .notTriggered) (digest : IsSha256Digest binding.digest)
    (revision : 0 < binding.revision) :
    ∃ transition, advanceComparisonBoundExposureEpisode contract none none observation binding =
      .ok transition := by
  obtain ⟨key, keyed⟩ := exists_requireIdentity (strip_buildEpisodeDomainKey_ne_empty
    contract.eventSpecId observation.exchangeInstrumentId contract.positionSide)
    "comparison checkpoint requires an Episode domain key"
  have moves : ∃ transition, advanceExposureEpisode contract none observation = .ok transition :=
    exists_advance formed (by simp) (by simp) (by simp)
  obtain ⟨advanced, moved⟩ := moves
  unfold advanceComparisonBoundExposureEpisode
  refine exists_bind_of_ok (validateComparisonRequest_eq_ok formed digest revision)
    (exists_bind_of_ok keyed ?_)
  simp only [exists_refuse_bind]
  refine ⟨by simp, by simp, by simp, ?_⟩
  show ∃ transition, advanceUnderNewBinding contract key none none observation binding =
    .ok transition
  unfold advanceUnderNewBinding armUnderComparisonBinding
  simp only [exists_refuse_bind]
  refine ⟨by simp, by simp, ?_⟩
  rw [if_neg (by rw [quiet]; decide)]
  simp only [exists_refuse_bind]
  refine ⟨?_, exists_bind_of_ok moved (exists_bind_of_ok (certify_eq_ok.mpr ⟨?_, rfl⟩) ⟨_, rfl⟩)⟩
  · rw [not_or, not_not, not_not]
    exact ⟨quiet, formed.unoccurred quiet⟩
  · unfold ComparisonFields.check
    simp only [refuse_bind_eq_ok, not_or, not_le]
    refine ⟨not_not.mpr digest, ⟨revision, formed.positive, one_pos⟩, by decide, ?_⟩
    rw [if_neg (by decide), refuse_eq_ok]
    exact not_not.mpr ⟨_, rfl, formed.positive, le_rfl⟩

/-- **A later close under an armed binding is tracked.** -/
theorem exists_track {held : ComparisonBindingEpisodeCheckpoint} {stood : ExposureEpisodeState}
    (formed : WellFormed contract observation)
    (plain : strip observation.exchangeInstrumentId = observation.exchangeInstrumentId)
    (own : EpisodeOf contract observation stood)
    (same : held.episodeDomainKey = stood.episodeDomainKey)
    (digest : held.comparisonBindingDigest = binding.digest)
    (revision : held.comparisonTransitionRevision = binding.revision)
    (armed : held.state = .armedUnderBinding) (unwaiting : ¬ stood.state.Rebases)
    (cursor : stood.lastObservedAtMs = some held.lastObservedAtMs)
    (later : held.lastObservedAtMs < observation.observedAtMs) :
    ∃ transition, advanceComparisonBoundExposureEpisode contract (some stood) (some held) observation
      binding = .ok transition := by
  have valid := held.valid
  unfold ComparisonFields.check at valid
  simp only [refuse_bind_eq_ok, not_or, not_le] at valid
  obtain ⟨shaped, ⟨positive, -, version⟩, -, arm⟩ := valid
  rw [if_neg (by rw [armed]; decide), refuse_eq_ok, not_not] at arm
  obtain ⟨close, armedAt, armedPositive, before⟩ := arm
  obtain ⟨key, keyed⟩ := exists_requireIdentity (strip_buildEpisodeDomainKey_ne_empty
    contract.eventSpecId observation.exchangeInstrumentId contract.positionSide)
    "comparison checkpoint requires an Episode domain key"
  have stoodKey : stood.episodeDomainKey = key := by
    rw [NonBlankText.ext_iff, text_of_requireIdentity keyed, ← plain]
    exact not_not.mp (not_or.mp own).1
  have moves : ∃ transition,
      advanceExposureEpisode contract (some stood) observation = .ok transition := by
    refine exists_advance formed ?_ ?_ ?_
    · exact fun _ found => Option.some.inj found ▸ own
    · exact fun _ found rebases => absurd (Option.some.inj found ▸ rebases) unwaiting
    · rintro _ ⟨⟩ last seen
      obtain rfl := Option.some.inj (cursor.symm.trans seen)
      exact later
  obtain ⟨advanced, moved⟩ := moves
  unfold advanceComparisonBoundExposureEpisode
  refine exists_bind_of_ok (validateComparisonRequest_eq_ok formed
    (not_not.mp (digest ▸ shaped)) (revision ▸ positive)) (exists_bind_of_ok keyed ?_)
  simp only [exists_refuse_bind]
  refine ⟨by simp [stoodKey], by simp [same, stoodKey], by simp [digest, revision], ?_⟩
  have bound : (some held).filter (fun checkpoint => checkpoint.comparisonBindingDigest
      = binding.digest ∧ checkpoint.comparisonTransitionRevision = binding.revision) = some held := by
    simp [Option.filter, digest, revision]
  rw [bound]
  show ∃ transition, advanceUnderSameBinding contract (some stood) held observation binding =
    .ok transition
  unfold advanceUnderSameBinding
  rw [exists_refuse_bind, if_neg later.ne', if_neg (by rw [armed]; decide), exists_refuse_bind]
  refine ⟨later.not_gt, ?_, exists_bind_of_ok moved
    (exists_bind_of_ok (certify_eq_ok.mpr ⟨?_, rfl⟩) ⟨_, rfl⟩)⟩
  · rintro ⟨-, other, seen, early⟩
    obtain rfl := Option.some.inj (armedAt.symm.trans seen)
    exact absurd (before.trans_lt later) early.not_gt
  · unfold ComparisonFields.check
    simp only [refuse_bind_eq_ok, not_or, not_le]
    refine ⟨shaped, ⟨positive, formed.positive, add_pos version one_pos⟩, formed.valid, ?_⟩
    rw [if_neg (by rw [armed]; decide), refuse_eq_ok]
    exact not_not.mpr ⟨close, armedAt, armedPositive, before.trans later.le⟩

/-- The comparison binding of the sample history. -/
def sampleBinding : Binding :=
  ⟨"sha256:0123456789abcdef0123456789abcdef0123456789abcdef0123456789abcdef", 1⟩

end Sample

end TradingKernel.Recovery
