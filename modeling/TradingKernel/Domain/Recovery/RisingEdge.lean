/-
**Rising edges: which closes open an exposure episode.**

`EpisodeStep` is all that an accepted observation does to the one stored episode: a repetition of the
latest close changes nothing, and a later close moves the cursor and opens an episode where the
verdict rises. Along a run from no episode the stored state remembers just enough of the history, its
latest close and verdict (`Follows`), so the episodes opened are the rising edges of the closes, each
once, under ids that differ as long as the digest separates their payloads
(`episodes_are_rising_edges`).
-/

import TradingKernel.Domain.Recovery.Episode
import TradingKernel.Lib.Run
import Mathlib.Data.Set.Card

namespace TradingKernel.Recovery

open Text CanonicalJson Guard Sha256

/-! ### One observation -/

/-- The payload that the id of an episode is the digest of. -/
def episodePayload (eventSpecId exchangeInstrumentId : String) (side : PositionSide)
    (occurredAtMs : ℤ) : Canonical :=
  .object [("event_spec_id", .text eventSpecId),
    ("exchange_instrument_id", .text exchangeInstrumentId), ("position_side", .text side.value),
    ("occurred_at_ms", .integer occurredAtMs)]

/-- The episode is the one of a contract and an instrument. -/
def EpisodeOf (contract : RegisteredStrategyContract) (observation : Observation)
    (episode : ExposureEpisodeState) : Prop :=
  let instrumentId := strip observation.exchangeInstrumentId
  ¬ episode.Differs (strip (buildEpisodeDomainKey contract.eventSpecId instrumentId
    contract.positionSide)) contract.eventSpecId instrumentId contract.positionSide

/-- A later close: the cursor moves to it, and an episode opens where the verdict rises. -/
structure Observed (contract : RegisteredStrategyContract) (current : Option ExposureEpisodeState)
    (observation : Observation) (transition : ExposureEpisodeTransition) : Prop where
  later : ∀ episode ∈ current, ∀ last ∈ episode.lastObservedAtMs, last < observation.observedAtMs
  cursor : transition.current.lastObservedAtMs = some observation.observedAtMs
  state : transition.current.state = expectedState observation.detectorStatus
  named : EpisodeOf contract observation transition.current
  created : transition.createdNewEpisode = true ↔ observation.detectorStatus = .triggered ∧
    ∀ episode ∈ current, episode.state ≠ .triggered
  identity : transition.createdNewEpisode = true → ∃ occurredAtMs,
    observation.occurredAtMs = some occurredAtMs ∧
      transition.current.exposureEpisodeId = some ("episode:" ++ hexDigest (render
        (episodePayload contract.eventSpecId (strip observation.exchangeInstrumentId)
          contract.positionSide occurredAtMs)))

/-- What an accepted observation does to the episode. -/
inductive EpisodeStep (contract : RegisteredStrategyContract)
    (current : Option ExposureEpisodeState) (observation : Observation) :
    ExposureEpisodeTransition → Prop
  | replayed {episode : ExposureEpisodeState} (found : current = some episode)
      (named : EpisodeOf contract observation episode)
      (cursor : episode.lastObservedAtMs = some observation.observedAtMs)
      (agrees : episode.state = expectedState observation.detectorStatus) :
      EpisodeStep contract current observation ⟨episode, false⟩
  | observed {transition : ExposureEpisodeTransition}
      (new : Observed contract current observation transition) :
      EpisodeStep contract current observation transition

section Step

variable {contract : RegisteredStrategyContract} {current : Option ExposureEpisodeState}
  {observation : Observation} {transition : ExposureEpisodeTransition}

/-- An identity that is required is the stripped text. -/
theorem text_of_requireIdentity {text error : String} {identity : NonBlankText}
    (required : requireIdentity text error = .ok identity) : identity.text = strip text := by
  rw [requireIdentity, demand_eq_ok, NonBlankText.ofText?] at required
  split_ifs at required with blank
  rw [← Option.some.inj required]

/-- **What an accepted observation does.** -/
theorem EpisodeStep.of_advance
    (accepted : advanceExposureEpisode contract current observation = .ok transition) :
    EpisodeStep contract current observation transition := by
  unfold advanceExposureEpisode at accepted
  simp only [refuse_bind_eq_ok] at accepted
  obtain ⟨-, valid, -, accepted⟩ := accepted
  obtain ⟨instrument, named, accepted⟩ := bind_eq_ok.mp accepted
  simp only [refuse_bind_eq_ok] at accepted
  obtain ⟨-, -, accepted⟩ := accepted
  obtain ⟨key, keyed, accepted⟩ := bind_eq_ok.mp accepted
  simp only [refuse_bind_eq_ok] at accepted
  obtain ⟨-, differs, forward, accepted⟩ := accepted
  rw [text_of_requireIdentity keyed, text_of_requireIdentity named] at differs
  have own {fields : EpisodeFields} (key_eq : fields.episodeDomainKey = key)
      (spec : fields.eventSpecId = contract.eventSpecId)
      (instrument_eq : fields.exchangeInstrumentId = instrument)
      (side : fields.positionSide = contract.positionSide) :
      ¬ fields.Differs (strip (buildEpisodeDomainKey contract.eventSpecId
        (strip observation.exchangeInstrumentId) contract.positionSide)) contract.eventSpecId
        (strip observation.exchangeInstrumentId) contract.positionSide := by
    rw [EpisodeFields.Differs, key_eq, spec, instrument_eq, side, text_of_requireIdentity keyed,
      text_of_requireIdentity named]
    simp
  split at accepted
  · rename_i episode same
    obtain ⟨agrees, accepted⟩ := refuse_bind_eq_ok.mp accepted
    obtain ⟨found, cursor⟩ := Option.filter_eq_some_iff.mp same
    obtain rfl := pure_eq_ok.mp accepted
    exact .replayed found (fun differing => differs ⟨episode, found, differing⟩)
      (of_decide_eq_true cursor) (not_not.mp agrees)
  · rename_i fresh
    have later : ∀ episode ∈ current, ∀ last ∈ episode.lastObservedAtMs,
        last < observation.observedAtMs := by
      intro episode found last cursor
      refine lt_of_le_of_ne (not_lt.mp fun behind => forward ⟨episode, found, last, cursor, behind⟩) ?_
      rintro rfl
      rw [Option.mem_def.mp found] at fresh
      simp [Option.filter, Option.mem_def.mp cursor] at fresh
    refine .observed ?_
    by_cases quiet : observation.detectorStatus = .notTriggered
    · rw [if_pos quiet] at accepted
      obtain ⟨state, built, accepted⟩ := bind_eq_ok.mp accepted
      obtain rfl := pure_eq_ok.mp accepted
      obtain ⟨checked, rfl⟩ := certify_eq_ok.mp built
      exact ⟨later, rfl, by rw [quiet]; rfl, own rfl rfl rfl rfl, by simp [quiet], nofun⟩
    · rw [if_neg quiet] at accepted
      have triggered : observation.detectorStatus = .triggered := by
        cases status : observation.detectorStatus with
        | triggered => rfl
        | notTriggered => exact absurd status quiet
        | invalid => exact absurd status valid
      split at accepted
      · rename_i episode held
        obtain ⟨state, built, accepted⟩ := bind_eq_ok.mp accepted
        obtain rfl := pure_eq_ok.mp accepted
        obtain ⟨checked, rfl⟩ := certify_eq_ok.mp built
        obtain ⟨found, state⟩ := Option.filter_eq_some_iff.mp held
        refine ⟨later, rfl, by rw [triggered]; rfl, own rfl rfl rfl rfl, ?_, nofun⟩
        exact ⟨nofun, fun ⟨_, others⟩ => absurd (of_decide_eq_true state) (others episode found)⟩
      · rename_i idle
        obtain ⟨occurred, time, accepted⟩ := demand_bind_eq_ok.mp accepted
        obtain ⟨state, built, accepted⟩ := bind_eq_ok.mp accepted
        obtain rfl := pure_eq_ok.mp accepted
        obtain ⟨checked, rfl⟩ := certify_eq_ok.mp built
        refine ⟨later, rfl, by rw [triggered]; rfl, own rfl rfl rfl rfl, ?_, fun _ =>
          ⟨occurred, time, ?_⟩⟩
        · refine ⟨fun _ => ⟨triggered, fun episode found held => ?_⟩, fun _ => rfl⟩
          rw [Option.mem_def.mp found] at idle
          simp [Option.filter, held] at idle
        · rw [← text_of_requireIdentity named]
          rfl

/-- An accepted observation is triggered or not. -/
theorem valid_of_advance
    (accepted : advanceExposureEpisode contract current observation = .ok transition) :
    observation.detectorStatus ≠ .invalid := by
  unfold advanceExposureEpisode at accepted
  simp only [refuse_bind_eq_ok] at accepted
  exact accepted.2.1

/-- After an accepted observation the episode stands for it. -/
theorem cursor_of_advance
    (accepted : advanceExposureEpisode contract current observation = .ok transition) :
    transition.current.lastObservedAtMs = some observation.observedAtMs ∧
      transition.current.state = expectedState observation.detectorStatus := by
  cases EpisodeStep.of_advance accepted with
  | replayed found named cursor agrees => exact ⟨cursor, agrees⟩
  | observed new => exact ⟨new.cursor, new.state⟩

/-- **The observation just accepted, once more**: it is accepted again, and nothing changes. -/
theorem advance_again
    (accepted : advanceExposureEpisode contract current observation = .ok transition) :
    advanceExposureEpisode contract (some transition.current) observation =
      .ok ⟨transition.current, false⟩ := by
  obtain ⟨cursor, state⟩ := cursor_of_advance accepted
  have named : EpisodeOf contract observation transition.current := by
    cases EpisodeStep.of_advance accepted with
    | replayed found named cursor agrees => exact named
    | observed new => exact new.named
  unfold advanceExposureEpisode at accepted ⊢
  simp only [refuse_bind_eq_ok] at accepted ⊢
  obtain ⟨policy, valid, positive, accepted⟩ := accepted
  obtain ⟨instrument, instrumentNamed, accepted⟩ := bind_eq_ok.mp accepted
  simp only [refuse_bind_eq_ok] at accepted
  obtain ⟨occurred, unoccurred, accepted⟩ := accepted
  obtain ⟨key, keyed, -⟩ := bind_eq_ok.mp accepted
  refine ⟨policy, valid, positive, bind_eq_ok.mpr ⟨instrument, instrumentNamed, ?_⟩⟩
  simp only [refuse_bind_eq_ok]
  refine ⟨occurred, unoccurred, bind_eq_ok.mpr ⟨key, keyed, ?_⟩⟩
  simp only [refuse_bind_eq_ok]
  have filtered : (some transition.current).filter (fun episode =>
      episode.lastObservedAtMs = some observation.observedAtMs) = some transition.current := by
    simp [Option.filter, cursor]
  rw [filtered]
  refine ⟨?_, ?_, ?_, refuse_bind_eq_ok.mpr ⟨not_not.mpr state, rfl⟩⟩
  · rintro ⟨_, ⟨⟩, rebases, triggered⟩
    rw [state, triggered] at rebases
    exact absurd rebases (by decide)
  · rintro ⟨_, ⟨⟩, differs⟩
    rw [text_of_requireIdentity keyed, text_of_requireIdentity instrumentNamed] at differs
    exact named differs
  · rintro ⟨_, ⟨⟩, last, seen, behind⟩
    obtain rfl := Option.some.inj (cursor.symm.trans seen)
    exact absurd behind (lt_irrefl _)

end Step

/-! ### What is accepted -/

section Accepted

variable {contract : RegisteredStrategyContract} {current : Option ExposureEpisodeState}
  {observation : Observation}

/-- A guarded computation returns exactly when the guard passes and the rest returns. -/
theorem exists_refuse_bind {α : Type} {bad : Prop} [Decidable bad] {error : String}
    {next : Unit → Except String α} :
    (∃ value, (refuse bad error >>= next) = .ok value) ↔ ¬ bad ∧ ∃ value, next ⟨⟩ = .ok value := by
  simp only [refuse_bind_eq_ok, exists_and_left]

/-- A sequence returns once its first part has returned and the rest returns on that result. -/
theorem exists_bind_of_ok {α β : Type} {first : Except String α} {next : α → Except String β}
    {result : α} (returned : first = .ok result) (rest : ∃ value, next result = .ok value) :
    ∃ value, (first >>= next) = .ok value := by
  obtain ⟨value, rest⟩ := rest
  exact ⟨value, bind_eq_ok.mpr ⟨result, returned, rest⟩⟩

/-- The observation is well formed for a rising-edge contract. -/
structure WellFormed (contract : RegisteredStrategyContract) (observation : Observation) : Prop where
  policy : contract.episodePolicy = .risingEdge
  valid : observation.detectorStatus ≠ .invalid
  positive : 0 < observation.observedAtMs
  instrument : ¬ Blank observation.exchangeInstrumentId
  occurred : observation.detectorStatus = .triggered →
    ∃ occurred ∈ observation.occurredAtMs, 0 < occurred
  unoccurred : observation.detectorStatus = .notTriggered → observation.occurredAtMs = none

/-- The times of a valid episode are positive, and a triggered one has its id and time. -/
theorem ExposureEpisodeState.sound (episode : ExposureEpisodeState) :
    0 < episode.projectionVersion ∧ (∀ rearmed ∈ episode.rearmedAtMs, 0 < rearmed) ∧
      (episode.state = .triggered → episode.exposureEpisodeId ≠ none ∧
        episode.triggeredAtMs ≠ none ∧ ∀ triggered ∈ episode.triggeredAtMs, 0 < triggered) := by
  have valid := episode.valid
  unfold EpisodeFields.check at valid
  simp only [refuse_bind_eq_ok, not_or, not_le, not_exists, not_and] at valid
  obtain ⟨⟨version, -⟩, -, rearmed, rest⟩ := valid
  refine ⟨version, rearmed, fun triggered => ?_⟩
  rw [if_pos triggered] at rest
  simp only [refuse_bind_eq_ok, not_or, not_exists, not_and, not_le] at rest
  exact ⟨rest.1.1, rest.1.2, rest.2.1⟩

/-- The cursor of an armed or triggered episode passes the validator. -/
theorem check_of_cursor {fields : EpisodeFields} {close : ℤ} (version : 0 < fields.projectionVersion)
    (cursor : fields.lastObservedAtMs = some close) (positive : 0 < close)
    (rearmed : ∀ time ∈ fields.rearmedAtMs, 0 < time)
    (shape : (fields.state = .armed ∧ fields.exposureEpisodeId = none ∧ fields.triggeredAtMs = none) ∨
      (fields.state = .triggered ∧ fields.exposureEpisodeId ≠ none ∧ fields.triggeredAtMs ≠ none ∧
        ∀ time ∈ fields.triggeredAtMs, 0 < time)) : fields.check = .ok () := by
  unfold EpisodeFields.check
  simp only [refuse_bind_eq_ok, not_or, not_le, not_exists, not_and]
  refine ⟨⟨version, ?_⟩, ?_, rearmed, ?_⟩
  · rw [cursor]
    rintro _ ⟨⟩
    exact positive
  · rw [cursor]
    nofun
  · rcases shape with ⟨armed, unnamed, untimed⟩ | ⟨triggered, named, timed, positive⟩
    · rw [if_neg (by rw [armed]; decide)]
      simp only [refuse_bind_eq_ok, refuse_eq_ok, not_or, not_not, not_and]
      exact ⟨⟨unnamed, untimed⟩, fun rebases => absurd rebases (by rw [armed]; decide)⟩
    · rw [if_pos triggered]
      simp only [refuse_bind_eq_ok, refuse_eq_ok, not_or, not_exists, not_and, not_le, not_not]
      exact ⟨⟨named, timed⟩, positive, fun rebases => absurd rebases (by rw [triggered]; decide)⟩

theorem exists_requireIdentity {text : String} (named : strip text ≠ "") (error : String) :
    ∃ identity, requireIdentity text error = .ok identity := by
  refine ⟨⟨strip text, strip_strip text, named⟩, ?_⟩
  rw [requireIdentity, demand_eq_ok, NonBlankText.ofText?, dif_neg named]

theorem strip_buildEpisodeDomainKey_ne_empty (eventSpecId instrumentId : String)
    (side : PositionSide) : strip (buildEpisodeDomainKey eventSpecId instrumentId side) ≠ "" := by
  refine strip_ne_empty (c := 'e') ?_ (by decide)
  rw [buildEpisodeDomainKey, String.toList_append]
  exact List.mem_append_left _ (by decide)

/-- **A later close of the episode's own instrument is accepted**, unless it is triggered while the
episode waits for a close that is not. -/
theorem exists_advance (formed : WellFormed contract observation)
    (own : ∀ episode ∈ current, EpisodeOf contract observation episode)
    (armed : ∀ episode ∈ current, episode.state.Rebases →
      observation.detectorStatus = .notTriggered)
    (later : ∀ episode ∈ current, ∀ last ∈ episode.lastObservedAtMs,
      last < observation.observedAtMs) :
    ∃ transition, advanceExposureEpisode contract current observation = .ok transition := by
  obtain ⟨instrument, instrumentNamed⟩ := exists_requireIdentity formed.instrument
    "Episode instrument identity must be non-blank"
  obtain ⟨key, keyed⟩ := exists_requireIdentity
    (strip_buildEpisodeDomainKey_ne_empty contract.eventSpecId instrument contract.positionSide)
    "Exposure Episode identities must be non-blank"
  have fresh : (current.filter fun episode =>
      episode.lastObservedAtMs = some observation.observedAtMs) = none := by
    rw [Option.filter_eq_none_iff]
    rintro episode found cursor
    exact absurd (later episode found _ (of_decide_eq_true cursor)) (lt_irrefl _)
  have version {n : ℤ} (next : n = current.elim 1 fun episode => episode.projectionVersion + 1) :
      0 < n := by
    rw [next]
    cases current with
    | none => decide
    | some episode => exact add_pos episode.sound.1 one_pos
  have rearmed : ∀ time ∈ current.bind fun episode => episode.rearmedAtMs, 0 < time := by
    intro time member
    obtain ⟨episode, -, kept⟩ := Option.bind_eq_some_iff.mp member
    exact episode.sound.2.1 time kept
  have built {fields : EpisodeFields} (check : fields.check = .ok ()) :
      ExposureEpisodeState.ofFields fields = .ok ⟨fields, check⟩ :=
    certify_eq_ok.mpr ⟨check, rfl⟩
  unfold advanceExposureEpisode
  simp only [exists_refuse_bind]
  refine ⟨not_not.mpr formed.policy, formed.valid, not_le.mpr formed.positive,
    exists_bind_of_ok instrumentNamed ?_⟩
  simp only [exists_refuse_bind]
  refine ⟨?_, ?_, exists_bind_of_ok keyed ?_⟩
  · rintro ⟨triggered, missing⟩
    exact missing (formed.occurred triggered)
  · rintro ⟨quiet, present⟩
    exact present (formed.unoccurred quiet)
  simp only [exists_refuse_bind]
  rw [text_of_requireIdentity keyed, text_of_requireIdentity instrumentNamed, fresh]
  refine ⟨?_, ?_, ?_, ?_⟩
  · rintro ⟨episode, found, rebases, triggered⟩
    rw [armed episode found rebases] at triggered
    exact absurd triggered (by decide)
  · rintro ⟨episode, found, differs⟩
    exact own episode found differs
  · rintro ⟨episode, found, last, cursor, behind⟩
    exact absurd (later episode found last cursor) behind.not_gt
  dsimp only
  by_cases quiet : observation.detectorStatus = .notTriggered
  · rw [if_pos quiet]
    refine exists_bind_of_ok (built ?_) ⟨_, rfl⟩
    refine check_of_cursor (version (by cases current <;> rfl)) rfl formed.positive ?_
      (.inl ⟨rfl, rfl, rfl⟩)
    dsimp only
    split_ifs
    · exact rearmed
    · rintro _ ⟨⟩
      exact formed.positive
  · rw [if_neg quiet]
    split
    · rename_i episode held
      obtain ⟨-, triggered⟩ := Option.filter_eq_some_iff.mp held
      obtain ⟨named, timed, positive⟩ := episode.sound.2.2 (of_decide_eq_true triggered)
      refine exists_bind_of_ok (built ?_) ⟨_, rfl⟩
      exact check_of_cursor (version (by cases current <;> rfl)) rfl formed.positive rearmed
        (.inr ⟨rfl, named, timed, positive⟩)
    · have triggered : observation.detectorStatus = .triggered := by
        have valid := formed.valid
        cases status : observation.detectorStatus <;> simp_all
      obtain ⟨occurred, time, positive⟩ := formed.occurred triggered
      refine exists_bind_of_ok (demand_eq_ok.mpr time) ?_
      refine exists_bind_of_ok (built ?_) ⟨_, rfl⟩
      refine check_of_cursor (version (by cases current <;> rfl)) rfl formed.positive rearmed
        (.inr ⟨rfl, by simp, by simp, ?_⟩)
      rintro _ ⟨⟩
      exact positive

/-- What such a close leads to. -/
theorem exists_observed (formed : WellFormed contract observation)
    (own : ∀ episode ∈ current, EpisodeOf contract observation episode)
    (armed : ∀ episode ∈ current, episode.state.Rebases →
      observation.detectorStatus = .notTriggered)
    (later : ∀ episode ∈ current, ∀ last ∈ episode.lastObservedAtMs,
      last < observation.observedAtMs) :
    ∃ transition, advanceExposureEpisode contract current observation = .ok transition ∧
      Observed contract current observation transition := by
  obtain ⟨transition, accepted⟩ := exists_advance formed own armed later
  refine ⟨transition, accepted, ?_⟩
  cases EpisodeStep.of_advance accepted with
  | replayed found named cursor agrees =>
    exact absurd (later _ found _ cursor) (lt_irrefl _)
  | observed new => exact new

end Accepted

/-! ### Verdicts and their rising edges -/

/-- A close that was observed triggered, and is the first of all or follows a close that was observed not
triggered. -/
def RisingEdge (verdicts : Set (ℤ × DetectorStatus)) (close : ℤ) : Prop :=
  (close, .triggered) ∈ verdicts ∧ ∀ previous ∈ verdicts, previous.1 < close →
    (∀ other ∈ verdicts, other.1 < close → other.1 ≤ previous.1) → previous.2 = .notTriggered

section Edges

variable {verdicts : Set (ℤ × DetectorStatus)} {close edge : ℤ} {status : DetectorStatus}

/-- **A verdict on a later close** adds that close to the rising edges if it is triggered and the latest
verdicts before it are not. -/
theorem risingEdge_insert (above : ∀ verdict ∈ verdicts, verdict.1 < close) :
    RisingEdge (insert (close, status) verdicts) edge ↔ RisingEdge verdicts edge ∨
      (edge = close ∧ status = .triggered ∧ ∀ latest ∈ verdicts,
        (∀ other ∈ verdicts, other.1 ≤ latest.1) → latest.2 = .notTriggered) := by
  constructor
  · rintro ⟨triggered, before⟩
    rcases Set.mem_insert_iff.mp triggered with same | earlier
    · obtain ⟨rfl, rfl⟩ := Prod.mk.inj same
      refine .inr ⟨rfl, rfl, fun latest member last => ?_⟩
      refine before latest (Set.mem_insert_of_mem _ member) (above latest member) ?_
      intro other among below
      rcases Set.mem_insert_iff.mp among with rfl | among
      · exact absurd below (lt_irrefl _)
      · exact last other among
    · refine .inl ⟨earlier, fun previous member below last => ?_⟩
      refine before previous (Set.mem_insert_of_mem _ member) below fun other among under => ?_
      rcases Set.mem_insert_iff.mp among with rfl | among
      · exact absurd (under.trans (above _ earlier)) (lt_irrefl _)
      · exact last other among under
  · rintro (⟨triggered, before⟩ | ⟨rfl, rfl, before⟩)
    · refine ⟨Set.mem_insert_of_mem _ triggered, fun previous member below last => ?_⟩
      rcases Set.mem_insert_iff.mp member with rfl | member
      · exact absurd (below.trans (above _ triggered)) (lt_irrefl _)
      · exact before previous member below fun other among =>
          last other (Set.mem_insert_of_mem _ among)
    · refine ⟨Set.mem_insert _ _, fun previous member below last => ?_⟩
      rcases Set.mem_insert_iff.mp member with rfl | member
      · exact absurd below (lt_irrefl _)
      · exact before previous member fun other among =>
          last other (Set.mem_insert_of_mem _ among) (above other among)

end Edges

/-! ### Runs of the episode -/

/-- An observation and what it led to. -/
structure EpisodeEntry where
  observation : Observation
  transition : ExposureEpisodeTransition

/-- One observation is accepted. -/
def EpisodeAccepts (contract : RegisteredStrategyContract) (current : Option ExposureEpisodeState)
    (entry : EpisodeEntry) (next : Option ExposureEpisodeState) : Prop :=
  advanceExposureEpisode contract current entry.observation = .ok entry.transition ∧
    next = some entry.transition.current

/-- The runs from no episode. -/
def EpisodeRun (contract : RegisteredStrategyContract) (history : List EpisodeEntry)
    (current : Option ExposureEpisodeState) : Prop :=
  Run (EpisodeAccepts contract) none history current

/-- The verdict of an observation on its close. -/
def Observation.verdict (observation : Observation) : ℤ × DetectorStatus :=
  (observation.observedAtMs, observation.detectorStatus)

/-- The verdicts of a history. -/
def verdicts (history : List EpisodeEntry) : Set (ℤ × DetectorStatus) :=
  {verdict | ∃ entry ∈ history, entry.observation.verdict = verdict}

/-- The entries that opened an episode. -/
def openings (history : List EpisodeEntry) : List EpisodeEntry :=
  history.filter fun entry => entry.transition.createdNewEpisode

/-- The closes of the entries that opened an episode. -/
def openedAt (history : List EpisodeEntry) : List ℤ :=
  (openings history).map fun entry => entry.observation.observedAtMs

/-- The ids of the episodes that were opened. -/
def openedIds (history : List EpisodeEntry) : List (Option String) :=
  (openings history).map fun entry => entry.transition.current.exposureEpisodeId

theorem verdicts_snoc (history : List EpisodeEntry) (entry : EpisodeEntry) :
    verdicts (history ++ [entry]) = insert entry.observation.verdict (verdicts history) := by
  ext verdict
  simp only [verdicts, List.mem_append, List.mem_singleton, Set.mem_ofPred_eq, Set.mem_insert_iff,
    or_and_right, exists_or, exists_eq_left]
  rw [or_comm, eq_comm]

/-- The stored episode remembers the latest close of the history, and its verdict. -/
structure Follows (history : List EpisodeEntry) (episode : ExposureEpisodeState) (last : ℤ) :
    Prop where
  cursor : episode.lastObservedAtMs = some last
  among : ∃ status, (last, status) ∈ verdicts history
  latest : ∀ verdict ∈ verdicts history, verdict.1 ≤ last
  agrees : ∀ status, (last, status) ∈ verdicts history → episode.state = expectedState status

/-- What a run keeps: the verdicts are decided, the stored episode follows them, and the episodes opened
are the rising edges, in order. -/
structure Tracks (history : List EpisodeEntry) (current : Option ExposureEpisodeState) : Prop where
  decided : ∀ verdict ∈ verdicts history, verdict.2 ≠ .invalid
  unborn : current = none → history = []
  follows : ∀ episode ∈ current, ∃ last, Follows history episode last
  opened : ∀ close, close ∈ openedAt history ↔ RisingEdge (verdicts history) close
  ordered : (openedAt history).Nodup

section Tracks

variable {contract : RegisteredStrategyContract} {history : List EpisodeEntry}
  {current : Option ExposureEpisodeState} {entry : EpisodeEntry}

theorem expectedState_inj {first second : DetectorStatus} (valid : first ≠ .invalid)
    (other : second ≠ .invalid) (same : expectedState first = expectedState second) :
    first = second := by
  cases first <;> cases second <;> simp_all [expectedState]

theorem expectedState_ne_triggered {status : DetectorStatus} (valid : status ≠ .invalid) :
    expectedState status ≠ .triggered ↔ status = .notTriggered := by
  cases status <;> simp_all [expectedState]

/-- The latest verdict of a history is the one the stored episode stands for. -/
theorem Follows.status_eq {episode : ExposureEpisodeState} {last : ℤ} {status : DetectorStatus}
    (follows : Follows history episode last)
    (decided : ∀ verdict ∈ verdicts history, verdict.2 ≠ .invalid) (valid : status ≠ .invalid)
    (agrees : episode.state = expectedState status) : (last, status) ∈ verdicts history := by
  obtain ⟨other, among⟩ := follows.among
  have same := expectedState_inj (decided _ among) valid ((follows.agrees other among).symm.trans agrees)
  exact same ▸ among

theorem openedAt_snoc (history : List EpisodeEntry) (entry : EpisodeEntry) :
    openedAt (history ++ [entry]) = openedAt history ++
      if entry.transition.createdNewEpisode then [entry.observation.observedAtMs] else [] := by
  rw [openedAt, openings, List.filter_append, List.map_append]
  cases created : entry.transition.createdNewEpisode <;> simp [openedAt, openings, created]

namespace Tracks

theorem start : Tracks [] none where
  decided := by simp [verdicts]
  unborn := fun _ => rfl
  follows := fun _ found => absurd found (by simp)
  opened := by simp [openedAt, openings, RisingEdge, verdicts]
  ordered := List.nodup_nil

/-- The closes observed so far are before a later close. -/
theorem above (tracks : Tracks history current) {close : ℤ}
    (later : ∀ episode ∈ current, ∀ last ∈ episode.lastObservedAtMs, last < close) :
    ∀ verdict ∈ verdicts history, verdict.1 < close := by
  intro verdict member
  cases current with
  | none =>
    rw [tracks.unborn rfl] at member
    simp [verdicts] at member
  | some episode =>
    obtain ⟨last, follows⟩ := tracks.follows episode rfl
    exact (follows.latest verdict member).trans_lt (later episode rfl last follows.cursor)

/-- No episode is open exactly when the latest verdict, if any, is not triggered. -/
theorem idle_iff (tracks : Tracks history current) :
    (∀ episode ∈ current, episode.state ≠ .triggered) ↔ ∀ latest ∈ verdicts history,
      (∀ other ∈ verdicts history, other.1 ≤ latest.1) → latest.2 = .notTriggered := by
  cases current with
  | none =>
    rw [tracks.unborn rfl]
    simp [verdicts]
  | some episode =>
    obtain ⟨last, follows⟩ := tracks.follows episode rfl
    obtain ⟨status, among⟩ := follows.among
    constructor
    · rintro idle ⟨close, other⟩ member greatest
      obtain rfl : close = last := le_antisymm (follows.latest _ member) (greatest _ among)
      rw [← expectedState_ne_triggered (tracks.decided _ member), ← follows.agrees other member]
      exact idle episode rfl
    · rintro quiet _ ⟨⟩
      rw [follows.agrees status among, expectedState_ne_triggered (tracks.decided _ among)]
      exact quiet _ among follows.latest

/-- A repetition of the latest close keeps everything. -/
theorem replayed (tracks : Tracks history current) {observation : Observation}
    {episode : ExposureEpisodeState} (valid : observation.detectorStatus ≠ .invalid)
    (found : current = some episode)
    (cursor : episode.lastObservedAtMs = some observation.observedAtMs)
    (agrees : episode.state = expectedState observation.detectorStatus) :
    Tracks (history ++ [⟨observation, ⟨episode, false⟩⟩]) (some episode) := by
  obtain ⟨last, follows⟩ := tracks.follows episode found
  obtain rfl : last = observation.observedAtMs := Option.some.inj (follows.cursor.symm.trans cursor)
  have known := follows.status_eq tracks.decided valid agrees
  have same : verdicts (history ++ [⟨observation, ⟨episode, false⟩⟩]) = verdicts history := by
    rw [verdicts_snoc]
    exact Set.insert_eq_of_mem known
  have opened : openedAt (history ++ [⟨observation, ⟨episode, false⟩⟩]) = openedAt history := by
    simp [openedAt_snoc]
  constructor
  · rw [same]
    exact tracks.decided
  · nofun
  · rintro _ ⟨⟩
    exact ⟨_, follows.cursor, same ▸ follows.among, same ▸ follows.latest, same ▸ follows.agrees⟩
  · rw [same, opened]
    exact tracks.opened
  · rw [opened]
    exact tracks.ordered

/-- A later close is an edge exactly when it opens an episode. -/
theorem observed (tracks : Tracks history current) (valid : entry.observation.detectorStatus ≠ .invalid)
    (new : Observed contract current entry.observation entry.transition) :
    Tracks (history ++ [entry]) (some entry.transition.current) := by
  have above := tracks.above new.later
  constructor
  · rw [verdicts_snoc]
    exact Set.forall_mem_insert.mpr ⟨valid, tracks.decided⟩
  · nofun
  · rintro _ ⟨⟩
    refine ⟨_, new.cursor, ?_, ?_, ?_⟩
    · rw [verdicts_snoc]
      exact ⟨_, Set.mem_insert _ _⟩
    · rw [verdicts_snoc]
      exact Set.forall_mem_insert.mpr ⟨le_rfl, fun verdict member => (above verdict member).le⟩
    · rw [verdicts_snoc]
      rintro status member
      rcases Set.mem_insert_iff.mp member with same | earlier
      · rw [(Prod.mk.inj same).2]
        exact new.state
      · exact absurd (above _ earlier) (lt_irrefl _)
  · intro close
    rw [verdicts_snoc, Observation.verdict, risingEdge_insert above, ← tracks.idle_iff, openedAt_snoc,
      List.mem_append, tracks.opened, ← new.created]
    refine or_congr_right ?_
    split_ifs with created
    · simp [created]
    · simp [created]
  · rw [openedAt_snoc]
    split_ifs with created
    · refine List.Nodup.append tracks.ordered (List.nodup_singleton _) ?_
      rw [List.disjoint_singleton]
      intro before
      exact absurd (above _ ((tracks.opened _).mp before).1) (lt_irrefl _)
    · rw [List.append_nil]
      exact tracks.ordered

end Tracks

/-- **Every run tracks its rising edges.** -/
theorem tracks_of_run (run : EpisodeRun contract history current) : Tracks history current := by
  refine run.history_invariant Tracks .start ?_
  rintro past entry before after - tracks ⟨accepted, rfl⟩
  have valid := valid_of_advance accepted
  obtain ⟨observation, transition⟩ := entry
  cases EpisodeStep.of_advance accepted with
  | replayed found _ cursor agrees => exact tracks.replayed valid found cursor agrees
  | observed new => exact tracks.observed valid new

end Tracks

/-! ### The law -/

section Law

variable {contract : RegisteredStrategyContract} {history : List EpisodeEntry}
  {current : Option ExposureEpisodeState}

/-- The payload of the episode that an entry opens, if its close occurs when it is observed. -/
def EpisodeEntry.payload (contract : RegisteredStrategyContract) (entry : EpisodeEntry) : Canonical :=
  episodePayload contract.eventSpecId (strip entry.observation.exchangeInstrumentId)
    contract.positionSide entry.observation.observedAtMs

/-- The payloads of the opened episodes. -/
def openedPayloads (contract : RegisteredStrategyContract) (history : List EpisodeEntry) :
    Set Canonical :=
  {payload | ∃ entry ∈ openings history, entry.payload contract = payload}

/-- The opened episode has the digest of its time as its id. -/
def OpenedUnderDigest (contract : RegisteredStrategyContract) (entry : EpisodeEntry) : Prop :=
  ∃ occurredAtMs, entry.observation.detectorStatus = .triggered ∧
    entry.observation.occurredAtMs = some occurredAtMs ∧
    entry.transition.current.exposureEpisodeId = some ("episode:" ++ hexDigest (render
      (episodePayload contract.eventSpecId (strip entry.observation.exchangeInstrumentId)
        contract.positionSide occurredAtMs)))

/-- Every episode is opened under the digest of its time. -/
theorem opened_under_digest (run : EpisodeRun contract history current) :
    ∀ entry ∈ openings history, OpenedUnderDigest contract entry := by
  refine run.history_invariant (fun past _ => ∀ entry ∈ openings past,
    OpenedUnderDigest contract entry) (fun _ member => absurd member List.not_mem_nil) ?_
  rintro past entry before after - known ⟨accepted, -⟩ other member
  rw [openings, List.filter_append, List.mem_append] at member
  rcases member with earlier | last
  · exact known other earlier
  · obtain ⟨among, created⟩ := List.mem_filter.mp last
    obtain rfl := List.mem_singleton.mp among
    obtain ⟨observation, transition⟩ := other
    cases EpisodeStep.of_advance accepted with
    | replayed => exact Bool.noConfusion created
    | observed new =>
      obtain ⟨occurred, time, identity⟩ := new.identity created
      exact ⟨occurred, (new.created.mp created).1, time, identity⟩

/-- The id of an episode opened when its close occurs. -/
theorem identity_of_opening (run : EpisodeRun contract history current)
    (timed : ∀ entry ∈ history, entry.observation.detectorStatus = .triggered →
      entry.observation.occurredAtMs = some entry.observation.observedAtMs)
    {entry : EpisodeEntry} (member : entry ∈ openings history) :
    entry.transition.current.exposureEpisodeId =
      some ("episode:" ++ hexDigest (render (entry.payload contract))) := by
  have among := (List.mem_filter.mp member).1
  obtain ⟨occurred, triggered, time, named⟩ := opened_under_digest run entry member
  obtain rfl := Option.some.inj ((timed entry among triggered).symm.trans time)
  exact named

/-- Payloads of different closes differ. -/
theorem observedAtMs_of_payload {first second : EpisodeEntry}
    (same : first.payload contract = second.payload contract) :
    first.observation.observedAtMs = second.observation.observedAtMs := by
  simp only [EpisodeEntry.payload, episodePayload, Canonical.object.injEq, List.cons.injEq,
    Prod.mk.injEq, Canonical.integer.injEq] at same
  exact same.2.2.2.1.2

/-- Episodes opened at different closes have different ids, as long as the digest separates their
payloads. -/
theorem openedIds_nodup (run : EpisodeRun contract history current)
    (timed : ∀ entry ∈ history, entry.observation.detectorStatus = .triggered →
      entry.observation.occurredAtMs = some entry.observation.observedAtMs)
    (separates : Set.InjOn (fun payload => hexDigest (render payload))
      (openedPayloads contract history)) : (openedIds history).Nodup := by
  rw [openedIds, List.Nodup, List.pairwise_map]
  refine (List.pairwise_map.mp (tracks_of_run run).ordered).imp_of_mem ?_
  intro first second one two different same
  rw [identity_of_opening run timed one, identity_of_opening run timed two, Option.some.injEq,
    String.append_right_inj] at same
  have known : first.payload contract ∈ openedPayloads contract history := ⟨first, one, rfl⟩
  have other : second.payload contract ∈ openedPayloads contract history := ⟨second, two, rfl⟩
  exact different (observedAtMs_of_payload (separates known other same))

/-- **Exposure episodes are the rising edges of the closes.** Along every run from no episode whose
triggered closes occur when they are observed, one episode opens for each rising edge, and under ids
that differ where the digest separates their payloads; at the end the latest close can be repeated with
the same verdict and changes nothing, and anything else that is accepted is a later close. -/
theorem episodes_are_rising_edges (run : EpisodeRun contract history current)
    (timed : ∀ entry ∈ history, entry.observation.detectorStatus = .triggered →
      entry.observation.occurredAtMs = some entry.observation.observedAtMs) :
    (openings history).length = {close | RisingEdge (verdicts history) close}.ncard ∧
      (Set.InjOn (fun payload => hexDigest (render payload)) (openedPayloads contract history) →
        (openedIds history).Nodup) ∧
      ∀ latest, history.getLast? = some latest → ∃ episode, current = some episode ∧
        advanceExposureEpisode contract current latest.observation = .ok ⟨episode, false⟩ ∧
        ∀ again transition, advanceExposureEpisode contract current again = .ok transition →
          (again.verdict = latest.observation.verdict ∧ transition = ⟨episode, false⟩) ∨
            latest.observation.observedAtMs < again.observedAtMs := by
  have tracks := tracks_of_run run
  refine ⟨?_, openedIds_nodup run timed, fun latest last => ?_⟩
  · have edges : {close | RisingEdge (verdicts history) close} = {close | close ∈ openedAt history} :=
      Set.ext fun close => (tracks.opened close).symm
    rw [edges, ← List.coe_toFinset, Set.ncard_coe_finset, List.toFinset_card_of_nodup tracks.ordered,
      openedAt, List.length_map]
  · obtain ⟨past, rfl⟩ := List.getLast?_eq_some_iff.mp last
    obtain ⟨middle, before, accepted, rfl⟩ := Run.snoc_iff.mp run
    refine ⟨_, rfl, advance_again accepted, fun again transition repeated => ?_⟩
    obtain ⟨cursor, state⟩ := cursor_of_advance accepted
    cases EpisodeStep.of_advance repeated with
    | replayed found named seen agrees =>
      obtain rfl := Option.some.inj found
      have same := expectedState_inj (valid_of_advance repeated) (valid_of_advance accepted)
        (agrees.symm.trans state)
      exact .inl ⟨Prod.ext (Option.some.inj (seen.symm.trans cursor)) same, rfl⟩
    | observed new => exact .inr (new.later _ rfl _ cursor)

end Law

/-! ### A concrete history -/

/-- The contract of a rising-edge event. -/
def sampleContract : RegisteredStrategyContract where
  strategyGroupId := .ofSolid "g" (Text.solid_of_all (by decide)) (by decide)
  eventSpecId := .ofSolid "e" (Text.solid_of_all (by decide)) (by decide)
  positionSide := .long
  episodePolicy := .risingEdge

/-- A close of the sample history: triggered at the odd hours. -/
def sampleObservation (hour : ℤ) : Observation where
  detectorStatus := if hour % 2 = 1 then .triggered else .notTriggered
  occurredAtMs := if hour % 2 = 1 then some hour else none
  observedAtMs := hour
  exchangeInstrumentId := "A"

theorem wellFormed_sampleObservation {hour : ℤ} (positive : 0 < hour) :
    WellFormed sampleContract (sampleObservation hour) where
  policy := rfl
  valid := by
    simp only [sampleObservation]
    split_ifs <;> decide
  positive := positive
  instrument := (by decide : ¬ Blank "A")
  occurred := by
    intro triggered
    simp only [sampleObservation] at triggered ⊢
    split_ifs at triggered ⊢ with odd
    exact ⟨hour, rfl, positive⟩
  unoccurred := by
    intro quiet
    simp only [sampleObservation] at quiet ⊢
    split_ifs at quiet ⊢ with odd
    rfl

/-- The next hour of the sample history is accepted. -/
theorem exists_sample_step {current : Option ExposureEpisodeState}
    {transition : ExposureEpisodeTransition} {hour : ℤ} (positive : 0 < hour)
    (new : Observed sampleContract current (sampleObservation hour) transition) :
    ∃ next, advanceExposureEpisode sampleContract (some transition.current)
        (sampleObservation (hour + 1)) = .ok next ∧
      Observed sampleContract (some transition.current) (sampleObservation (hour + 1)) next := by
  refine exists_observed (wellFormed_sampleObservation (by omega)) ?_ ?_ ?_
  · rintro _ ⟨⟩
    exact new.named
  · rintro _ ⟨⟩ rebases
    rw [new.state, expectedState] at rebases
    split_ifs at rebases <;> exact absurd rebases (by decide)
  · rintro _ ⟨⟩ last cursor
    obtain rfl := Option.some.inj (new.cursor.symm.trans cursor)
    exact lt_add_one hour

/-- The digest separates the first and the third hour. -/
theorem sample_digests_differ :
    hexDigest (render (episodePayload sampleContract.eventSpecId (strip "A") .long 1)) ≠
      hexDigest (render (episodePayload sampleContract.eventSpecId (strip "A") .long 3)) := by
  decide +kernel

/-- The law on a history that rises twice. -/
theorem episodes_are_rising_edges_of_sample : ∃ history current,
    EpisodeRun sampleContract history current ∧
      {close | RisingEdge (verdicts history) close}.ncard = 2 ∧ (openedIds history).Nodup := by
  obtain ⟨first, firstAccepted, firstNew⟩ : ∃ transition,
      advanceExposureEpisode sampleContract none (sampleObservation 1) = .ok transition ∧
        Observed sampleContract none (sampleObservation 1) transition :=
    exists_observed (wellFormed_sampleObservation one_pos) (by simp) (by simp) (by simp)
  obtain ⟨second, secondAccepted, secondNew⟩ := exists_sample_step one_pos firstNew
  obtain ⟨third, thirdAccepted, thirdNew⟩ := exists_sample_step (by decide) secondNew
  have rises : first.createdNewEpisode = true := firstNew.created.mpr ⟨by decide, by simp⟩
  have falls : second.createdNewEpisode = false :=
    Bool.eq_false_iff.mpr fun created => absurd (secondNew.created.mp created).1 (by decide)
  have risesAgain : third.createdNewEpisode = true := by
    refine thirdNew.created.mpr ⟨by decide, ?_⟩
    rintro _ ⟨⟩
    rw [secondNew.state]
    decide
  let history : List EpisodeEntry := [⟨sampleObservation 1, first⟩,
    ⟨sampleObservation (1 + 1), second⟩, ⟨sampleObservation (1 + 1 + 1), third⟩]
  have run : EpisodeRun sampleContract history (some third.current) :=
    Run.cons_iff.mpr ⟨_, ⟨firstAccepted, rfl⟩, Run.cons_iff.mpr ⟨_, ⟨secondAccepted, rfl⟩,
      Run.cons_iff.mpr ⟨_, ⟨thirdAccepted, rfl⟩, .nil⟩⟩⟩
  have opened : openings history =
      [⟨sampleObservation 1, first⟩, ⟨sampleObservation (1 + 1 + 1), third⟩] := by
    simp [openings, history, rises, falls, risesAgain]
  have timed : ∀ entry ∈ history, entry.observation.detectorStatus = .triggered →
      entry.observation.occurredAtMs = some entry.observation.observedAtMs := by
    have sampled (hour : ℤ) (triggered : (sampleObservation hour).detectorStatus = .triggered) :
        (sampleObservation hour).occurredAtMs = some (sampleObservation hour).observedAtMs := by
      simp only [sampleObservation] at triggered ⊢
      split_ifs at triggered ⊢
      rfl
    simp only [history, List.forall_mem_cons]
    exact ⟨sampled 1, sampled _, sampled _, by simp⟩
  obtain ⟨counted, distinct, -⟩ := episodes_are_rising_edges run timed
  refine ⟨history, _, run, ?_, distinct ?_⟩
  · rw [← counted, opened]
    rfl
  · rintro _ ⟨one, oneOpened, rfl⟩ _ ⟨two, twoOpened, rfl⟩ same
    rw [opened] at oneOpened twoOpened
    simp only [List.mem_cons, List.not_mem_nil, or_false] at oneOpened twoOpened
    rcases oneOpened with rfl | rfl <;> rcases twoOpened with rfl | rfl
    · rfl
    · exact absurd same sample_digests_differ
    · exact absurd same.symm sample_digests_differ
    · rfl

end TradingKernel.Recovery
