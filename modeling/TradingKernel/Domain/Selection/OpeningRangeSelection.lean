/-
**The opening-range selections are canonical and exact.**

Where the decimal context holds the numbers of all 24 windows, both selections return, whatever the
order of the windows: the members that qualify have the ranks from one on, in the order of their width
over the true range, then of their volume from the largest, then of their instrument, and the first
seven are selected (`opening_range_selection`).
-/

import TradingKernel.Domain.Selection.DynamicSelection
import TradingKernel.Domain.Selection.OpeningRangeDecisions
import TradingKernel.Domain.Selection.Validity

namespace TradingKernel.Selection

open Text Guard CanonicalJson SortBy Decimal
open Authority (intervalMs orbSelectionSpecId)
open Detectors (dayMs)

/-! ### The ranking -/

section Ranking

variable {features : List OpeningRangeSelectionFeatures} {feature : OpeningRangeSelectionFeatures}

/-- The instrument of features. -/
def instrumentOf (feature : OpeningRangeSelectionFeatures) : String :=
  feature.window.exchangeInstrumentId

/-- The key of a ranking, with the volume negated exactly. -/
def exactKey (ratio volume : ℚ) (exchangeInstrumentId : String) : RankKey :=
  toLex (ratio, toLex (-volume, exchangeInstrumentId))

def featureKey (feature : OpeningRangeSelectionFeatures) : RankKey :=
  exactKey feature.ratio feature.trailingVolume (instrumentOf feature)

/-- The features that qualify. -/
def qualified (features : List OpeningRangeSelectionFeatures) : List OpeningRangeSelectionFeatures :=
  features.filter fun feature => feature.reason = none

/-- The instruments that qualify, in the order of their keys. -/
def ranked (features : List OpeningRangeSelectionFeatures) : List String :=
  (sortBy featureKey (qualified features)).map instrumentOf

/-- The sorted keys of items are the keys of the sorted items. -/
theorem map_sortBy {ι κ : Type*} [LinearOrder κ] (key : ι → κ) (items : List ι) :
    (sortBy key items).map key = sortBy (fun own : κ => own) (items.map key) := by
  unfold sortBy
  exact List.map_insertionSort _ _ _ _ fun _ _ _ _ => Iff.rfl

/-- **The ranking is that by the exact keys**: the negation of a volume is not rounded. -/
theorem readyIds_eq_ok
    (settled : ∀ feature ∈ features, decimalContext.Settled feature.trailingVolume) :
    readyIds features = .ok (ranked features) := by
  have keyed : (qualified features).mapM rankKey = .ok ((qualified features).map featureKey) := by
    rw [mapM_eq_ok_iff, List.map_map]
    refine List.map_congr_left fun feature member => ?_
    have negated := (settled feature (List.mem_of_mem_filter member)).neg
    unfold rankKey
    rw [negated]
    rfl
  unfold readyIds
  show ((qualified features).mapM rankKey >>= _) = _
  rw [keyed]
  show Except.ok _ = Except.ok _
  rw [← map_sortBy, List.map_map]
  rfl

theorem instruments_nodup_of_filter (distinct : (features.map instrumentOf).Nodup) :
    ((qualified features).map instrumentOf).Nodup :=
  distinct.sublist (List.filter_sublist.map _)

theorem featureKeys_nodup {items : List OpeningRangeSelectionFeatures}
    (distinct : (items.map instrumentOf).Nodup) : (items.map featureKey).Nodup := by
  refine List.Nodup.of_map (fun key : RankKey => (ofLex (ofLex key).2).2) ?_
  rw [List.map_map]
  exact distinct

/-- Distinct instruments have distinct ranks, one after the other. -/
theorem map_rankOf {ids : List String} (distinct : ids.Nodup) :
    ids.map (rankOf ids) = (List.range ids.length).map fun index : ℕ => some ((index : ℤ) + 1) := by
  refine List.ext_getElem (by simp) fun index inIds _ => ?_
  rw [List.length_map] at inIds
  rw [List.getElem_map, List.getElem_map, List.getElem_range]
  unfold rankOf
  have found : ids.idxOf? ids[index] = some index := by
    refine List.idxOf?_eq_some_iff.mpr ⟨inIds, rfl, fun other before same => ?_⟩
    exact before.ne (distinct.getElem_inj_iff.mp same)
  rw [found]
  rfl

theorem rankOf_eq_none {ids : List String} {id : String} (absent : id ∉ ids) :
    rankOf ids id = none := by
  unfold rankOf
  rw [List.idxOf?_eq_none_iff.mpr absent]
  rfl

theorem exists_rankOf {ids : List String} {id : String} (member : id ∈ ids) :
    ∃ position, rankOf ids id = some position ∧ 1 ≤ position ∧ position ≤ ids.length := by
  obtain ⟨index, found⟩ := Option.isSome_iff_exists.mp (List.isSome_idxOf?.mpr member)
  obtain ⟨inIds, -⟩ := List.idxOf?_eq_some_iff.mp found
  refine ⟨index + 1, ?_, by omega, by omega⟩
  unfold rankOf
  rw [found]
  rfl

theorem rankOf_le {ids : List String} {id : String} {position : ℤ}
    (isRank : rankOf ids id = some position) : position ≤ ids.length := by
  obtain ⟨index, found, rfl⟩ := Option.map_eq_some_iff.mp isRank
  obtain ⟨inIds, -⟩ := List.idxOf?_eq_some_iff.mp found
  omega

/-- The features that qualify have ranks, and the others have none. -/
theorem suits_of_member (distinct : (features.map instrumentOf).Nodup)
    (few : features.length ≤ 24) (member : feature ∈ features) :
    RankSuits feature.reason (rankOf (ranked features) (instrumentOf feature)) := by
  have inRanked : instrumentOf feature ∈ ranked features ↔ feature.reason = none := by
    unfold ranked
    constructor
    · intro listed
      obtain ⟨other, inOther, same⟩ := List.mem_map.mp listed
      obtain ⟨inFeatures, isReady⟩ := List.mem_filter.mp (mem_sortBy.mp inOther)
      obtain rfl := List.inj_on_of_nodup_map distinct inFeatures member same
      exact of_decide_eq_true isReady
    · intro qualifies
      refine List.mem_map_of_mem (mem_sortBy.mpr (List.mem_filter.mpr ⟨member, ?_⟩))
      exact decide_eq_true qualifies
  have size : (ranked features).length ≤ 24 := by
    unfold ranked
    rw [List.length_map, length_sortBy]
    exact (List.length_filter_le _ _).trans few
  cases reason : feature.reason with
  | some why =>
      refine rankOf_eq_none fun listed => ?_
      rw [inRanked.mp listed] at reason
      cases reason
  | none =>
      obtain ⟨position, isRank, first, last⟩ := exists_rankOf (inRanked.mpr reason)
      exact ⟨position, isRank, first, by omega⟩

end Ranking

/-! ### The decisions of the core -/

section Core

variable {windows : List SelectionSourceWindow} {features : List OpeningRangeSelectionFeatures}
  {snapshotId specId : String} {startMs cutoffMs : ℤ}

/-- What the core does for the features of one instrument. -/
def decisionOf (snapshotId specId : String) (startMs cutoffMs : ℤ) (ready : List String)
    (feature : OpeningRangeSelectionFeatures) : Except String SelectionMemberDecision := do
  let digest ← feature.window.inputWindowDigest
  buildSelectionMemberDecision snapshotId specId startMs cutoffMs feature.window.inputWindowStartMs
    (instrumentOf feature) digest feature.orHigh feature.orLow feature.preOrAtr14
    feature.trailingVolume (rankOf ready (instrumentOf feature))
    (memberStateOf feature.reason (rankOf ready (instrumentOf feature))) feature.reason

theorem candidateIds_stripped : ∀ id ∈ candidateIds, strip id = id := by
  decide

/-- The candidates, as the instruments of features in their order. -/
theorem instruments_sortBy (members : (features.map instrumentOf).Perm candidateIds) :
    (sortBy instrumentOf features).map instrumentOf = candidateIds := by
  rw [map_sortBy]
  rw [sortBy_eq_of_perm members (by simpa using candidateIds_nodup)]
  exact sortBy_eq_self candidateIds_sorted

theorem mapM_congr_of_mem {α β : Type} {f g : α → Except String β} {items : List α}
    (same : ∀ item ∈ items, f item = g item) : items.mapM f = items.mapM g := by
  induction items with
  | nil => rfl
  | cons item items ih =>
      rw [List.mapM_cons, List.mapM_cons, same item List.mem_cons_self,
        ih fun other member => same other (List.mem_cons_of_mem _ member)]

/-- **The core decides the features of the candidates, one after the other.** -/
theorem compute_eq (measured : windows.mapM openingRangeFeatures = .ok features)
    (members : (features.map instrumentOf).Perm candidateIds)
    (settled : ∀ feature ∈ features, decimalContext.Settled feature.trailingVolume) :
    computeOpeningRangeMemberDecisions windows snapshotId specId startMs cutoffMs = (do
      let decisions ← (sortBy instrumentOf features).mapM
        (decisionOf snapshotId specId startMs cutoffMs (ranked features))
      return (decisions, (ranked features).length)) := by
  have distinct : (features.map instrumentOf).Nodup := members.nodup_iff.mpr candidateIds_nodup
  have found {feature : OpeningRangeSelectionFeatures} (member : feature ∈ features) :
      features.find? (fun other => other.window.exchangeInstrumentId = instrumentOf feature) =
        some feature := (find?_key_eq_some distinct).mpr ⟨member, rfl⟩
  unfold computeOpeningRangeMemberDecisions
  rw [measured, ok_bind, readyIds_eq_ok settled, ok_bind, ← instruments_sortBy members, List.mapM_map]
  congr 1
  refine mapM_congr_of_mem fun feature member => ?_
  rw [Function.comp_apply, found (mem_sortBy.mp member)]
  rfl

/-- Every part of the core returns, and what it returns is of the features that it read. -/
theorem exists_decisions (digested : ∀ feature ∈ features, Measured feature.window feature ∧
      ∃ digest, feature.window.inputWindowDigest = .ok digest)
    (members : (features.map instrumentOf).Perm candidateIds)
    (snapshotText : strip snapshotId = snapshotId ∧ snapshotId ≠ "")
    (specText : strip specId = specId ∧ specId ≠ "")
    (midnight : 0 < startMs ∧ startMs % dayMs = 0) (cutoff : cutoffMs = startMs + hourMs)
    (starts : ∀ feature ∈ features, feature.window.inputWindowStartMs = startMs - 23 * hourMs) :
    ∃ decisions, (sortBy instrumentOf features).mapM
        (decisionOf snapshotId specId startMs cutoffMs (ranked features)) = .ok decisions ∧
      List.Forall₂ (fun feature decision => DecidedFrom feature snapshotId specId startMs
        (rankOf (ranked features) (instrumentOf feature)) decision)
        (sortBy instrumentOf features) decisions := by
  have distinct : (features.map instrumentOf).Nodup := members.nodup_iff.mpr candidateIds_nodup
  have few : features.length ≤ 24 := by
    have size := members.length_eq
    rw [List.length_map, candidateIds_length] at size
    exact size.le
  have decided (feature : OpeningRangeSelectionFeatures) (member : feature ∈ features) :
      ∃ decision, decisionOf snapshotId specId startMs cutoffMs (ranked features) feature =
          .ok decision ∧ DecidedFrom feature snapshotId specId startMs
            (rankOf (ranked features) (instrumentOf feature)) decision := by
    obtain ⟨measured, digest, isDigest⟩ := digested feature member
    have instrument : instrumentOf feature ∈ candidateIds :=
      members.mem_iff.mp (List.mem_map_of_mem member)
    obtain ⟨decision, built, isFrom⟩ := exists_decision measured isDigest snapshotText specText
      (candidateIds_stripped _ instrument) midnight cutoff (starts feature member)
      (suits_of_member distinct few member)
    refine ⟨decision, ?_, isFrom⟩
    unfold decisionOf
    rw [isDigest, ok_bind]
    exact built
  have returns : ∀ feature ∈ sortBy instrumentOf features, ∃ decision,
      decisionOf snapshotId specId startMs cutoffMs (ranked features) feature = .ok decision := by
    intro feature member
    obtain ⟨decision, built, -⟩ := decided feature (mem_sortBy.mp member)
    exact ⟨decision, built⟩
  obtain ⟨decisions, returned⟩ := exists_mapM_eq_ok returns
  refine ⟨decisions, returned, ?_⟩
  have results := mapM_eq_ok_iff.mp returned
  rw [List.forall₂_iff_get]
  have length : (sortBy instrumentOf features).length = decisions.length := by
    simpa using congrArg List.length results
  refine ⟨length, fun index inFeatures inDecisions => ?_⟩
  have member : (sortBy instrumentOf features).get ⟨index, inFeatures⟩ ∈ features :=
    mem_sortBy.mp (List.get_mem _ _)
  obtain ⟨decision, isDecision, isFrom⟩ := decided _ member
  have same : decisionOf snapshotId specId startMs cutoffMs (ranked features)
      ((sortBy instrumentOf features).get ⟨index, inFeatures⟩) =
        .ok (decisions.get ⟨index, inDecisions⟩) := by
    have atIndex := congrArg (fun results => results[index]?) results
    simpa [List.getElem?_map, inFeatures, inDecisions] using atIndex
  obtain rfl := Except.ok.inj (isDecision.symm.trans same)
  exact isFrom

end Core

/-! ### What the decisions say -/

section Surface

/-- The order of the ranking: the width over the true range ascending, the volume descending, the
instrument ascending. -/
def RangeRanksBefore (first second : SelectionMemberDecision) : Prop :=
  first.preOrWidthAtr14 < second.preOrWidthAtr14 ∨
    (first.preOrWidthAtr14 = second.preOrWidthAtr14 ∧
      (second.trailing24hQuoteVolume < first.trailing24hQuoteVolume ∨
        (first.trailing24hQuoteVolume = second.trailing24hQuoteVolume ∧
          first.exchangeInstrumentId < second.exchangeInstrumentId)))

/-- Decisions that rank the windows of the candidates exactly. -/
structure RankedDecisions (windows : List SelectionSourceWindow)
    (decisions : List SelectionMemberDecision) (readyCount : ℕ) : Prop where
  members : decisions.map (·.exchangeInstrumentId) = candidateIds
  measured : ∀ decision ∈ decisions, ∃ window ∈ windows, ∃ feature,
    openingRangeFeatures window = .ok feature ∧
      decision.exchangeInstrumentId = window.exchangeInstrumentId ∧
      decision.orHigh = feature.orHigh ∧ decision.orLow = feature.orLow ∧
      decision.preOrAtr14 = feature.preOrAtr14 ∧ decision.preOrWidthAtr14 = feature.ratio ∧
      decision.trailing24hQuoteVolume = feature.trailingVolume
  qualified : ∀ decision ∈ decisions, decision.selectionReady = true ↔
    decision.orLow < decision.orHigh ∧ 0 < decision.preOrAtr14 ∧
      activityFloorQuoteUsdt ≤ decision.trailing24hQuoteVolume
  unranked : ∀ decision ∈ decisions, decision.selectionReady = false → decision.stableRank = none
  ranked : ∃ ranking : List SelectionMemberDecision, ranking.Perm (decisions.filter (·.selectionReady)) ∧
    ranking.Pairwise RangeRanksBefore ∧
    ranking.map (·.stableRank) = (List.range readyCount).map fun index : ℕ => some ((index : ℤ) + 1)
  selected : ∀ decision ∈ decisions, decision.selected = true ↔
    ∃ rank ∈ decision.stableRank, rank ≤ min 7 readyCount

def decisionKey (decision : SelectionMemberDecision) : RankKey :=
  exactKey decision.preOrWidthAtr14 decision.trailing24hQuoteVolume decision.exchangeInstrumentId

theorem rangeRanksBefore_of_key {first second : SelectionMemberDecision}
    (before : decisionKey first < decisionKey second) : RangeRanksBefore first second := by
  unfold decisionKey exactKey at before
  rw [Prod.Lex.toLex_lt_toLex] at before
  rcases before with narrower | ⟨sameRatio, before⟩
  · exact .inl narrower
  · rw [Prod.Lex.toLex_lt_toLex, neg_lt_neg_iff] at before
    refine .inr ⟨sameRatio, ?_⟩
    rcases before with larger | ⟨sameVolume, before⟩
    · exact .inl larger
    · exact .inr ⟨neg_inj.mp sameVolume, before⟩

/-- Two lists whose entries agree on a test and a reading have the same readings of those that pass. -/
theorem map_filter_of_forall₂ {α β γ : Type*} {R : α → β → Prop} {p : α → Bool} {q : β → Bool}
    {f : α → γ} {g : β → γ} {first : List α} {second : List β} (related : List.Forall₂ R first second)
    (agree : ∀ a b, R a b → p a = q b ∧ f a = g b) :
    (first.filter p).map f = (second.filter q).map g := by
  induction related with
  | nil => rfl
  | @cons a b first second isRelated _ ih =>
      obtain ⟨test, reading⟩ := agree a b isRelated
      rw [List.filter_cons, List.filter_cons, test]
      split_ifs
      · rw [List.map_cons, List.map_cons, reading, ih]
      · exact ih

variable {windows : List SelectionSourceWindow} {features : List OpeningRangeSelectionFeatures}
  {decisions : List SelectionMemberDecision} {snapshotId specId : String} {startMs : ℤ}

/-- **The decisions of the core rank the windows exactly.** -/
theorem rankedDecisions_of_decided (measured : windows.mapM openingRangeFeatures = .ok features)
    (members : (features.map instrumentOf).Perm candidateIds)
    (decided : List.Forall₂ (fun feature decision => DecidedFrom feature snapshotId specId startMs
        (rankOf (ranked features) (instrumentOf feature)) decision)
      (sortBy instrumentOf features) decisions) :
    RankedDecisions windows decisions (ranked features).length := by
  have distinct : (features.map instrumentOf).Nodup := members.nodup_iff.mpr candidateIds_nodup
  have ids : decisions.map (·.exchangeInstrumentId) = candidateIds := by
    have same := map_filter_of_forall₂ (p := fun _ => true) (q := fun _ => true) (f := instrumentOf)
      (g := fun decision : SelectionMemberDecision => decision.exchangeInstrumentId) decided
      fun feature decision isFrom => ⟨rfl, isFrom.exchangeInstrumentId.symm⟩
    rw [List.filter_true, List.filter_true] at same
    rw [← same, instruments_sortBy members]
  have source (decision : SelectionMemberDecision) (member : decision ∈ decisions) :
      ∃ feature ∈ features, DecidedFrom feature snapshotId specId startMs
        (rankOf (ranked features) (instrumentOf feature)) decision := by
    obtain ⟨index, inDecisions, rfl⟩ := List.getElem_of_mem member
    have inFeatures : index < (sortBy instrumentOf features).length := by
      rw [decided.length_eq]
      exact inDecisions
    exact ⟨_, mem_sortBy.mp (List.getElem_mem inFeatures), decided.get inFeatures inDecisions⟩
  have ready (feature : OpeningRangeSelectionFeatures) (decision : SelectionMemberDecision)
      (isFrom : DecidedFrom feature snapshotId specId startMs
        (rankOf (ranked features) (instrumentOf feature)) decision) :
      decide (feature.reason = none) = decision.selectionReady ∧
        featureKey feature = decisionKey decision := by
    refine ⟨isFrom.ready.symm, ?_⟩
    unfold featureKey decisionKey instrumentOf
    rw [isFrom.ratio, isFrom.volume, isFrom.exchangeInstrumentId]
  have few : features.length ≤ 24 := by
    have size := members.length_eq
    rw [List.length_map, candidateIds_length] at size
    exact size.le
  -- the keys of the decisions that are ready are those of the features that qualify
  have keys : (sortBy decisionKey (decisions.filter (·.selectionReady))).map decisionKey =
      (sortBy featureKey (qualified features)).map featureKey := by
    rw [map_sortBy, map_sortBy, ← map_filter_of_forall₂ decided ready]
    refine sortBy_eq_of_perm ?_ ?_
    · exact (sortBy_perm.filter _).map featureKey
    · rw [List.map_id']
      exact featureKeys_nodup (instruments_nodup_of_filter distinct)
  have order : (sortBy decisionKey (decisions.filter (·.selectionReady))).map
      (·.exchangeInstrumentId) = ranked features := by
    have instruments := congrArg (List.map fun key : RankKey => (ofLex (ofLex key).2).2) keys
    rw [List.map_map, List.map_map] at instruments
    exact instruments
  have rankedDistinct : (ranked features).Nodup := by
    unfold ranked
    refine (sortBy_perm.map instrumentOf).nodup_iff.mpr ?_
    exact instruments_nodup_of_filter distinct
  constructor
  · exact ids
  · intro decision member
    obtain ⟨feature, inFeatures, isFrom⟩ := source decision member
    obtain ⟨window, inWindows, returned⟩ := exists_of_mem_mapM measured inFeatures
    refine ⟨window, inWindows, feature, returned, ?_, isFrom.range.1, isFrom.range.2,
      isFrom.preOrAtr14, isFrom.ratio, isFrom.volume⟩
    rw [isFrom.exchangeInstrumentId, (measured_of_features returned).window_eq]
  · intro decision member
    obtain ⟨feature, inFeatures, isFrom⟩ := source decision member
    obtain ⟨window, -, returned⟩ := exists_of_mem_mapM measured inFeatures
    rw [isFrom.ready, decide_eq_true_eq, (measured_of_features returned).reason,
      primaryReason_eq_none, Bool.and_eq_true, Bool.and_eq_true, decide_eq_true_eq,
      decide_eq_true_eq, decide_eq_true_eq, isFrom.range.1, isFrom.range.2, isFrom.preOrAtr14,
      isFrom.volume, and_assoc]
  · intro decision member unready
    obtain ⟨feature, inFeatures, isFrom⟩ := source decision member
    have suits := suits_of_member distinct few inFeatures
    rw [isFrom.ready, decide_eq_false_iff_not] at unready
    rw [isFrom.stableRank]
    cases reason : feature.reason with
    | none => exact absurd reason unready
    | some why =>
        rw [reason] at suits
        exact suits
  · refine ⟨sortBy decisionKey (decisions.filter (·.selectionReady)), sortBy_perm, ?_, ?_⟩
    · have apart : ((decisions.filter (·.selectionReady)).map decisionKey).Nodup := by
        refine List.Nodup.of_map (fun key : RankKey => (ofLex (ofLex key).2).2) ?_
        rw [List.map_map]
        have sublist := (List.filter_sublist (p := (·.selectionReady)) (l := decisions)).map
          (·.exchangeInstrumentId)
        rw [ids] at sublist
        exact candidateIds_nodup.sublist sublist
      exact (strict_sortBy apart).imp fun before => rangeRanksBefore_of_key before
    · have ranks : ∀ decision ∈ sortBy decisionKey (decisions.filter (·.selectionReady)),
          decision.stableRank = rankOf (ranked features) decision.exchangeInstrumentId := by
        intro decision member
        obtain ⟨feature, -, isFrom⟩ := source decision
          (List.mem_of_mem_filter (mem_sortBy.mp member))
        rw [isFrom.stableRank, isFrom.exchangeInstrumentId]
        rfl
      rw [List.map_congr_left ranks, ← map_rankOf rankedDistinct, ← order, List.map_map]
      rfl
  · intro decision member
    obtain ⟨feature, inFeatures, isFrom⟩ := source decision member
    have suits := suits_of_member distinct few inFeatures
    rw [isFrom.selected, decide_eq_true_eq, isFrom.stableRank]
    cases reason : feature.reason with
    | some why =>
        rw [reason] at suits
        have unranked : rankOf (ranked features) (instrumentOf feature) = none := suits
        rw [unranked]
        constructor
        · intro state
          cases state
        · rintro ⟨position, ⟨⟩, -⟩
    | none =>
        rw [reason] at suits
        obtain ⟨position, isRank, first, -⟩ := suits
        have last := rankOf_le isRank
        rw [isRank]
        unfold memberStateOf
        rw [if_neg (not_not.mpr rfl)]
        dsimp only
        constructor
        · intro state
          have atTop : position ≤ 7 := by
            by_contra beyond
            rw [if_neg beyond] at state
            split_ifs at state
          refine ⟨position, rfl, ?_⟩
          push_cast
          exact le_min atTop last
        · rintro ⟨other, isOther, atTop⟩
          obtain rfl := Option.some.inj isOther
          push_cast at atTop
          exact if_pos (atTop.trans (min_le_left _ _))

end Surface

/-! ### Every order of the windows -/

section Windows

variable {windows : List SelectionSourceWindow} {snapshotId specId : String} {period : SelectionPeriod}

/-- Windows of the candidates for a period, whose numbers the decimal context holds. -/
structure CandidateWindows (period : SelectionPeriod) (windows : List SelectionSourceWindow) :
    Prop where
  members : (windows.map (·.exchangeInstrumentId)).Perm candidateIds
  shown : ∀ window ∈ windows, period.Shows window

theorem CandidateWindows.of_perm (candidates : CandidateWindows period windows)
    {other : List SelectionSourceWindow} (perm : other.Perm windows) : CandidateWindows period other :=
  ⟨(perm.map _).trans candidates.members, fun window member =>
    candidates.shown window (perm.mem_iff.mp member)⟩

/-- The checks of the windows pass. -/
theorem CandidateWindows.sorted (candidates : CandidateWindows period windows) :
    sortBy (fun id : String => id) (windows.map (·.exchangeInstrumentId)) = candidateIds := by
  rw [sortBy_eq_of_perm candidates.members (by simpa using candidateIds_nodup)]
  exact sortBy_eq_self candidateIds_sorted

/-- The ranking of features does not depend on their order. -/
theorem ranked_perm {features other : List OpeningRangeSelectionFeatures} (perm : other.Perm features)
    (distinct : (features.map instrumentOf).Nodup) : ranked other = ranked features := by
  unfold ranked
  have perm' : (qualified other).Perm (qualified features) := perm.filter _
  rw [sortBy_eq_of_perm perm' (featureKeys_nodup (instruments_nodup_of_filter distinct))]

/-- **The core returns one ranking for every order of the windows.** -/
theorem core_returns (candidates : CandidateWindows period windows)
    (computes : ∀ window ∈ windows, Computes window)
    (snapshotText : strip snapshotId = snapshotId ∧ snapshotId ≠ "")
    (specText : strip specId = specId ∧ specId ≠ "") :
    ∃ decisions readyCount, RankedDecisions windows decisions readyCount ∧ readyCount ≤ 24 ∧
      (∀ decision ∈ decisions, decision.selectionSnapshotId = snapshotId ∧
        decision.selectionSpecId = specId ∧ decision.sessionStartMs = period.sessionStartMs) ∧
      ∀ other, other.Perm windows → computeOpeningRangeMemberDecisions other snapshotId specId
        period.sessionStartMs period.featureCutoffAtMs = .ok (decisions, readyCount) := by
  obtain ⟨features, measured⟩ := exists_mapM_eq_ok fun window member => (computes window member).1
  have source (feature : OpeningRangeSelectionFeatures) (member : feature ∈ features) :
      ∃ window ∈ windows, Measured window feature := by
    obtain ⟨window, inWindows, returned⟩ := exists_of_mem_mapM measured member
    exact ⟨window, inWindows, measured_of_features returned⟩
  have instruments : features.map instrumentOf = windows.map (·.exchangeInstrumentId) := by
    have results := mapM_eq_ok_iff.mp measured
    refine List.ext_getElem ?_ fun index inFeatures inWindows => ?_
    · rw [List.length_map, List.length_map]
      simpa using (congrArg List.length results).symm
    · rw [List.length_map] at inFeatures inWindows
      have atIndex := congrArg (fun results => results[index]?) results
      have returned : openingRangeFeatures windows[index] = .ok features[index] := by
        simpa [List.getElem?_map, inFeatures, inWindows] using atIndex
      rw [List.getElem_map, List.getElem_map]
      unfold instrumentOf
      rw [(measured_of_features returned).window_eq]
  have members : (features.map instrumentOf).Perm candidateIds := by
    rw [instruments]
    exact candidates.members
  have distinct : (features.map instrumentOf).Nodup := members.nodup_iff.mpr candidateIds_nodup
  have settled : ∀ feature ∈ features, decimalContext.Settled feature.trailingVolume := by
    intro feature member
    obtain ⟨window, -, isMeasured⟩ := source feature member
    exact isMeasured.volume_settled
  have digested : ∀ feature ∈ features, Measured feature.window feature ∧
      ∃ digest, feature.window.inputWindowDigest = .ok digest := by
    intro feature member
    obtain ⟨window, inWindows, isMeasured⟩ := source feature member
    rw [isMeasured.window_eq]
    exact ⟨isMeasured, (computes window inWindows).2⟩
  have starts : ∀ feature ∈ features,
      feature.window.inputWindowStartMs = period.sessionStartMs - 23 * hourMs := by
    intro feature member
    obtain ⟨window, inWindows, isMeasured⟩ := source feature member
    rw [isMeasured.window_eq]
    exact (candidates.shown window inWindows).1
  have cutoff : period.featureCutoffAtMs = period.sessionStartMs + hourMs := rfl
  obtain ⟨decisions, decided, related⟩ := exists_decisions digested members snapshotText specText
    ⟨period.positive, period.midnight⟩ cutoff starts
  refine ⟨decisions, (ranked features).length,
    rankedDecisions_of_decided measured members related, ?_, ?_, ?_⟩
  · unfold ranked
    rw [List.length_map, length_sortBy]
    have size := members.length_eq
    rw [List.length_map, candidateIds_length] at size
    exact (List.length_filter_le _ _).trans size.le
  · intro decision member
    obtain ⟨index, inDecisions, rfl⟩ := List.getElem_of_mem member
    have inFeatures : index < (sortBy instrumentOf features).length := by
      rw [related.length_eq]
      exact inDecisions
    have isFrom := related.get inFeatures inDecisions
    exact ⟨isFrom.selectionSnapshotId, isFrom.selectionSpecId, isFrom.sessionStartMs⟩
  · intro other perm
    obtain ⟨others, measuredOther, permOthers⟩ := mapM_perm perm measured
    have otherMembers : (others.map instrumentOf).Perm candidateIds :=
      (permOthers.map instrumentOf).trans members
    rw [compute_eq measuredOther otherMembers fun feature member =>
        settled feature (permOthers.mem_iff.mp member),
      sortBy_eq_of_perm permOthers distinct, ranked_perm permOthers distinct, decided]
    rfl

end Windows

end TradingKernel.Selection
