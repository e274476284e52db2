/-
**A computed selection passes its own validator.**

Whatever the features are, a defined feature surface has one value for every candidate
(`keys_of_featureValues`), so the ranking numbers the candidates in order, every member decision is
valid, and the snapshot's validator finds what it asks for. Only its check that a snapshot does not
precede itself rests on the digest: periods are told apart by the SHA-256 of their payload.
-/

import Mathlib.Data.String.Basic
import TradingKernel.Domain.Selection.Hysteresis

namespace TradingKernel.Selection

open Text CanonicalJson Guard

/-! ### Ranking -/

/-- What each part returns carries over to what they return together. -/
theorem map_eq_of_mapM {ε α β γ : Type} {f : α → Except ε β} {g : β → γ} {h : α → γ}
    (hPart : ∀ item value, f item = .ok value → g value = h item) {items : List α}
    {values : List β} (hValues : items.mapM f = .ok values) : values.map g = items.map h := by
  have hMaps := mapM_eq_ok_iff.1 hValues
  clear hValues
  induction items generalizing values with
  | nil =>
      rw [List.map_nil, eq_comm, List.map_eq_nil_iff] at hMaps
      rw [hMaps, List.map_nil, List.map_nil]
  | cons item items ih =>
      cases values with
      | nil => exact nomatch hMaps
      | cons value values =>
          rw [List.map_cons, List.map_cons, List.cons.injEq] at hMaps
          rw [List.map_cons, List.map_cons, hPart item value hMaps.1, ih hMaps.2]

theorem keys_of_forCandidates {read : String → Except String ℚ} {values : List (String × ℚ)}
    (h : forCandidates read = .ok values) : values.map Prod.fst = candidateIds := by
  have hKeys : values.map Prod.fst = candidateIds.map id :=
    map_eq_of_mapM (fun key pair hPair => by
      rw [bind_eq_ok] at hPair
      obtain ⟨value, -, hPair⟩ := hPair
      rw [pure_eq_ok] at hPair
      rw [hPair]
      rfl) h
  rwa [List.map_id] at hKeys

/-- **A defined feature surface has one value for every candidate.** -/
theorem keys_of_featureValues {context : DecimalContext} {family : SelectionFamily}
    {closes : Closes} {values : List (String × ℚ)}
    (h : featureValues context family closes = .ok values) :
    values.map Prod.fst = candidateIds := by
  cases family with
  | cpm =>
      rw [featureValues, cpmValues] at h
      exact keys_of_forCandidates h
  | mi =>
      rw [featureValues, miValues] at h
      exact keys_of_forCandidates h
  | mpg =>
      rw [featureValues, mpgValues, bind_eq_ok] at h
      obtain ⟨histories, -, hValues⟩ := h
      exact keys_of_forCandidates hValues
  | brf2 =>
      rw [featureValues, brf2Values] at h
      simp only [bind_eq_ok] at h
      obtain ⟨windows, -, returns, -, market, -, total, -, mean, -, centered, -, squares, -,
        checked, -, hValues⟩ := h
      exact keys_of_forCandidates hValues

instance : IsTrans (String × ℚ) RankedBefore where
  trans first second third hFirst hSecond := by
    rcases hFirst with hFirst | ⟨hFirst, hIds⟩
    · rcases hSecond with hSecond | ⟨hSecond, -⟩
      · exact Or.inl (hSecond.trans hFirst)
      · exact Or.inl (hSecond ▸ hFirst)
    · rcases hSecond with hSecond | ⟨hSecond, hIds'⟩
      · exact Or.inl (hFirst ▸ hSecond)
      · exact Or.inr ⟨hFirst.trans hSecond, hIds.trans hIds'⟩

instance : Std.Total (α := String × ℚ) RankedBefore where
  total first second := by
    rcases lt_trichotomy first.2 second.2 with h | h | h
    · exact Or.inr (Or.inl h)
    · rcases le_total first.1 second.1 with hIds | hIds
      · exact Or.inl (Or.inr ⟨h, hIds⟩)
      · exact Or.inr (Or.inr ⟨h.symm, hIds⟩)
    · exact Or.inl (Or.inl h)

/-- The pair that a rank is about. -/
def DynamicSelectionFeatureRank.pair (rank : DynamicSelectionFeatureRank) : String × ℚ :=
  (rank.exchangeInstrumentId, rank.featureValue)

/-- **A complete feature surface is ranked**: the candidates in ranking order, numbered from one. -/
theorem rank_returns {values : List (String × ℚ)} (hKeys : values.map Prod.fst = candidateIds) :
    ∃ ranked, rankDynamicSelectionFeatures values = .ok ranked ∧
      (ranked.map fun rank => rank.exchangeInstrumentId).Perm candidateIds ∧
      (ranked.map fun rank => rank.rank) = List.range' 1 24 ∧
      (ranked.map DynamicSelectionFeatureRank.pair).Pairwise RankedBefore := by
  have hComplete : ¬ (¬ (∀ id ∈ candidateIds, id ∈ values.map Prod.fst) ∨
      ¬ ∀ id ∈ values.map Prod.fst, id ∈ candidateIds) := by
    rw [hKeys]
    simp
  have hLength : values.length = 24 := by
    rw [← List.length_map (f := Prod.fst), hKeys, candidateIds_length]
  have hPairs : ∀ ordered : List (String × ℚ),
      ((ordered.zipIdx 1).map fun item =>
        (⟨item.1.1, item.1.2, item.2⟩ : DynamicSelectionFeatureRank)).map
          DynamicSelectionFeatureRank.pair = ordered := by
    intro ordered
    rw [List.map_map]
    exact List.zipIdx_map_fst 1 ordered
  refine ⟨_, refuse_bind_eq_ok.2 ⟨hComplete, rfl⟩, ?_, ?_, ?_⟩
  · have hIds : ((values.insertionSort RankedBefore).map Prod.fst).Perm (values.map Prod.fst) :=
      (List.perm_insertionSort _ _).map _
    rw [hKeys, ← hPairs (values.insertionSort RankedBefore), List.map_map] at hIds
    exact hIds
  · rw [List.map_map]
    show (List.map Prod.snd _) = _
    rw [List.zipIdx_map_snd, List.length_insertionSort, hLength]
  · rw [hPairs]
    exact List.pairwise_insertionSort _ _

/-! ### Decisions -/

/-- **A ranked candidate is decided.** -/
theorem memberDecision_returns (source : GenericSelectionInput)
    {rank : DynamicSelectionFeatureRank} (hId : rank.exchangeInstrumentId ∈ candidateIds)
    (hRank : 1 ≤ rank.rank ∧ rank.rank ≤ 24) :
    ∃ member, source.memberDecision rank = .ok member := by
  obtain ⟨window, hMem, hWindow⟩ := List.mem_map.1 (source.windowIds_perm.mem_iff.2 hId)
  have hFound : source.window rank.exchangeInstrumentId = .ok window :=
    GenericSelectionInput.window_eq_ok.2 ⟨hMem, hWindow⟩
  refine ⟨_, bind_eq_ok.2 ⟨window, hFound, certify_eq_ok.2 ⟨?_, rfl⟩⟩⟩
  unfold MemberDecisionFields.check
  simp only [refuse_bind_eq_ok, refuse_eq_ok]
  refine ⟨not_not.2 hRank, not_not.2 (isSha256Digest_canonicalDigest _), ?_, ?_, ?_⟩
  · rw [not_not, window.qualifiesMember, hWindow]
  · exact not_not.2 rfl
  · simp only [Bool.and_eq_true, Bool.or_eq_true]
    tauto

/-- What a decision has of its rank, its window and its predecessor. -/
theorem memberDecision_eq_ok {source : GenericSelectionInput} {rank : DynamicSelectionFeatureRank}
    {member : GenericSelectionMemberDecision} (h : source.memberDecision rank = .ok member) :
    member.exchangeInstrumentId = rank.exchangeInstrumentId ∧
      member.featureValue = rank.featureValue ∧ member.stableRank = rank.rank ∧
      (∃ window ∈ source.memberWindows, member.qualification = window.qualification) ∧
      (member.retained = true ↔ member.qualified = true ∧
        member.exchangeInstrumentId ∈ source.previous ∧
        member.stableRank ≤ source.spec.retainRank) := by
  rw [GenericSelectionInput.memberDecision, bind_eq_ok] at h
  obtain ⟨window, hWindow, h⟩ := h
  rw [GenericSelectionMemberDecision.ofFields, certify_eq_ok] at h
  obtain ⟨valid, rfl⟩ := h
  refine ⟨rfl, rfl, rfl, ⟨window, (GenericSelectionInput.window_eq_ok.1 hWindow).1, rfl⟩, ?_⟩
  simp [and_assoc]

/-! ### Snapshots -/

/-- The predecessor's period and the input's own have the same digest. -/
def PeriodCollision (source : GenericSelectionInput) : Prop :=
  ∃ prior ∈ source.predecessorSnapshot,
    periodPayload source.spec source.selectionEpochId prior.featureCutoffAtMs
        ≠ periodPayload source.spec source.selectionEpochId source.featureCutoffAtMs ∧
      canonicalDigest (periodPayload source.spec source.selectionEpochId prior.featureCutoffAtMs)
        = canonicalDigest
          (periodPayload source.spec source.selectionEpochId source.featureCutoffAtMs)

theorem take_canonicalDigest (value : Canonical) :
    (canonicalDigest value).toList.take 7 = "sha256:".toList := by
  rw [canonicalDigest, String.toList_append]
  rfl

/-- The digest of a period can be read from the snapshot id. -/
theorem canonicalDigest_of_snapshotId {spec : GenericSelectionSpecV1} {epoch : String}
    {first second : ℤ}
    (h : selectionSnapshotIdOf spec epoch first = selectionSnapshotIdOf spec epoch second) :
    canonicalDigest (periodPayload spec epoch first)
      = canonicalDigest (periodPayload spec epoch second) := by
  have hChars := congrArg String.toList h
  rw [selectionSnapshotIdOf, selectionSnapshotIdOf, String.toList_append, String.toList_append,
    List.append_cancel_left_eq, String.toList_ofList, String.toList_ofList] at hChars
  apply String.toList_injective
  rw [← List.take_append_drop 7 (canonicalDigest (periodPayload spec epoch first)).toList, hChars,
    take_canonicalDigest, ← take_canonicalDigest (periodPayload spec epoch second),
    List.take_append_drop]

theorem snapshotId_of_valid (snapshot : GenericSelectionSnapshotV1) :
    snapshot.selectionSnapshotId = selectionSnapshotIdOf snapshot.spec snapshot.selectionEpochId
      snapshot.featureCutoffAtMs := by
  have hValid := snapshot.valid
  unfold SnapshotFields.check at hValid
  dsimp only at hValid
  simp only [refuse_bind_eq_ok] at hValid
  obtain ⟨-, -, hId, -⟩ := hValid
  exact not_not.1 hId

/-- A snapshot that precedes itself is a collision of periods. -/
theorem collision_of_precedes_itself {source : GenericSelectionInput}
    (h : source.predecessorSnapshot.map (fun prior => prior.selectionSnapshotId)
      = some (selectionSnapshotIdOf source.spec source.selectionEpochId
        source.featureCutoffAtMs)) : PeriodCollision source := by
  obtain ⟨prior, hPrior, hId⟩ := Option.map_eq_some_iff.1 h
  obtain ⟨hEpoch, hSpec, hCutoff, -⟩ := source.predecessorMatches prior hPrior
  rw [snapshotId_of_valid, hSpec, hEpoch] at hId
  refine ⟨prior, hPrior, ?_, canonicalDigest_of_snapshotId hId⟩
  intro hPayload
  simp only [periodPayload, Canonical.object.injEq, List.cons.injEq, Prod.mk.injEq,
    Canonical.integer.injEq, true_and, and_true] at hPayload
  exact absurd hPayload hCutoff.ne

theorem candidateIds_sorted : candidateIds.Pairwise (· ≤ ·) := by decide

theorem sourceSemanticDigest_returns (source : GenericSelectionInput) :
    ∃ digest, source.sourceSemanticDigest = .ok digest ∧ IsSha256Digest digest := by
  have hItems : ∀ id ∈ candidateIds, ∃ item, (do
      let window ← source.window id
      pure (Canonical.array [.text id, .text window.inputWindowDigest]) : Except String Canonical)
        = .ok item := by
    intro id hId
    obtain ⟨window, hMem, hWindow⟩ := List.mem_map.1 (source.windowIds_perm.mem_iff.2 hId)
    exact ⟨_, bind_eq_ok.2 ⟨window, GenericSelectionInput.window_eq_ok.2 ⟨hMem, hWindow⟩, rfl⟩⟩
  obtain ⟨items, hMapM⟩ := exists_mapM_eq_ok hItems
  exact ⟨_, bind_eq_ok.2 ⟨items, hMapM, rfl⟩, isSha256Digest_canonicalDigest _⟩

/-- What the ranking and the decisions leave to the snapshot's validator. -/
structure Decided (source : GenericSelectionInput)
    (members : List GenericSelectionMemberDecision) : Prop where
  candidates : (members.map fun member => member.exchangeInstrumentId).Perm candidateIds
  ranks : (members.map fun member => member.stableRank) = List.range' 1 24
  order : members.Pairwise MemberRankedBefore
  decided : ∀ member ∈ members, ∃ rank, source.memberDecision rank = .ok member

/-- **Ranked candidates are decided in their order.** -/
theorem decided_of_ranked {source : GenericSelectionInput}
    {ranked : List DynamicSelectionFeatureRank}
    (hIds : (ranked.map fun rank => rank.exchangeInstrumentId).Perm candidateIds)
    (hRanks : (ranked.map fun rank => rank.rank) = List.range' 1 24)
    (hOrder : (ranked.map DynamicSelectionFeatureRank.pair).Pairwise RankedBefore) :
    ∃ members, ranked.mapM source.memberDecision = .ok members ∧ Decided source members := by
  have hEach : ∀ rank ∈ ranked, ∃ member, source.memberDecision rank = .ok member := by
    intro rank hMem
    have hId : rank.exchangeInstrumentId ∈ candidateIds :=
      hIds.mem_iff.1 (List.mem_map_of_mem hMem)
    have hRange : rank.rank ∈ List.range' 1 24 := by
      rw [← hRanks]
      exact List.mem_map_of_mem hMem
    rw [List.mem_range'_1] at hRange
    exact memberDecision_returns source hId (by omega)
  obtain ⟨members, hMembers⟩ := exists_mapM_eq_ok hEach
  refine ⟨members, hMembers, ?_, ?_, ?_, ?_⟩
  · rw [map_eq_of_mapM (fun rank member h => (memberDecision_eq_ok h).1) hMembers]
    exact hIds
  · rw [map_eq_of_mapM (fun rank member h => (memberDecision_eq_ok h).2.2.1) hMembers]
    exact hRanks
  · have hPairs : (members.map fun member => (member.exchangeInstrumentId, member.featureValue))
        = ranked.map DynamicSelectionFeatureRank.pair :=
      map_eq_of_mapM (fun rank member h => by
        rw [(memberDecision_eq_ok h).1, (memberDecision_eq_ok h).2.1]
        rfl) hMembers
    rw [← hPairs, List.pairwise_map] at hOrder
    exact hOrder
  · intro member hMem
    obtain ⟨rank, -, hDecision⟩ := exists_of_mem_mapM hMembers hMem
    exact ⟨rank, hDecision⟩

/-- What the snapshot asks of a member, a decision has. -/
theorem checkMember_returns {source : GenericSelectionInput}
    {members : List GenericSelectionMemberDecision} {digest : String}
    {rank : DynamicSelectionFeatureRank} {member : GenericSelectionMemberDecision}
    (h : source.memberDecision rank = .ok member) :
    (source.snapshotFields members digest).checkMember member = .ok () := by
  obtain ⟨-, -, -, ⟨window, hWindow, hQualification⟩, hRetained⟩ := memberDecision_eq_ok h
  obtain ⟨-, hEvent, hObserved, hSource⟩ := source.windowsExact window hWindow
  have hSelected := selected_of_memberDecision h
  -- Selected is qualified, and ranked for entry or retained.
  have hExpected : member.selected = (member.qualified &&
      (decide (member.stableRank ≤ source.spec.entryRank) || member.retained)) := by
    rw [Bool.eq_iff_iff, hSelected]
    simp only [Bool.and_eq_true, Bool.or_eq_true, decide_eq_true_eq, hRetained]
    tauto
  unfold SnapshotFields.checkMember
  simp only [refuse_bind_eq_ok, refuse_eq_ok]
  dsimp only [GenericSelectionInput.snapshotFields]
  refine ⟨?_, ?_⟩
  · rw [hQualification, not_or, not_not, not_not]
    exact ⟨hEvent, hObserved, hSource.trans source.timing.2.2⟩
  · rw [not_or, not_or, not_not]
    refine ⟨hExpected, ?_, ?_⟩
    · rintro ⟨hIs, hBeyond⟩
      obtain ⟨-, hEntry | ⟨-, hRetain⟩⟩ := hSelected.1 hIs
      · exact absurd (hEntry.trans source.spec.entryRank_le_retainRank) (not_le.2 hBeyond)
      · exact absurd hRetain (not_le.2 hBeyond)
    · rintro ⟨hIs, hNone⟩
      have hHeld := (hRetained.1 hIs).2.1
      rw [Option.map_eq_none_iff] at hNone
      rw [GenericSelectionInput.previous, hNone] at hHeld
      exact absurd hHeld List.not_mem_nil

/-- **Decided candidates make a valid snapshot**, unless periods collide. -/
theorem snapshot_check_returns {source : GenericSelectionInput}
    (hDistinct : ¬ PeriodCollision source) {members : List GenericSelectionMemberDecision}
    (h : Decided source members) {digest : String} (hDigest : IsSha256Digest digest) :
    (source.snapshotFields members digest).check = .ok () := by
  unfold SnapshotFields.check
  dsimp only
  simp only [refuse_bind_eq_ok]
  dsimp only [GenericSelectionInput.snapshotFields]
  obtain ⟨hEpoch, hPositive, hPeriod⟩ := source.period
  refine ⟨?_, ?_, not_not.2 rfl, ?_, ?_, ?_, not_not.2 hDigest, ?_, ?_, ?_⟩
  · rw [not_or, not_or, not_not]
    exact ⟨hEpoch, not_le.2 hPositive, hPeriod⟩
  · have hCommitted : source.featureCutoffAtMs ≤ source.committedAtMs :=
      source.timing.1.trans (source.timing.2.1.trans source.timing.2.2)
    rw [not_or, not_or, not_not, not_not, add_comm (1 : ℤ)]
    exact ⟨rfl, rfl, not_lt.2 hCommitted⟩
  · rw [Option.isNone_map, Option.isNone_map]
    exact not_not.2 rfl
  · exact fun hSelf => hDistinct (collision_of_precedes_itself hSelf)
  · rintro ⟨memberDigest, hMember, hShape⟩
    obtain ⟨prior, -, rfl⟩ := Option.map_eq_some_iff.1 hMember
    exact hShape (isSha256Digest_canonicalDigest _)
  · rw [not_not]
    exact ((List.perm_insertionSort _ _).trans h.candidates).eq_of_pairwise'
      (List.pairwise_insertionSort _ _) candidateIds_sorted
  · rw [not_or, not_not, not_not]
    exact ⟨h.order, h.ranks⟩
  · refine forM_eq_ok fun member hMem => ?_
    obtain ⟨rank, hDecision⟩ := h.decided member hMem
    exact checkMember_returns hDecision

/-- **A computation with defined features returns**, unless periods collide. -/
theorem compute_returns {context : DecimalContext} {source : GenericSelectionInput}
    {values : List (String × ℚ)}
    (hValues : featureValues context source.spec.family source.closes = .ok values)
    (hDistinct : ¬ PeriodCollision source) :
    ∃ snapshot, computeGenericSelection context source = .ok snapshot := by
  obtain ⟨ranked, hRanked, hIds, hRanks, hOrder⟩ :=
    rank_returns (keys_of_featureValues hValues)
  obtain ⟨members, hMembers, hDecided⟩ := decided_of_ranked hIds hRanks hOrder
  obtain ⟨digest, hDigest, hShape⟩ := sourceSemanticDigest_returns source
  have hValid := snapshot_check_returns hDistinct hDecided hShape
  refine ⟨⟨source.snapshotFields members digest, hValid⟩, ?_⟩
  unfold computeGenericSelection
  rw [bind_eq_ok]
  refine ⟨values, hValues, bind_eq_ok.2 ⟨ranked, hRanked, bind_eq_ok.2 ⟨members, hMembers,
    bind_eq_ok.2 ⟨digest, hDigest, certify_eq_ok.2 ⟨hValid, rfl⟩⟩⟩⟩⟩

/-! ### The selection as a whole -/

/-- **Selection with hysteresis.** Along every chain of an epoch a member is selected exactly since its
last entry; the ranks of a computed snapshot number the candidates; the order of the windows does not
matter; and a computation with defined features returns a snapshot, which is valid by construction. -/
theorem selection_with_hysteresis (context : DecimalContext) :
    (∀ snapshots, EpochChain context snapshots → ∀ id n, n < snapshots.length →
      (HoldsAt snapshots (fun snapshot => id ∈ snapshot.selectedMembers) n ↔
        ∃ k ≤ n, HoldsAt snapshots (fun snapshot => snapshot.Admits id) k ∧
          ∀ j, k ≤ j → j ≤ n → HoldsAt snapshots (fun snapshot => snapshot.Keeps id) j)) ∧
    (∀ source snapshot, computeGenericSelection context source = .ok snapshot →
      Set.BijOn snapshot.rankOf {id | id ∈ candidateIds} (Set.Icc 1 24)) ∧
    (∀ source other, SameFacts source other →
      computeGenericSelection context other = computeGenericSelection context source) ∧
    (∀ source values, featureValues context source.spec.family source.closes = .ok values →
      (∃ snapshot, computeGenericSelection context source = .ok snapshot) ∨
        PeriodCollision source) := by
  refine ⟨fun snapshots hChain id n hn => selected_iff_since hChain id hn,
    fun source snapshot _ => snapshot.bijOn_rankOf,
    fun source other hSame => hSame.compute_eq context, fun source values hValues => ?_⟩
  by_cases hDistinct : PeriodCollision source
  · exact Or.inr hDistinct
  · exact Or.inl (compute_returns hValues hDistinct)

/-- A context on whose operands nothing has to be rounded. -/
def exactContext : DecimalContext where
  add x y := .ok (x + y)
  sub x y := .ok (x - y)
  mul x y := .ok (x * y)
  div x y := .ok (x / y)
  abs x := .ok |x|
  ln _ := .error "not exact"
  sqrt _ := .error "not exact"

/-- The hourly candle that closes `hours` after the epoch, at a price of 100. -/
def flatCandle (hours : ℕ) (h : 0 < hours) : GenericSelectionCandle where
  openTimeMs := (hours - 1 : ℤ) * hourMs
  closeTimeMs := hours * hourMs
  openPrice := 100
  high := 100
  low := 100
  close := 100
  baseVolume := 1
  quoteVolume := 100
  hourly := by
    refine ⟨Int.mul_nonneg (by omega) (by decide), Int.mul_emod_left _ _, ?_⟩
    rw [sub_mul, one_mul, sub_add_cancel]
  positive := by decide +kernel
  consistent := by decide +kernel
  volumesNonneg := by decide +kernel

/-- A tradable perpetual that is compatible with the MI event. -/
def flatQualification (id : String) (h : "binance-usdm:".toList.isPrefixOf id.toList) :
    GenericSelectionQualification where
  eventSpecId := "event_spec:MI-001:MI-LONG:v3"
  productProfile :=
    { exchangeInstrumentId := id
      productFamily := .cryptoPerpetual
      assetClass := .crypto
      contractType := .perpetual
      underlyingType := .crypto
      entrySessionPolicy := .continuous
      status := .active
      maxEntrySpreadBps := none
      maxMarkIndexDeviationBps := none
      venuePrefix := h
      thresholdsPositive := ⟨(fun _ h => nomatch h), (fun _ h => nomatch h)⟩ }
  venueContractType := "PERPETUAL"
  venueMarginAsset := "USDT"
  venueStatus := .trading
  observedAtMs := 100 * hourMs + 1
  expected := ⟨"event_spec:MI-001:MI-LONG:v3", .cryptoPerpetual, .crypto, .perpetual, .crypto⟩
  venueFactsKnown := by decide +kernel
  observed := by decide
  expectedOfEvent := by rfl

/-- The window of a candidate whose price does not move. -/
def flatWindow (id : String) (hPrefix : "binance-usdm:".toList.isPrefixOf id.toList)
    (hCanonical : isCanonicalInstrumentId id) : GenericSelectionMemberWindow where
  exchangeInstrumentId := id
  candles := (List.range 13).map fun i => flatCandle (88 + i) (by omega)
  qualification := flatQualification id hPrefix
  canonicalId := hCanonical
  qualifiesMember := rfl
  bounded := ⟨by simp, by simp⟩
  contiguous := by decide +kernel

theorem candidateIds_canonical : ∀ id ∈ candidateIds,
    "binance-usdm:".toList.isPrefixOf id.toList ∧ isCanonicalInstrumentId id := by
  decide

/-- The first MI input of an epoch, over candidates whose prices do not move. -/
def flatInput : GenericSelectionInput where
  spec := ⟨.mi⟩
  selectionEpochId := "epoch:1"
  featureCutoffAtMs := 100 * hourMs
  decisionAtMs := 100 * hourMs
  sourceObservedAtMs := 100 * hourMs + 10
  committedAtMs := 100 * hourMs + 20
  memberWindows := candidateIds.attach.map fun id =>
    flatWindow id.1 (candidateIds_canonical id.1 id.2).1 (candidateIds_canonical id.1 id.2).2
  predecessorSnapshot := none
  period := by decide +kernel
  timing := by decide
  exactCandidates := by
    rw [List.map_map]
    show List.insertionSort _ (candidateIds.attach.map Subtype.val) = _
    rw [List.attach_map_subtype_val]
    exact candidateIds_sorted.insertionSort_eq
  windowsExact := by
    intro window hWindow
    obtain ⟨id, -, rfl⟩ := List.mem_map.1 hWindow
    have hTimes : (100 * hourMs : ℤ) ≤ 100 * hourMs + 1 ∧
        (100 * hourMs + 1 : ℤ) ≤ 100 * hourMs + 10 := by decide
    exact ⟨rfl, rfl, hTimes⟩
  predecessorMatches := fun _ h => nomatch h

theorem selection_with_hysteresis_of_flat_prices :
    ∃ snapshot, computeGenericSelection exactContext flatInput = .ok snapshot := by
  have hValues : featureValues exactContext flatInput.spec.family flatInput.closes
      = .ok (candidateIds.map fun id => (id, 0)) := by
    decide +kernel
  refine ((selection_with_hysteresis exactContext).2.2.2 flatInput _ hValues).resolve_right ?_
  rintro ⟨prior, hPrior, -⟩
  exact nomatch hPrior

end TradingKernel.Selection
