/-
**Selection with hysteresis, over whole epochs.**

A snapshot selects the qualified members that it ranks for entry, and those qualified members that its
predecessor selected and that it ranks for retention (`selected_iff`). Along a chain of snapshots a
member is therefore selected exactly since it was last ranked for entry, without a break in retention
(`inside_iff_since`). The ranks of a snapshot number its members (`bijOn_rankOf`), the order of the
windows does not matter (`compute_eq_of_sameFacts`), and a computation with defined features returns a
snapshot (`compute_returns`).
-/

import Mathlib.Data.List.Sort
import Mathlib.Data.Set.Function
import Mathlib.Order.Interval.Set.Basic
import TradingKernel.Domain.Selection.Snapshot

namespace TradingKernel.Selection

open Text CanonicalJson Guard

/-! ### Since -/

section Since

variable {enters keeps inside : ℕ → Prop}

/-- **Inside since the last entry.** What is entered, and kept step by step, is inside exactly where it
was entered once and kept ever since. -/
theorem inside_iff_since {last : ℕ} (first : inside 0 ↔ enters 0)
    (step : ∀ n < last, (inside (n + 1) ↔ enters (n + 1) ∨ (inside n ∧ keeps (n + 1))))
    (kept : ∀ n ≤ last, enters n → keeps n) {n : ℕ} (hn : n ≤ last) :
    inside n ↔ ∃ k ≤ n, enters k ∧ ∀ j, k ≤ j → j ≤ n → keeps j := by
  induction n with
  | zero =>
      rw [first]
      constructor
      · intro hEnters
        refine ⟨0, le_rfl, hEnters, fun j _ hj => ?_⟩
        rw [Nat.le_zero.1 hj]
        exact kept 0 hn hEnters
      · rintro ⟨k, hk, hEnters, -⟩
        rwa [Nat.le_zero.1 hk] at hEnters
  | succ n ih =>
      rw [step n hn, ih (Nat.le_of_succ_le hn)]
      constructor
      · rintro (hEnters | ⟨⟨k, hk, hEnters, hKept⟩, hKeeps⟩)
        · refine ⟨n + 1, le_rfl, hEnters, fun j hLow hHigh => ?_⟩
          rw [le_antisymm hHigh hLow]
          exact kept (n + 1) hn hEnters
        · refine ⟨k, hk.trans n.le_succ, hEnters, fun j hLow hHigh => ?_⟩
          rcases Nat.le_succ_iff.1 hHigh with hj | rfl
          · exact hKept j hLow hj
          · exact hKeeps
      · rintro ⟨k, hk, hEnters, hKept⟩
        rcases Nat.le_succ_iff.1 hk with hk | rfl
        · exact Or.inr ⟨⟨k, hk, hEnters, fun j hLow hHigh => hKept j hLow (hHigh.trans n.le_succ)⟩,
            hKept (n + 1) (hk.trans n.le_succ) le_rfl⟩
        · exact Or.inl hEnters

end Since

/-! ### Lookup -/

/-- Where the keys are distinct, an item is found by its key, wherever it stands. -/
theorem find?_key_eq_some {α : Type} {key : α → String} {items : List α}
    (hNodup : (items.map key).Nodup) {id : String} {item : α} :
    (items.find? fun other => key other = id) = some item ↔ item ∈ items ∧ key item = id := by
  constructor
  · intro hFound
    have hTest := List.find?_some hFound
    exact ⟨List.mem_of_find?_eq_some hFound, by simpa using hTest⟩
  · rintro ⟨hMem, rfl⟩
    have hSome : (items.find? fun other => key other = key item).isSome := by
      rw [List.find?_isSome]
      exact ⟨item, hMem, decide_eq_true rfl⟩
    obtain ⟨found, hFound⟩ := Option.isSome_iff_exists.1 hSome
    have hTest := List.find?_some hFound
    rw [hFound, List.inj_on_of_nodup_map hNodup (List.mem_of_find?_eq_some hFound) hMem
      (by simpa using hTest)]

/-! ### One snapshot -/

namespace GenericSelectionSnapshotV1

variable (snapshot : GenericSelectionSnapshotV1)

/-- The member is qualified, and ranked for entry. -/
def Admits (id : String) : Prop :=
  ∃ member ∈ snapshot.members, member.exchangeInstrumentId = id ∧ member.qualified ∧
    member.stableRank ≤ snapshot.spec.entryRank

/-- The member is qualified, and ranked for retention. -/
def Keeps (id : String) : Prop :=
  ∃ member ∈ snapshot.members, member.exchangeInstrumentId = id ∧ member.qualified ∧
    member.stableRank ≤ snapshot.spec.retainRank

theorem keeps_of_admits {id : String} (h : snapshot.Admits id) : snapshot.Keeps id := by
  obtain ⟨member, hMem, hId, hQualified, hRank⟩ := h
  exact ⟨member, hMem, hId, hQualified, hRank.trans snapshot.spec.entryRank_le_retainRank⟩

theorem mem_selectedMembers {id : String} :
    id ∈ snapshot.selectedMembers ↔
      ∃ member ∈ snapshot.members, member.exchangeInstrumentId = id ∧ member.selected := by
  unfold selectedMembers
  rw [List.mem_insertionSort, List.mem_map]
  constructor
  · rintro ⟨member, hMem, hId⟩
    rw [List.mem_filter] at hMem
    exact ⟨member, hMem.1, hId, hMem.2⟩
  · rintro ⟨member, hMem, hId, hSelected⟩
    exact ⟨member, List.mem_filter.2 ⟨hMem, hSelected⟩, hId⟩

end GenericSelectionSnapshotV1

/-! ### One computation -/

/-- What a computation has done when it returns: it ranked a feature surface, decided every ranked
member, and put the decisions under the identity of the input. -/
theorem compute_returned {context : DecimalContext} {source : GenericSelectionInput}
    {snapshot : GenericSelectionSnapshotV1}
    (h : computeGenericSelection context source = .ok snapshot) :
    snapshot.spec = source.spec ∧
      ∀ member ∈ snapshot.members, ∃ rank, source.memberDecision rank = .ok member := by
  unfold computeGenericSelection at h
  rw [bind_eq_ok] at h
  obtain ⟨values, -, h⟩ := h
  rw [bind_eq_ok] at h
  obtain ⟨ranked, -, h⟩ := h
  rw [bind_eq_ok] at h
  obtain ⟨members, hMembers, h⟩ := h
  rw [bind_eq_ok] at h
  obtain ⟨digest, -, h⟩ := h
  rw [GenericSelectionSnapshotV1.ofFields, certify_eq_ok] at h
  obtain ⟨valid, rfl⟩ := h
  refine ⟨rfl, fun member hMem => ?_⟩
  obtain ⟨rank, -, hDecision⟩ := exists_of_mem_mapM hMembers hMem
  exact ⟨rank, hDecision⟩

/-- How a member is decided: on its rank and on what the predecessor selected. -/
theorem selected_of_memberDecision {source : GenericSelectionInput}
    {rank : DynamicSelectionFeatureRank} {member : GenericSelectionMemberDecision}
    (h : source.memberDecision rank = .ok member) :
    member.selected = true ↔ member.qualified = true ∧
      (member.stableRank ≤ source.spec.entryRank ∨
        (member.exchangeInstrumentId ∈ source.previous ∧
          member.stableRank ≤ source.spec.retainRank)) := by
  rw [GenericSelectionInput.memberDecision, bind_eq_ok] at h
  obtain ⟨window, -, h⟩ := h
  rw [GenericSelectionMemberDecision.ofFields, certify_eq_ok] at h
  obtain ⟨valid, rfl⟩ := h
  simp

/-- **One step of the selection.** -/
theorem selected_iff {context : DecimalContext} {source : GenericSelectionInput}
    {snapshot : GenericSelectionSnapshotV1}
    (h : computeGenericSelection context source = .ok snapshot) (id : String) :
    id ∈ snapshot.selectedMembers ↔
      snapshot.Admits id ∨ (id ∈ source.previous ∧ snapshot.Keeps id) := by
  obtain ⟨hSpec, hDecided⟩ := compute_returned h
  rw [snapshot.mem_selectedMembers]
  constructor
  · rintro ⟨member, hMem, hId, hSelected⟩
    obtain ⟨rank, hDecision⟩ := hDecided member hMem
    obtain ⟨hQualified, hEntry | ⟨hHeld, hRetain⟩⟩ :=
      (selected_of_memberDecision hDecision).1 hSelected
    · exact Or.inl ⟨member, hMem, hId, hQualified, hSpec ▸ hEntry⟩
    · exact Or.inr ⟨hId ▸ hHeld, member, hMem, hId, hQualified, hSpec ▸ hRetain⟩
  · rintro (⟨member, hMem, hId, hQualified, hEntry⟩ |
      ⟨hHeld, member, hMem, hId, hQualified, hRetain⟩)
    · obtain ⟨rank, hDecision⟩ := hDecided member hMem
      exact ⟨member, hMem, hId, (selected_of_memberDecision hDecision).2
        ⟨hQualified, Or.inl (hSpec ▸ hEntry)⟩⟩
    · obtain ⟨rank, hDecision⟩ := hDecided member hMem
      exact ⟨member, hMem, hId, (selected_of_memberDecision hDecision).2
        ⟨hQualified, Or.inr ⟨hId ▸ hHeld, hSpec ▸ hRetain⟩⟩⟩

/-! ### Chains -/

/-- Snapshots, oldest first, each computed with the one before it as predecessor. -/
def EpochChain (context : DecimalContext) (snapshots : List GenericSelectionSnapshotV1) : Prop :=
  ∀ n snapshot, snapshots[n]? = some snapshot → ∃ source : GenericSelectionInput,
    source.predecessorSnapshot = (if n = 0 then none else snapshots[n - 1]?) ∧
      computeGenericSelection context source = .ok snapshot

/-- The `n`-th snapshot of a chain has the property. -/
def HoldsAt (snapshots : List GenericSelectionSnapshotV1)
    (property : GenericSelectionSnapshotV1 → Prop) (n : ℕ) : Prop :=
  ∃ snapshot ∈ snapshots[n]?, property snapshot

theorem holdsAt_iff {snapshots : List GenericSelectionSnapshotV1}
    {property : GenericSelectionSnapshotV1 → Prop} {n : ℕ}
    {snapshot : GenericSelectionSnapshotV1} (h : snapshots[n]? = some snapshot) :
    HoldsAt snapshots property n ↔ property snapshot := by
  unfold HoldsAt
  rw [h]
  simp

/-- **Along a chain a member is selected since its last entry.** -/
theorem selected_iff_since {context : DecimalContext}
    {snapshots : List GenericSelectionSnapshotV1} (hChain : EpochChain context snapshots)
    (id : String) {n : ℕ} (hn : n < snapshots.length) :
    HoldsAt snapshots (fun snapshot => id ∈ snapshot.selectedMembers) n ↔
      ∃ k ≤ n, HoldsAt snapshots (fun snapshot => snapshot.Admits id) k ∧
        ∀ j, k ≤ j → j ≤ n → HoldsAt snapshots (fun snapshot => snapshot.Keeps id) j := by
  have hRead : ∀ m ≤ snapshots.length - 1, ∃ snapshot, snapshots[m]? = some snapshot :=
    fun m hm => ⟨snapshots[m], List.getElem?_eq_getElem (by omega)⟩
  refine inside_iff_since ?_ ?_ ?_ (Nat.le_sub_one_of_lt hn)
  · -- The first snapshot has no predecessor: it selects what it admits.
    obtain ⟨snapshot, hSnapshot⟩ := hRead 0 (Nat.zero_le _)
    obtain ⟨source, hPredecessor, hComputed⟩ := hChain 0 snapshot hSnapshot
    have hPrevious : source.previous = [] := by
      rw [GenericSelectionInput.previous, hPredecessor]
      rfl
    rw [holdsAt_iff hSnapshot, holdsAt_iff hSnapshot, selected_iff hComputed, hPrevious]
    simp
  · intro m hm
    obtain ⟨prior, hPrior⟩ := hRead m hm.le
    obtain ⟨snapshot, hSnapshot⟩ := hRead (m + 1) hm
    obtain ⟨source, hPredecessor, hComputed⟩ := hChain (m + 1) snapshot hSnapshot
    have hPrevious : source.previous = prior.selectedMembers := by
      rw [if_neg m.succ_ne_zero, Nat.add_sub_cancel, hPrior] at hPredecessor
      rw [GenericSelectionInput.previous, hPredecessor]
    rw [holdsAt_iff hSnapshot, holdsAt_iff hSnapshot, holdsAt_iff hSnapshot, holdsAt_iff hPrior,
      selected_iff hComputed, hPrevious]
  · intro m hm hAdmits
    obtain ⟨snapshot, hSnapshot⟩ := hRead m hm
    rw [holdsAt_iff hSnapshot] at hAdmits ⊢
    exact snapshot.keeps_of_admits hAdmits

/-! ### Ranks -/

namespace GenericSelectionSnapshotV1

variable (snapshot : GenericSelectionSnapshotV1)

/-- The rank of an instrument. -/
def rankOf (id : String) : ℕ :=
  ((snapshot.members.find? fun member => member.exchangeInstrumentId = id).map fun member =>
    member.stableRank).getD 0

/-- What the snapshot's validator has established about the ranks. -/
theorem ranked : (snapshot.members.map fun member => member.exchangeInstrumentId).Perm
      candidateIds ∧
    (snapshot.members.map fun member => member.stableRank) = List.range' 1 24 := by
  have hValid := snapshot.valid
  unfold SnapshotFields.check at hValid
  dsimp only at hValid
  simp only [refuse_bind_eq_ok] at hValid
  obtain ⟨-, -, -, -, -, -, -, hIds, hRanks, -⟩ := hValid
  rw [not_not] at hIds
  rw [not_or, not_not, not_not] at hRanks
  exact ⟨hIds ▸ (List.perm_insertionSort _ _).symm, hRanks.2⟩

theorem rankOf_member {member : GenericSelectionMemberDecision}
    (h : member ∈ snapshot.members) :
    snapshot.rankOf member.exchangeInstrumentId = member.stableRank := by
  have hNodup : (snapshot.members.map fun member => member.exchangeInstrumentId).Nodup :=
    snapshot.ranked.1.nodup_iff.2 candidateIds_nodup
  rw [rankOf, (find?_key_eq_some hNodup).2 ⟨h, rfl⟩]
  rfl

/-- Every candidate has a decision. -/
theorem exists_member {id : String} (h : id ∈ candidateIds) :
    ∃ member ∈ snapshot.members, member.exchangeInstrumentId = id :=
  List.mem_map.1 (snapshot.ranked.1.mem_iff.2 h)

/-- **The ranks number the candidates.** -/
theorem bijOn_rankOf : Set.BijOn snapshot.rankOf {id | id ∈ candidateIds} (Set.Icc 1 24) := by
  have hRanks : (snapshot.members.map fun member => member.stableRank).Nodup := by
    rw [snapshot.ranked.2]
    exact List.nodup_range'
  refine ⟨?_, ?_, ?_⟩
  · intro id hId
    obtain ⟨member, hMem, rfl⟩ := snapshot.exists_member hId
    have hRange : member.stableRank ∈ List.range' 1 24 := by
      rw [← snapshot.ranked.2]
      exact List.mem_map_of_mem hMem
    rw [List.mem_range'_1] at hRange
    rw [snapshot.rankOf_member hMem, Set.mem_Icc]
    omega
  · intro first hFirst second hSecond hEq
    obtain ⟨member, hMem, rfl⟩ := snapshot.exists_member hFirst
    obtain ⟨other, hOther, rfl⟩ := snapshot.exists_member hSecond
    rw [snapshot.rankOf_member hMem, snapshot.rankOf_member hOther] at hEq
    rw [List.inj_on_of_nodup_map hRanks hMem hOther hEq]
  · intro rank hRank
    rw [Set.mem_Icc] at hRank
    have hRange : rank ∈ snapshot.members.map fun member => member.stableRank := by
      rw [snapshot.ranked.2, List.mem_range'_1]
      omega
    obtain ⟨member, hMem, rfl⟩ := List.mem_map.1 hRange
    refine ⟨member.exchangeInstrumentId, ?_, snapshot.rankOf_member hMem⟩
    exact snapshot.ranked.1.mem_iff.1 (List.mem_map_of_mem hMem)

end GenericSelectionSnapshotV1

/-! ### The order of the windows -/

/-- Two inputs with the same facts, whose windows may come in another order. -/
structure SameFacts (source other : GenericSelectionInput) : Prop where
  spec : other.spec = source.spec
  epoch : other.selectionEpochId = source.selectionEpochId
  cutoff : other.featureCutoffAtMs = source.featureCutoffAtMs
  decision : other.decisionAtMs = source.decisionAtMs
  observed : other.sourceObservedAtMs = source.sourceObservedAtMs
  committed : other.committedAtMs = source.committedAtMs
  windows : other.memberWindows.Perm source.memberWindows
  predecessor : other.predecessorSnapshot = source.predecessorSnapshot

namespace GenericSelectionInput

variable {source other : GenericSelectionInput}

theorem windowIds_perm (source : GenericSelectionInput) :
    (source.memberWindows.map fun window => window.exchangeInstrumentId).Perm candidateIds :=
  source.exactCandidates ▸ (List.perm_insertionSort _ _).symm

theorem windowIds_nodup (source : GenericSelectionInput) :
    (source.memberWindows.map fun window => window.exchangeInstrumentId).Nodup :=
  source.windowIds_perm.nodup_iff.2 candidateIds_nodup

theorem window_eq_ok {id : String} {window : GenericSelectionMemberWindow} :
    source.window id = .ok window ↔
      window ∈ source.memberWindows ∧ window.exchangeInstrumentId = id := by
  rw [GenericSelectionInput.window, demand_eq_ok]
  exact find?_key_eq_some source.windowIds_nodup

end GenericSelectionInput

namespace SameFacts

variable {source other : GenericSelectionInput}

theorem window_eq (h : SameFacts source other) : other.window = source.window := by
  funext id
  have hFind : (other.memberWindows.find? fun window => window.exchangeInstrumentId = id)
      = source.memberWindows.find? fun window => window.exchangeInstrumentId = id := by
    apply Option.ext
    intro window
    rw [find?_key_eq_some other.windowIds_nodup, find?_key_eq_some source.windowIds_nodup,
      h.windows.mem_iff]
  rw [GenericSelectionInput.window, GenericSelectionInput.window, hFind]

theorem closes_eq (h : SameFacts source other) : other.closes = source.closes := by
  unfold GenericSelectionInput.closes
  rw [h.window_eq]

theorem memberDecision_eq (h : SameFacts source other) :
    other.memberDecision = source.memberDecision := by
  funext rank
  have hPrevious : other.previous = source.previous := by
    unfold GenericSelectionInput.previous
    rw [h.predecessor]
  unfold GenericSelectionInput.memberDecision
  rw [h.window_eq, hPrevious, h.spec]

theorem sourceSemanticDigest_eq (h : SameFacts source other) :
    other.sourceSemanticDigest = source.sourceSemanticDigest := by
  unfold GenericSelectionInput.sourceSemanticDigest
  rw [h.window_eq]

/-- **The order of the windows does not matter**, neither to the snapshot nor to a refusal. -/
theorem compute_eq (h : SameFacts source other) (context : DecimalContext) :
    computeGenericSelection context other = computeGenericSelection context source := by
  have hFields : other.snapshotFields = source.snapshotFields := by
    unfold GenericSelectionInput.snapshotFields
    rw [h.spec, h.epoch, h.cutoff, h.committed, h.predecessor]
  unfold computeGenericSelection
  rw [h.closes_eq, h.memberDecision_eq, h.sourceSemanticDigest_eq, hFields, h.spec]

end SameFacts

end TradingKernel.Selection
