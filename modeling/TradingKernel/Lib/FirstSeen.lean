/-
**A dictionary that keeps what it saw first.**

`firstSeen key items` are the items in their order, each key once with the first item that has it, as a
dictionary holds them into which an item goes only under a key that is not there yet. A sum over it is a
sum over the keys (`sum_firstSeen`), and where items of one key are equal it depends on the items alone,
not on their order or number (`firstSeen_perm`).
-/

import Mathlib.Algebra.BigOperators.Group.Finset.Basic
import Mathlib.Data.Finset.Dedup
import Mathlib.Data.List.Nodup

namespace TradingKernel.FirstSeen

variable {ι κ : Type*} [DecidableEq κ] (key : ι → κ)

/-- Keep an item whose key is new. -/
def keepNew (seen : List ι) (item : ι) : List ι :=
  if key item ∈ seen.map key then seen else seen ++ [item]

/-- The items in their order, each key once. -/
def firstSeen (items : List ι) : List ι := items.foldl (keepNew key) []

variable {key} {seen items other : List ι} {item : ι} {k : κ}

/-! ### One item -/

theorem mem_of_mem_keepNew {kept : ι} (member : kept ∈ keepNew key seen item) :
    kept ∈ seen ∨ kept = item := by
  unfold keepNew at member
  split_ifs at member with known
  · exact .inl member
  · rw [List.mem_append, List.mem_singleton] at member
    exact member

theorem mem_keys_keepNew :
    k ∈ (keepNew key seen item).map key ↔ k ∈ seen.map key ∨ k = key item := by
  unfold keepNew
  split_ifs with known
  · constructor
    · exact Or.inl
    · rintro (member | rfl)
      · exact member
      · exact known
  · rw [List.map_append, List.mem_append, List.map_singleton, List.mem_singleton]

theorem nodup_keepNew (distinct : (seen.map key).Nodup) :
    ((keepNew key seen item).map key).Nodup := by
  unfold keepNew
  split_ifs with known
  · exact distinct
  · rw [List.map_append, List.map_singleton]
    exact List.nodup_append.mpr ⟨distinct, List.nodup_singleton _, by
      rintro a before b after rfl
      exact known (List.mem_singleton.mp after ▸ before)⟩

theorem find?_keepNew : (keepNew key seen item).find? (fun kept => key kept = k) =
    (seen ++ [item]).find? fun kept => key kept = k := by
  unfold keepNew
  split_ifs with known
  · rw [List.find?_append]
    obtain ⟨old, member, same⟩ := List.mem_map.mp known
    by_cases isKey : key item = k
    · have found : (seen.find? fun kept => key kept = k).isSome := by
        rw [List.find?_isSome]
        exact ⟨old, member, decide_eq_true (same.trans isKey)⟩
      rw [Option.or_of_isSome found]
    · rw [List.find?_singleton, decide_eq_false isKey]
      exact (Option.or_none ..).symm
  · rfl

/-! ### All items -/

theorem mem_foldl {kept : ι} (member : kept ∈ items.foldl (keepNew key) seen) :
    kept ∈ seen ∨ kept ∈ items := by
  induction items generalizing seen with
  | nil => exact .inl member
  | cons item items ih =>
      rcases ih member with before | after
      · rcases mem_of_mem_keepNew before with old | rfl
        · exact .inl old
        · exact .inr List.mem_cons_self
      · exact .inr (List.mem_cons_of_mem _ after)

theorem mem_keys_foldl : k ∈ (items.foldl (keepNew key) seen).map key ↔
    k ∈ seen.map key ∨ k ∈ items.map key := by
  induction items generalizing seen with
  | nil => simp
  | cons item items ih =>
      rw [List.foldl_cons, ih, mem_keys_keepNew, List.map_cons, List.mem_cons, or_assoc]

theorem nodup_foldl (distinct : (seen.map key).Nodup) :
    ((items.foldl (keepNew key) seen).map key).Nodup := by
  induction items generalizing seen with
  | nil => exact distinct
  | cons item items ih => exact ih (nodup_keepNew distinct)

theorem find?_foldl : (items.foldl (keepNew key) seen).find? (fun kept => key kept = k) =
    (seen ++ items).find? fun kept => key kept = k := by
  induction items generalizing seen with
  | nil => rw [List.append_nil, List.foldl_nil]
  | cons item items ih =>
      rw [List.foldl_cons, ih, List.find?_append, find?_keepNew, ← List.find?_append,
        List.append_assoc, List.singleton_append]

theorem mem_of_mem_firstSeen (member : item ∈ firstSeen key items) : item ∈ items :=
  (mem_foldl member).resolve_left List.not_mem_nil

theorem mem_keys_firstSeen : k ∈ (firstSeen key items).map key ↔ k ∈ items.map key := by
  unfold firstSeen
  rw [mem_keys_foldl, List.map_nil]
  exact or_iff_right List.not_mem_nil

theorem nodup_firstSeen : ((firstSeen key items).map key).Nodup :=
  nodup_foldl List.nodup_nil

theorem find?_firstSeen : (firstSeen key items).find? (fun kept => key kept = k) =
    items.find? fun kept => key kept = k :=
  find?_foldl

/-- In a list with distinct keys an item is the one found under its key. -/
theorem find?_eq_of_mem (distinct : (items.map key).Nodup) (member : item ∈ items) :
    items.find? (fun other => key other = key item) = some item := by
  induction items with
  | nil => exact absurd member List.not_mem_nil
  | cons head rest ih =>
      rw [List.map_cons, List.nodup_cons] at distinct
      rcases List.mem_cons.mp member with rfl | later
      · rw [List.find?_cons_of_pos]
        exact decide_eq_true rfl
      · rw [List.find?_cons_of_neg, ih distinct.2 later]
        intro same
        exact distinct.1 (of_decide_eq_true same ▸ List.mem_map_of_mem later)

/-- **A sum over the dictionary** is a sum over the keys. -/
theorem sum_firstSeen {M : Type*} [AddCommMonoid M] (value : ι → M) :
    ((firstSeen key items).map value).sum = ∑ k ∈ (items.map key).toFinset,
      ((items.find? fun item => key item = k).map value).getD 0 := by
  have keys : (items.map key).toFinset = ((firstSeen key items).map key).toFinset := by
    ext k
    rw [List.mem_toFinset, List.mem_toFinset, mem_keys_firstSeen]
  rw [keys, List.sum_toFinset _ nodup_firstSeen, List.map_map]
  refine congrArg List.sum (List.map_congr_left fun item member => ?_)
  show value item = ((items.find? fun other => key other = key item).map value).getD 0
  rw [← find?_firstSeen, find?_eq_of_mem nodup_firstSeen member]
  rfl

/-! ### Items that agree -/

/-- Items of one key are equal. -/
def Agree (key : ι → κ) (items : List ι) : Prop :=
  ∀ item ∈ items, ∀ other ∈ items, key item = key other → item = other

theorem mem_firstSeen (agree : Agree key items) : item ∈ firstSeen key items ↔ item ∈ items := by
  refine ⟨mem_of_mem_firstSeen, fun member => ?_⟩
  obtain ⟨kept, isKept, same⟩ :=
    List.mem_map.mp (mem_keys_firstSeen.mpr (List.mem_map_of_mem (f := key) member))
  rw [agree item member kept (mem_of_mem_firstSeen isKept) same.symm]
  exact isKept

/-- **Order and repetition do not matter** where items agree. -/
theorem firstSeen_perm (agree : Agree key items) (same : ∀ item, item ∈ other ↔ item ∈ items) :
    (firstSeen key other).Perm (firstSeen key items) := by
  have otherAgree : Agree key other := fun one isOne two isTwo =>
    agree one ((same one).mp isOne) two ((same two).mp isTwo)
  rw [List.perm_ext_iff_of_nodup (nodup_firstSeen.of_map _) (nodup_firstSeen.of_map _)]
  intro item
  rw [mem_firstSeen agree, mem_firstSeen otherAgree]
  exact same item

end TradingKernel.FirstSeen
