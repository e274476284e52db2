/-
**Readings of a list from its end.**

A list read at fixed distances from its end does not see what stands far in front. `fromEnd?` is
one element, `List.rtake` the last ones; both agree on a list and on a longer one that ends in it
(`fromEnd?_of_suffix`, `rtake_of_suffix`). A list whose entries are numbered from its front has no
longer numbered list that ends in it (`eq_of_numbered`).
-/

import Mathlib.Algebra.Order.Ring.Int
import Mathlib.Data.List.DropRight
import Mathlib.Tactic.Ring
import Mathlib.Tactic.Linarith

namespace TradingKernel.Windows

variable {α : Type*} {shorter longer : List α}

/-- The `k`-th element from the end; the last one is the first. -/
def fromEnd? (items : List α) (k : ℕ) : Option α := items.reverse[k - 1]?

theorem fromEnd?_of_suffix (h : shorter <:+ longer) {k : ℕ} (positive : 0 < k)
    (within : k ≤ shorter.length) : fromEnd? longer k = fromEnd? shorter k := by
  obtain ⟨front, rfl⟩ := h
  unfold fromEnd?
  rw [List.reverse_append, List.getElem?_append_left]
  rw [List.length_reverse]
  omega

theorem exists_fromEnd? {items : List α} {k : ℕ} (positive : 0 < k) (within : k ≤ items.length) :
    ∃ item ∈ items, fromEnd? items k = some item := by
  have bound : k - 1 < items.reverse.length := by
    rw [List.length_reverse]
    omega
  refine ⟨items.reverse[k - 1], ?_, List.getElem?_eq_getElem bound⟩
  rw [← List.mem_reverse]
  exact List.getElem_mem bound

theorem rtake_of_suffix (h : shorter <:+ longer) {k : ℕ} (within : k ≤ shorter.length) :
    longer.rtake k = shorter.rtake k := by
  obtain ⟨front, rfl⟩ := h
  unfold List.rtake
  rw [List.length_append, List.drop_append, List.drop_eq_nil_of_le (by omega), List.nil_append]
  congr 1
  omega

/-- The last items begin with the one that is as far from the end. -/
theorem head?_rtake {items : List α} {k : ℕ} (positive : 0 < k) (within : k ≤ items.length) :
    (items.rtake k).head? = fromEnd? items k := by
  unfold List.rtake fromEnd?
  rw [List.head?_drop, List.getElem?_reverse (by omega)]
  congr 1
  omega

theorem length_rtake (items : List α) (k : ℕ) : (items.rtake k).length = min k items.length := by
  unfold List.rtake
  rw [List.length_drop]
  omega

theorem mem_of_mem_rtake {items : List α} {k : ℕ} {item : α} (h : item ∈ items.rtake k) :
    item ∈ items :=
  List.mem_of_mem_drop h

/-- A shorter reading ends a longer one. -/
theorem rtake_suffix_rtake (items : List α) {k n : ℕ} (h : k ≤ n) :
    items.rtake k <:+ items.rtake n := by
  unfold List.rtake
  have split : items.length - k = items.length - n + (items.length - k - (items.length - n)) := by
    omega
  rw [split, ← List.drop_drop]
  exact List.drop_suffix _ _

/-- **A reading that is long enough sees all that is wanted**, where everything after a wanted item is
wanted. -/
theorem filter_rtake {items : List α} {wanted : α → Bool} {n : ℕ}
    (upward : items.Pairwise fun earlier later => wanted earlier = true → wanted later = true)
    (enough : (items.filter wanted).length ≤ n) :
    (items.rtake n).filter wanted = items.filter wanted := by
  have parts : items.take (items.length - n) ++ items.rtake n = items := List.take_append_drop _ _
  have none_in_front : (items.take (items.length - n)).filter wanted = [] := by
    rw [List.filter_eq_nil_iff]
    intro front member isWanted
    rw [← parts, List.pairwise_append] at upward
    have all_behind : (items.rtake n).filter wanted = items.rtake n :=
      List.filter_eq_self.mpr fun later behind => upward.2.2 front member later behind isWanted
    have inFront : 0 < ((items.take (items.length - n)).filter wanted).length :=
      List.length_pos_of_mem (List.mem_filter.mpr ⟨member, isWanted⟩)
    have shorter : 0 < (items.take (items.length - n)).length := List.length_pos_of_mem member
    rw [← parts, List.filter_append, List.length_append, all_behind, length_rtake] at enough
    rw [List.length_take] at shorter
    omega
  conv_rhs => rw [← parts, List.filter_append, none_in_front, List.nil_append]

/-! ### Lists numbered from their front -/

/-- The labels of the entries run from `start` in steps of `step`. -/
def Numbered (label : α → ℤ) (start step : ℤ) (items : List α) : Prop :=
  ∀ entry ∈ items.zipIdx, label entry.1 = start + entry.2 * step

theorem eq_of_numbered {label : α → ℤ} {start step : ℤ} (h : shorter <:+ longer)
    (nonempty : shorter ≠ []) (positive : 0 < step) (hShorter : Numbered label start step shorter)
    (hLonger : Numbered label start step longer) : shorter = longer := by
  obtain ⟨front, rfl⟩ := h
  obtain ⟨first, rest, rfl⟩ := List.exists_cons_of_ne_nil nonempty
  have atFront : label first = start + ((0 : ℕ) : ℤ) * step :=
    hShorter (first, 0) (by simp)
  have behind : label first = start + (front.length : ℤ) * step :=
    hLonger (first, front.length) (by simp [List.mem_zipIdx_iff_getElem?])
  have none_in_front : (front.length : ℤ) * step = 0 := by
    rw [atFront] at behind
    push_cast at behind
    linarith
  have : front.length = 0 := by
    rcases mul_eq_zero.1 none_in_front with zero | zero
    · exact_mod_cast zero
    · omega
  rw [List.eq_nil_of_length_eq_zero this, List.nil_append]

end TradingKernel.Windows
