/-
**Lists sorted by a key.**

`sortBy key items` are the items in the order of their keys, items of one key in the order in which they
were given. Where the keys are distinct the result is the same for every order of the items
(`sortBy_eq_of_perm`).
-/

import Mathlib.Data.List.Sort

namespace TradingKernel.SortBy

variable {ι κ : Type*} [LinearOrder κ] (key : ι → κ)

/-- The items in the order of their keys, as `sorted(items, key=key)`. -/
def sortBy (items : List ι) : List ι :=
  items.insertionSort fun first second => key first ≤ key second

instance isTrans_key : IsTrans ι fun first second => key first ≤ key second where
  trans _ _ _ before after := before.trans after

instance total_key : Std.Total (α := ι) fun first second => key first ≤ key second where
  total first second := le_total (key first) (key second)

variable {key} {items other : List ι} {item : ι}

theorem sortBy_perm : (sortBy key items).Perm items := List.perm_insertionSort _ _

theorem mem_sortBy : item ∈ sortBy key items ↔ item ∈ items := List.mem_insertionSort _

variable (key) in
theorem length_sortBy : (sortBy key items).length = items.length := List.length_insertionSort _ _

theorem pairwise_sortBy :
    (sortBy key items).Pairwise fun first second => key first ≤ key second :=
  List.pairwise_insertionSort _ _

/-- Distinct keys are in strict order. -/
theorem strict_sortBy (distinct : (items.map key).Nodup) :
    (sortBy key items).Pairwise fun first second => key first < key second := by
  have apart : (sortBy key items).Pairwise fun first second => key first ≠ key second := by
    rw [← List.pairwise_map (f := key) (R := (· ≠ ·))]
    exact (sortBy_perm.map key).nodup_iff.mpr distinct
  exact (pairwise_sortBy.and apart).imp fun both => lt_of_le_of_ne both.1 both.2

/-- A list in the order of its keys is sorted. -/
theorem sortBy_eq_self (ordered : items.Pairwise fun first second => key first ≤ key second) :
    sortBy key items = items :=
  ordered.insertionSort_eq

/-- **The order of the items does not matter** where the keys are distinct. -/
theorem sortBy_eq_of_perm (perm : other.Perm items) (distinct : (items.map key).Nodup) :
    sortBy key other = sortBy key items := by
  refine List.Perm.eq_of_pairwise (fun first second isFirst isSecond before after => ?_)
    pairwise_sortBy pairwise_sortBy ((sortBy_perm.trans perm).trans sortBy_perm.symm)
  exact List.inj_on_of_nodup_map distinct (perm.mem_iff.mp (mem_sortBy.mp isFirst))
    (mem_sortBy.mp isSecond) (le_antisymm before after)

end TradingKernel.SortBy
