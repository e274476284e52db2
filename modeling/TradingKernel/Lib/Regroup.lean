/-
**Regrouping a list of weighted items.**

Each item has a key and a weight. A regrouping permutes the items and replaces an item by parts of the
same key whose weights add up to its own, any number of times. What is additive in the weight, for
each key, has the same total before and after (`Regrouped.total_eq`).
-/

import Mathlib.Algebra.BigOperators.Group.List.Basic
import Mathlib.Algebra.Group.Hom.Defs

namespace TradingKernel.Regroup

variable {α κ M N : Type*} [AddCommMonoid M] [AddCommMonoid N] {key : α → κ} {weight : α → M}

/-- The second list is the first one, permuted and with items split into parts. -/
inductive Regrouped (key : α → κ) (weight : α → M) : List α → List α → Prop where
  | perm {items other : List α} : items.Perm other → Regrouped key weight items other
  | split {item : α} {parts : List α} (rest : List α) :
      (∀ part ∈ parts, key part = key item) → (parts.map weight).sum = weight item →
      Regrouped key weight (item :: rest) (parts ++ rest)
  | trans {items middle other : List α} : Regrouped key weight items middle →
      Regrouped key weight middle other → Regrouped key weight items other

/-- The total of a measure that depends on key and weight. -/
def total (key : α → κ) (weight : α → M) (value : κ → M →+ N) (items : List α) : N :=
  (items.map fun item => value (key item) (weight item)).sum

theorem total_perm (value : κ → M →+ N) {items other : List α} (same : items.Perm other) :
    total key weight value items = total key weight value other :=
  (same.map _).sum_eq

theorem total_append (value : κ → M →+ N) (items other : List α) :
    total key weight value (items ++ other) =
      total key weight value items + total key weight value other := by
  unfold total
  rw [List.map_append, List.sum_append]

/-- Items of one key count as their weights added up. -/
theorem total_of_key (value : κ → M →+ N) {items : List α} {k : κ}
    (same : ∀ item ∈ items, key item = k) :
    total key weight value items = value k (items.map weight).sum := by
  unfold total
  rw [map_list_sum, List.map_map]
  congr 1
  refine List.map_congr_left fun item member => ?_
  rw [Function.comp_apply, same item member]

/-- **Regrouping leaves every total as it was.** -/
theorem Regrouped.total_eq {items other : List α} (regrouped : Regrouped key weight items other)
    (value : κ → M →+ N) : total key weight value other = total key weight value items := by
  induction regrouped with
  | perm same => exact (total_perm value same).symm
  | @split item parts rest same whole =>
      rw [total_append, total_of_key value same, whole]
      unfold total
      rw [List.map_cons, List.sum_cons]
  | trans _ _ first second => rw [second, first]

end TradingKernel.Regroup
