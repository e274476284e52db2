/-
**Straight-line code that refuses: guards in the `Except` monad.**

`refuse bad error` is an `if bad: raise error`. A computation is a chain of guards and results, and
`refuse_bind_eq_ok`, `bind_eq_ok` and `pure_eq_ok` take a chain that has returned apart from its
front: every guard passed, every intermediate result exists, and the value is the one at the end.
-/

import Mathlib.Tactic.SplitIfs
import Mathlib.Tactic.TypeStar

namespace TradingKernel.Guard

variable {ε : Type*} {α β : Type}

/-- Refuse with `error` when `bad` holds. -/
def refuse (bad : Prop) [Decidable bad] (error : ε) : Except ε Unit :=
  if bad then .error error else .ok ⟨⟩

theorem refuse_eq_ok {bad : Prop} [Decidable bad] {error : ε} {done : Unit} :
    refuse bad error = .ok done ↔ ¬ bad := by
  unfold refuse
  split_ifs with holds <;> simp [holds]

/-- A part that has returned is its result for what follows. -/
theorem ok_bind (value : α) (next : α → Except ε β) : (Except.ok value >>= next) = next value := rfl

/-- A sequence that returned: its first part returned, and the rest did on that result. -/
theorem bind_eq_ok {first : Except ε α} {next : α → Except ε β} {value : β} :
    (first >>= next) = .ok value ↔ ∃ a, first = .ok a ∧ next a = .ok value := by
  cases first with
  | error error => simp [bind, Except.bind]
  | ok a => simp [bind, Except.bind]

theorem refuse_bind_eq_ok {bad : Prop} [Decidable bad] {error : ε}
    {next : Unit → Except ε β} {value : β} :
    (refuse bad error >>= next) = .ok value ↔ ¬ bad ∧ next ⟨⟩ = .ok value := by
  rw [bind_eq_ok]
  constructor
  · rintro ⟨⟨⟩, passed, rest⟩
    exact ⟨refuse_eq_ok.mp passed, rest⟩
  · rintro ⟨passed, rest⟩
    exact ⟨⟨⟩, refuse_eq_ok.mpr passed, rest⟩

/-- The value of an option, or a refusal. -/
def demand (value : Option α) (error : ε) : Except ε α :=
  match value with
  | none => .error error
  | some a => .ok a

theorem demand_eq_ok {source : Option α} {error : ε} {a : α} :
    demand source error = .ok a ↔ source = some a := by
  cases source <;> simp [demand]

theorem demand_bind_eq_ok {source : Option α} {error : ε} {next : α → Except ε β} {value : β} :
    (demand source error >>= next) = .ok value ↔ ∃ a, source = some a ∧ next a = .ok value := by
  rw [bind_eq_ok]
  cases source <;> simp [demand]

/-- A value that carries the proof that its check passed. -/
def certify (outcome : Except ε Unit) (build : outcome = .ok () → α) : Except ε α :=
  match outcome, build with
  | .ok (), build => .ok (build rfl)
  | .error error, _ => .error error

theorem certify_eq_ok {outcome : Except ε Unit} {build : outcome = .ok () → α} {value : α} :
    certify outcome build = .ok value ↔ ∃ valid, build valid = value := by
  cases outcome with
  | error error => simp [certify]
  | ok done => simp [certify]

/-- All parts return with given values where each of them does. -/
theorem mapM_eq_ok_iff {f : α → Except ε β} {items : List α} {values : List β} :
    items.mapM f = .ok values ↔ items.map f = values.map .ok := by
  induction items generalizing values with
  | nil => cases values <;> simp [pure, Except.pure]
  | cons item items ih =>
      rw [List.mapM_cons, bind_eq_ok]
      simp only [bind_eq_ok]
      cases values with
      | nil => simp [pure, Except.pure]
      | cons value values => simp [pure, Except.pure, ih]

theorem exists_of_mem_mapM {f : α → Except ε β} {items : List α} {values : List β}
    (h : items.mapM f = .ok values) {value : β} (hValue : value ∈ values) :
    ∃ item ∈ items, f item = .ok value := by
  have hMem : Except.ok value ∈ values.map (Except.ok (ε := ε)) := List.mem_map_of_mem hValue
  rwa [← mapM_eq_ok_iff.1 h, List.mem_map] at hMem

/-- Parts that all return, return together. -/
theorem exists_mapM_eq_ok {f : α → Except ε β} {items : List α}
    (h : ∀ item ∈ items, ∃ value, f item = .ok value) : ∃ values, items.mapM f = .ok values := by
  induction items with
  | nil => exact ⟨[], rfl⟩
  | cons item items ih =>
      obtain ⟨value, hValue⟩ := h item List.mem_cons_self
      obtain ⟨values, hValues⟩ := ih fun other hOther => h other (List.mem_cons_of_mem _ hOther)
      refine ⟨value :: values, mapM_eq_ok_iff.2 ?_⟩
      rw [List.map_cons, hValue, mapM_eq_ok_iff.1 hValues, List.map_cons]

/-- What parts return in one order, they return in every order. -/
theorem mapM_perm {f : α → Except ε β} {items other : List α} {values : List β}
    (perm : other.Perm items) (h : items.mapM f = .ok values) :
    ∃ others, other.mapM f = .ok others ∧ others.Perm values := by
  have results := perm.map f
  rw [mapM_eq_ok_iff.1 h] at results
  have returned : ∀ item ∈ other, ∃ value, f item = .ok value := by
    intro item hItem
    obtain ⟨value, -, hValue⟩ := List.mem_map.1 (results.mem_iff.1 (List.mem_map_of_mem hItem))
    exact ⟨value, hValue.symm⟩
  obtain ⟨others, hOthers⟩ := exists_mapM_eq_ok returned
  rw [mapM_eq_ok_iff.1 hOthers] at results
  refine ⟨others, hOthers, ?_⟩
  have values_perm := results.filterMap Except.toOption
  simpa [List.filterMap_map, Function.comp_def, Except.toOption] using values_perm

/-- Checks that all pass, pass one after the other. -/
theorem forM_eq_ok {check : α → Except ε Unit} {items : List α}
    (h : ∀ item ∈ items, check item = .ok ()) : items.forM check = .ok () := by
  induction items with
  | nil => rfl
  | cons item items ih =>
      rw [List.forM, h item List.mem_cons_self]
      exact ih fun other hOther => h other (List.mem_cons_of_mem _ hOther)

theorem pure_eq_ok {a value : α} : (pure a : Except ε α) = .ok value ↔ value = a := by
  simp [pure, Except.pure, eq_comm]

/-- A refusal under another name is still one. -/
theorem mapError_eq_ok {δ : Type*} {rename : ε → δ} {outcome : Except ε α} {value : α} :
    outcome.mapError rename = .ok value ↔ outcome = .ok value := by
  cases outcome <;> simp [Except.mapError]

theorem toOption_eq_some {outcome : Except ε α} {value : α} :
    outcome.toOption = some value ↔ outcome = .ok value := by
  cases outcome <;> simp [Except.toOption]

end TradingKernel.Guard
