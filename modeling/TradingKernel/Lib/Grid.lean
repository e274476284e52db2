/-
**Rounding to a grid.**

The multiples of a positive step are a grid. `floorTo` is the largest grid point below a value
(`le_floorTo_iff`) and `ceilTo` the least above it (`ceilTo_le_iff`). Splitting a grid point into the
rounded-down share of a fraction and the rest gives two parts that both grow with the whole
(`floorTo_mono`, `rest_mono`).
-/

import Mathlib.Algebra.Order.Floor.Ring
import Mathlib.Algebra.Order.Field.Basic
import Mathlib.Data.Rat.Floor
import Mathlib.Tactic.Linarith

namespace TradingKernel

section Grid

variable {α : Type*} [Field α] {step value other : α}

/-- The value is a multiple of the step. -/
def OnGrid (step value : α) : Prop := ∃ n : ℤ, value = n * step

theorem OnGrid.zero : OnGrid step 0 := ⟨0, by simp⟩

theorem OnGrid.step_self : OnGrid step step := ⟨1, by simp⟩

/-- A multiple of a multiple is a multiple. -/
theorem OnGrid.trans {unit : α} (fine : OnGrid unit step) (grid : OnGrid step value) :
    OnGrid unit value := by
  obtain ⟨m, rfl⟩ := fine
  obtain ⟨n, rfl⟩ := grid
  exact ⟨n * m, by push_cast; ring⟩

theorem OnGrid.add (first : OnGrid step value) (second : OnGrid step other) :
    OnGrid step (value + other) := by
  obtain ⟨m, rfl⟩ := first
  obtain ⟨n, rfl⟩ := second
  exact ⟨m + n, by push_cast; ring⟩

theorem OnGrid.sub (first : OnGrid step value) (second : OnGrid step other) :
    OnGrid step (value - other) := by
  obtain ⟨m, rfl⟩ := first
  obtain ⟨n, rfl⟩ := second
  exact ⟨m - n, by push_cast; ring⟩

variable [LinearOrder α]

theorem OnGrid.min (first : OnGrid step value) (second : OnGrid step other) :
    OnGrid step (min value other) := by
  rcases le_total value other with below | above
  · rwa [min_eq_left below]
  · rwa [min_eq_right above]

variable [FloorRing α]

/-- The value rounded down to a multiple of the step. -/
def floorTo (step value : α) : α := ⌊value / step⌋ * step

/-- The value rounded up to a multiple of the step. -/
def ceilTo (step value : α) : α := ⌈value / step⌉ * step

theorem onGrid_floorTo : OnGrid step (floorTo step value) := ⟨_, rfl⟩

theorem onGrid_ceilTo : OnGrid step (ceilTo step value) := ⟨_, rfl⟩

variable [IsStrictOrderedRing α] {fraction : α}

/-- **The largest grid point below the value.** -/
theorem le_floorTo_iff (positive : 0 < step) {point : α} (grid : OnGrid step point) :
    point ≤ floorTo step value ↔ point ≤ value := by
  obtain ⟨n, rfl⟩ := grid
  rw [floorTo, mul_le_mul_iff_left₀ positive, Int.cast_le, Int.le_floor, le_div_iff₀ positive]

/-- **The least grid point above the value.** -/
theorem ceilTo_le_iff (positive : 0 < step) {point : α} (grid : OnGrid step point) :
    ceilTo step value ≤ point ↔ value ≤ point := by
  obtain ⟨n, rfl⟩ := grid
  rw [ceilTo, mul_le_mul_iff_left₀ positive, Int.cast_le, Int.ceil_le, div_le_iff₀ positive]

theorem floorTo_le (positive : 0 < step) : floorTo step value ≤ value :=
  (le_floorTo_iff positive onGrid_floorTo).mp le_rfl

theorem le_ceilTo (positive : 0 < step) : value ≤ ceilTo step value :=
  (ceilTo_le_iff positive onGrid_ceilTo).mp le_rfl

/-- What a rounded value does not exceed, the value exceeds by less than a step. -/
theorem floorTo_le_iff (positive : 0 < step) {point : α} (grid : OnGrid step point) :
    floorTo step value ≤ point ↔ value < point + step := by
  obtain ⟨n, rfl⟩ := grid
  rw [floorTo, mul_le_mul_iff_left₀ positive, Int.cast_le, ← Int.lt_add_one_iff, Int.floor_lt,
    div_lt_iff₀ positive]
  push_cast
  rw [add_mul, one_mul]

/-- A grid point is not rounded. -/
theorem floorTo_of_onGrid (positive : 0 < step) (grid : OnGrid step value) :
    floorTo step value = value :=
  le_antisymm (floorTo_le positive) ((le_floorTo_iff positive grid).mpr le_rfl)

/-- **What the rest of a split reaches**: a grid point that lies less than a step above the rest
before rounding. -/
theorem le_rest_iff (positive : 0 < step) {point part : α} (grid : OnGrid step point)
    (whole : OnGrid step value) :
    point ≤ value - floorTo step part ↔ point - step < value - part := by
  rw [le_sub_comm, floorTo_le_iff positive (whole.sub grid)]
  constructor
  · intro below
    linarith
  · intro above
    linarith

/-- Nothing is left of a value below the step. -/
theorem floorTo_pos_iff (positive : 0 < step) : 0 < floorTo step value ↔ step ≤ value := by
  rw [← le_floorTo_iff positive OnGrid.step_self, floorTo]
  constructor
  · intro nonzero
    have one : (1 : ℤ) ≤ ⌊value / step⌋ := by
      have := (mul_pos_iff_of_pos_right positive).mp nonzero
      exact_mod_cast this
    calc step = ((1 : ℤ) : α) * step := by simp
      _ ≤ _ := mul_le_mul_of_nonneg_right (Int.cast_le.mpr one) positive.le
  · exact positive.trans_le

theorem floorTo_mono (positive : 0 < step) (grows : value ≤ other) :
    floorTo step value ≤ floorTo step other :=
  (le_floorTo_iff positive onGrid_floorTo).mpr ((floorTo_le positive).trans grows)

/-- **The rest of a split grows with the whole.** -/
theorem rest_mono (positive : 0 < step) (small : OnGrid step value) (large : OnGrid step other)
    (grows : value ≤ other) (part : fraction ≤ 1) :
    value - floorTo step (value * fraction) ≤ other - floorTo step (other * fraction) := by
  have grid : OnGrid step (floorTo step (other * fraction) - (other - value)) :=
    onGrid_floorTo.sub (large.sub small)
  have below : floorTo step (other * fraction) - (other - value) ≤ value * fraction := by
    have share : (other - value) * fraction ≤ other - value :=
      mul_le_of_le_one_right (sub_nonneg.mpr grows) part
    have rounded : floorTo step (other * fraction) ≤ other * fraction := floorTo_le positive
    rw [sub_mul] at share
    linarith
  have fits := (le_floorTo_iff positive grid).mpr below
  linarith

end Grid

end TradingKernel
