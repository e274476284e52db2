/-
**Decimal arithmetic with a bounded number of digits.**

A context rounds every result to its number of digits, half to even, keeps it on the grid of its least
exponent, and refuses what is then beyond its largest exponent. A value that has been rounded is
rounded to itself (`rounded_of_representable`), and so is its negative.
-/

import Mathlib.Data.Int.Log
import TradingKernel.Lib.Grid
import TradingKernel.Lib.Guard

namespace TradingKernel.Decimal

open Guard

/-! ### Rounding to an integer -/

/-- The nearest integer, the even one of two. -/
def roundHalfEven (value : ℚ) : ℤ :=
  let rest := value - ⌊value⌋
  if rest < 1 / 2 ∨ (rest = 1 / 2 ∧ ⌊value⌋ % 2 = 0) then ⌊value⌋ else ⌊value⌋ + 1

theorem roundHalfEven_intCast (n : ℤ) : roundHalfEven n = n := by
  unfold roundHalfEven
  rw [Int.floor_intCast, sub_self]
  exact if_pos (.inl (by norm_num))

theorem le_roundHalfEven {n : ℤ} {value : ℚ} (above : n ≤ value) : n ≤ roundHalfEven value := by
  have floor : n ≤ ⌊value⌋ := Int.le_floor.mpr above
  unfold roundHalfEven
  dsimp only
  split_ifs
  · exact floor
  · omega

theorem roundHalfEven_le {n : ℤ} {value : ℚ} (below : value ≤ n) : roundHalfEven value ≤ n := by
  rcases below.lt_or_eq with before | rfl
  · have floor : ⌊value⌋ < n := Int.floor_lt.mpr before
    unfold roundHalfEven
    dsimp only
    split_ifs
    · omega
    · omega
  · rw [roundHalfEven_intCast]

/-! ### Contexts -/

/-- The digits of a result, the least exponent of a digit, and the largest exponent of the first. -/
structure Context where
  precision : ℕ
  leastExponent : ℤ
  largestExponent : ℤ
  positive : 0 < precision

namespace Context

variable (context : Context)

/-- The exponent of the last digit of a result. -/
def exponentOf (value : ℚ) : ℤ :=
  max (Int.log 10 |value| - (context.precision - 1)) context.leastExponent

/-- The value with the digits of a result. -/
def rounded (value : ℚ) : ℚ :=
  roundHalfEven (value / 10 ^ context.exponentOf value) * 10 ^ context.exponentOf value

/-- The result of an operation. -/
def finish (value : ℚ) : Except String ℚ := do
  refuse (10 ^ (context.largestExponent + 1) ≤ |context.rounded value|) "Overflow"
  return context.rounded value

def add (first second : ℚ) : Except String ℚ := context.finish (first + second)

def sub (first second : ℚ) : Except String ℚ := context.finish (first - second)

def div (numerator denominator : ℚ) : Except String ℚ := do
  refuse (denominator = 0) "DivisionByZero"
  context.finish (numerator / denominator)

def neg (value : ℚ) : Except String ℚ := context.finish (-value)

def abs (value : ℚ) : Except String ℚ := context.finish |value|

/-- `sum(values, Decimal(0))`. -/
def sum (values : List ℚ) : Except String ℚ := values.foldlM context.add 0

variable {context} {value result : ℚ}

theorem finish_eq_ok : context.finish value = .ok result ↔
    |context.rounded value| < 10 ^ (context.largestExponent + 1) ∧
      result = context.rounded value := by
  unfold finish
  rw [refuse_bind_eq_ok, pure_eq_ok, not_le]

theorem rounded_nonneg (nonneg : 0 ≤ value) : 0 ≤ context.rounded value := by
  have unit : (0 : ℚ) < 10 ^ context.exponentOf value := zpow_pos (by norm_num) _
  have scaled : ((0 : ℤ) : ℚ) ≤ value / 10 ^ context.exponentOf value := by
    rw [Int.cast_zero]
    exact div_nonneg nonneg unit.le
  exact mul_nonneg (by exact_mod_cast le_roundHalfEven scaled) unit.le

/-- A value with no more digits than a result. -/
def Representable (context : Context) (value : ℚ) : Prop :=
  ∃ (digits exponent : ℤ), |digits| < 10 ^ context.precision ∧ context.leastExponent ≤ exponent ∧
    value = digits * 10 ^ exponent

theorem representable_zero : context.Representable 0 :=
  ⟨0, context.leastExponent, by simp, le_rfl, by simp⟩

theorem Representable.neg (fits : context.Representable value) : context.Representable (-value) := by
  obtain ⟨digits, exponent, few, least, rfl⟩ := fits
  exact ⟨-digits, exponent, by rwa [abs_neg], least, by push_cast; ring⟩

/-- **A value that fits is not rounded.** -/
theorem rounded_of_representable (fits : context.Representable value) :
    context.rounded value = value := by
  obtain ⟨digits, exponent, few, least, rfl⟩ := fits
  have ten : (0 : ℚ) < 10 := by norm_num
  by_cases zero : digits = 0
  · subst zero
    unfold rounded
    rw [Int.cast_zero, zero_mul, zero_div]
    have none : roundHalfEven 0 = 0 := by
      simpa using roundHalfEven_intCast 0
    rw [none, Int.cast_zero, zero_mul]
  · have nonzero : (0 : ℚ) < |(digits : ℚ) * 10 ^ exponent| := by
      rw [abs_pos]
      exact mul_ne_zero (by exact_mod_cast zero) (zpow_pos ten _).ne'
    have size : |(digits : ℚ) * 10 ^ exponent| < (10 : ℚ) ^ (exponent + context.precision) := by
      rw [abs_mul, abs_of_pos (zpow_pos ten exponent), add_comm, zpow_add₀ ten.ne', zpow_natCast]
      exact mul_lt_mul_of_pos_right (by exact_mod_cast few) (zpow_pos ten _)
    have log : Int.log 10 |(digits : ℚ) * 10 ^ exponent| < exponent + context.precision :=
      (Int.lt_zpow_iff_log_lt (by norm_num) nonzero).mp (by exact_mod_cast size)
    have coarser : context.exponentOf (digits * 10 ^ exponent) ≤ exponent := by
      refine max_le ?_ least
      omega
    obtain ⟨steps, isSteps⟩ := Int.eq_ofNat_of_zero_le (sub_nonneg.mpr coarser)
    have scaled : (digits : ℚ) * 10 ^ exponent / 10 ^ context.exponentOf (digits * 10 ^ exponent) =
        ((digits * 10 ^ steps : ℤ) : ℚ) := by
      rw [mul_div_assoc, ← zpow_sub₀ ten.ne', isSteps]
      push_cast
      rw [zpow_natCast]
    unfold rounded
    rw [scaled, roundHalfEven_intCast, ← scaled]
    exact div_mul_cancel₀ _ (zpow_pos ten _).ne'

/-- **A rounded value fits.** -/
theorem representable_rounded (value : ℚ) : context.Representable (context.rounded value) := by
  have ten : (0 : ℚ) < 10 := by norm_num
  let exponent := context.exponentOf value
  let digits := roundHalfEven (value / 10 ^ exponent)
  have least : context.leastExponent ≤ exponent := le_max_right _ _
  have size : |value| ≤ (10 : ℚ) ^ context.precision * 10 ^ exponent := by
    by_cases zero : value = 0
    · rw [zero, abs_zero]
      exact mul_nonneg (pow_nonneg ten.le _) (zpow_pos ten _).le
    · have below := Int.lt_zpow_succ_log_self (b := 10) (by norm_num) |value|
      have finer : Int.log 10 |value| + 1 ≤ context.precision + exponent := by
        have := le_max_left (Int.log 10 |value| - (context.precision - 1)) context.leastExponent
        have : Int.log 10 |value| - (context.precision - 1) ≤ exponent := this
        omega
      rw [← zpow_natCast, ← zpow_add₀ ten.ne']
      refine below.le.trans ?_
      exact_mod_cast zpow_le_zpow_right₀ (by norm_num : (1 : ℚ) ≤ 10) finer
  have bounds : |value / 10 ^ exponent| ≤ ((10 ^ context.precision : ℤ) : ℚ) := by
    rw [abs_div, abs_of_pos (zpow_pos ten exponent), div_le_iff₀ (zpow_pos ten exponent)]
    exact_mod_cast size
  rw [abs_le] at bounds
  have few : |digits| ≤ 10 ^ context.precision := by
    rw [abs_le]
    exact ⟨le_roundHalfEven (by exact_mod_cast bounds.1), roundHalfEven_le bounds.2⟩
  rcases few.lt_or_eq with fewer | full
  · exact ⟨digits, exponent, fewer, least, rfl⟩
  · -- all digits carried: one more power of ten, and one digit less
    obtain ⟨others, isOthers⟩ : ∃ others, context.precision = others + 1 :=
      Nat.exists_eq_succ_of_ne_zero context.positive.ne'
    refine ⟨digits.sign * 10 ^ others, exponent + 1, ?_, by omega, ?_⟩
    · rw [abs_mul, abs_of_pos (by positivity : (0 : ℤ) < 10 ^ others), isOthers, pow_succ]
      have unit : |digits.sign| ≤ 1 := by
        rcases Int.sign_trichotomy digits with sign | sign | sign
        · rw [sign]
          decide
        · rw [sign]
          decide
        · rw [sign]
          decide
      have positive : (0 : ℤ) < 10 ^ others := by positivity
      nlinarith
    · have parts : digits = digits.sign * (10 ^ others * 10) := by
        rw [← pow_succ, ← isOthers, ← full, Int.sign_mul_abs]
      show (digits : ℚ) * 10 ^ exponent = _
      rw [zpow_add₀ ten.ne', zpow_one, show (digits : ℚ) =
        ((digits.sign * (10 ^ others * 10) : ℤ) : ℚ) by rw [← parts]]
      push_cast
      ring

/-! ### Values that operations return -/

/-- A value that an operation returns unchanged. -/
def Settled (context : Context) (value : ℚ) : Prop := context.finish value = .ok value

theorem settled_iff : context.Settled value ↔
    |context.rounded value| < 10 ^ (context.largestExponent + 1) ∧
      value = context.rounded value :=
  finish_eq_ok

/-- A value that fits is settled below the largest one. -/
theorem settled_of_representable (fits : context.Representable value)
    (inside : |value| < 10 ^ (context.largestExponent + 1)) : context.Settled value := by
  rw [settled_iff, rounded_of_representable fits]
  exact ⟨inside, rfl⟩

theorem settled_zero (context : Context) : context.Settled 0 := by
  refine settled_of_representable representable_zero ?_
  rw [abs_zero]
  exact zpow_pos (by norm_num) _

/-- **Every result is settled.** -/
theorem settled_of_finish (returned : context.finish value = .ok result) :
    context.Settled result := by
  obtain ⟨inside, rfl⟩ := finish_eq_ok.mp returned
  exact settled_of_representable (representable_rounded value) inside

/-- The negative of a settled value is returned. -/
theorem Settled.neg (settled : context.Settled value) : context.neg value = .ok (-value) := by
  obtain ⟨inside, same⟩ := settled_iff.mp settled
  have fits : context.Representable value := by
    rw [same]
    exact representable_rounded value
  rw [← same] at inside
  exact settled_of_representable fits.neg (by rwa [abs_neg])

/-- A sum is settled. -/
theorem settled_of_sum {values : List ℚ} (returned : context.sum values = .ok result) :
    context.Settled result := by
  suffices general : ∀ start, context.Settled start →
      values.foldlM context.add start = .ok result → context.Settled result from
    general 0 (settled_zero context) returned
  clear returned
  induction values with
  | nil =>
      intro start settled returned
      obtain rfl := pure_eq_ok.mp returned
      exact settled
  | cons first rest ih =>
      intro start _ returned
      rw [List.foldlM_cons, bind_eq_ok] at returned
      obtain ⟨next, added, others⟩ := returned
      exact ih next (settled_of_finish added) others

/-- A sum of nonnegative values is nonnegative. -/
theorem sum_nonneg {values : List ℚ} (nonneg : ∀ item ∈ values, 0 ≤ item)
    (returned : context.sum values = .ok result) : 0 ≤ result := by
  suffices general : ∀ start, 0 ≤ start → values.foldlM context.add start = .ok result →
      0 ≤ result from general 0 le_rfl returned
  clear returned
  induction values with
  | nil =>
      intro start positive returned
      obtain rfl := pure_eq_ok.mp returned
      exact positive
  | cons first rest ih =>
      intro start positive returned
      rw [List.foldlM_cons, bind_eq_ok] at returned
      obtain ⟨next, added, others⟩ := returned
      obtain ⟨-, rfl⟩ := finish_eq_ok.mp added
      refine ih (fun item member => nonneg item (List.mem_cons_of_mem _ member)) _ ?_ others
      exact rounded_nonneg (add_nonneg positive (nonneg first List.mem_cons_self))

end Context

end TradingKernel.Decimal
