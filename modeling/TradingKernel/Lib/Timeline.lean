/-
**Evenly spaced times, and the first of them at which something happens.**

`steps start stop step` are the times from `start` on, `step` apart, that are before `stop`, as
`range(start, stop, step)` lists them. Along a list in the order of its times, the first item that
satisfies a condition is no later than any other one that does (`first_le`), so a weaker condition is
met no later than a stronger one.
-/

import Mathlib.Algebra.Order.Ring.Int
import Mathlib.Algebra.Ring.Divisibility.Basic
import Mathlib.Data.List.Sort
import Mathlib.Tactic.Linarith
import Mathlib.Tactic.Ring

namespace TradingKernel.Timeline

/-! ### Evenly spaced times -/

/-- `range(start, stop, step)`, for a positive step. -/
def steps (start stop step : ℤ) : List ℤ :=
  (List.range ((stop - start + step - 1) / step).toNat).map fun i : ℕ => start + (i : ℤ) * step

section Steps

variable {start stop step time : ℤ}

theorem mem_steps (positive : 0 < step) :
    time ∈ steps start stop step ↔ start ≤ time ∧ time < stop ∧ step ∣ time - start := by
  unfold steps
  rw [List.mem_map]
  constructor
  · rintro ⟨i, member, rfl⟩
    rw [List.mem_range, Int.lt_toNat, ← Int.add_one_le_iff, Int.le_ediv_iff_mul_le positive] at member
    have nonneg : 0 ≤ (i : ℤ) * step := mul_nonneg (Int.natCast_nonneg i) positive.le
    refine ⟨by linarith, by linarith, i, by ring⟩
  · rintro ⟨from_, before, i, spaced⟩
    have nonneg : 0 ≤ i := by
      by_contra negative
      have : step * i < 0 := mul_neg_of_pos_of_neg positive (not_le.mp negative)
      omega
    refine ⟨i.toNat, ?_, ?_⟩
    · rw [List.mem_range, Int.lt_toNat, Int.toNat_of_nonneg nonneg, ← Int.add_one_le_iff,
        Int.le_ediv_iff_mul_le positive]
      have : (i + 1) * step = step * i + step := by ring
      omega
    · rw [Int.toNat_of_nonneg nonneg, mul_comm]
      omega

theorem pairwise_steps (positive : 0 < step) : (steps start stop step).Pairwise (· < ·) := by
  unfold steps
  rw [List.pairwise_map]
  refine List.pairwise_lt_range.imp fun {i j} before => ?_
  have : (i : ℤ) * step < j * step := mul_lt_mul_of_pos_right (Int.ofNat_lt.mpr before) positive
  linarith

theorem eq_steps_of_mem_iff {start' stop' : ℤ} (positive : 0 < step)
    (same : ∀ time, time ∈ steps start stop step ↔ time ∈ steps start' stop' step) :
    steps start stop step = steps start' stop' step :=
  (pairwise_steps positive).eq_of_mem_iff (pairwise_steps positive) same

/-- An inclusive end, one of the times itself. -/
theorem steps_through (positive : 0 < step) {last : ℤ} (aligned : step ∣ last - start) :
    steps start (last + 1) step = steps start (last + step) step := by
  refine eq_steps_of_mem_iff positive fun time => ?_
  rw [mem_steps positive, mem_steps positive]
  refine and_congr_right fun _ => and_congr_left fun spaced => ⟨fun before => by omega, fun before => ?_⟩
  -- what is after the end is a whole step after it
  by_contra after
  have apart : step ∣ time - last := by
    have := dvd_sub spaced aligned
    rwa [sub_sub_sub_cancel_right] at this
  have := Int.le_of_dvd (by omega) apart
  omega

/-- A row of times, cut at one of them. -/
theorem steps_append (positive : 0 < step) {middle : ℤ} (aligned : step ∣ middle - start)
    (after : start ≤ middle) (before : middle ≤ stop) :
    steps start middle step ++ steps middle stop step = steps start stop step := by
  refine List.Pairwise.eq_of_mem_iff (r := (· < ·)) ?_ (pairwise_steps positive) fun time => ?_
  · refine List.pairwise_append.mpr ⟨pairwise_steps positive, pairwise_steps positive, ?_⟩
    intro early isEarly late isLate
    rw [mem_steps positive] at isEarly isLate
    exact isEarly.2.1.trans_le isLate.1
  · have spaced : step ∣ time - middle ↔ step ∣ time - start := by
      rw [← sub_add_sub_cancel time middle start, dvd_add_left aligned]
    rw [List.mem_append, mem_steps positive, mem_steps positive, mem_steps positive, spaced]
    constructor
    · rintro (⟨since, earlier, isSpaced⟩ | ⟨since, earlier, isSpaced⟩)
      · exact ⟨since, earlier.trans_le before, isSpaced⟩
      · exact ⟨after.trans since, earlier, isSpaced⟩
    · rintro ⟨since, earlier, isSpaced⟩
      rcases lt_or_ge time middle with early | late
      · exact .inl ⟨since, early, isSpaced⟩
      · exact .inr ⟨late, earlier, isSpaced⟩

theorem length_steps (positive : 0 < step) (count : ℤ) :
    (steps start (start + count * step) step).length = count.toNat := by
  unfold steps
  rw [List.length_map, List.length_range]
  congr 1
  have sum : start + count * step - start + step - 1 = step - 1 + count * step := by ring
  rw [sum, Int.add_mul_ediv_right _ _ positive.ne', Int.ediv_eq_zero_of_lt (by omega) (by omega),
    zero_add]

end Steps

/-! ### The first time -/

section First

variable {α : Type*} {time : α → ℤ} {items : List α}

/-- The first item that satisfies a condition is no later than another one that does. -/
theorem first_le (ordered : items.Pairwise fun earlier later => time earlier < time later)
    {condition : α → Bool} {first item : α} (found : items.find? condition = some first)
    (member : item ∈ items) (holds : condition item = true) : time first ≤ time item := by
  induction items with
  | nil => exact absurd member List.not_mem_nil
  | cons head rest ih =>
      obtain ⟨before, restOrdered⟩ := List.pairwise_cons.mp ordered
      rw [List.find?_cons] at found
      split at found
      · obtain rfl := Option.some.inj found
        rcases List.mem_cons.mp member with rfl | later
        · exact le_rfl
        · exact (before item later).le
      · rename_i fails
        rcases List.mem_cons.mp member with rfl | later
        · rw [fails] at holds
          exact absurd holds (by simp)
        · exact ih restOrdered found later

theorem exists_first {condition : α → Bool} {item : α} (member : item ∈ items)
    (holds : condition item = true) : ∃ first, items.find? condition = some first := by
  rw [← Option.isSome_iff_exists, List.find?_isSome]
  exact ⟨item, member, holds⟩

/-- The time of the first item that satisfies a condition. -/
def firstTime (time : α → ℤ) (items : List α) (condition : α → Bool) : Option ℤ :=
  (items.find? condition).map time

theorem firstTime_isSome {condition : α → Bool} :
    (firstTime time items condition).isSome ↔ ∃ item ∈ items, condition item = true := by
  unfold firstTime
  rw [Option.isSome_map, List.find?_isSome]

theorem firstTime_eq_some {condition : α → Bool} {t : ℤ}
    (found : firstTime time items condition = some t) :
    ∃ item ∈ items, condition item = true ∧ time item = t := by
  obtain ⟨item, first, rfl⟩ := Option.map_eq_some_iff.mp found
  exact ⟨item, List.mem_of_find?_eq_some first, List.find?_some first, rfl⟩

theorem firstTime_le (ordered : items.Pairwise fun earlier later => time earlier < time later)
    {condition : α → Bool} {t : ℤ} (found : firstTime time items condition = some t) {item : α}
    (member : item ∈ items) (holds : condition item = true) : t ≤ time item := by
  obtain ⟨first, isFirst, rfl⟩ := Option.map_eq_some_iff.mp found
  exact first_le ordered isFirst member holds

/-- **A weaker condition is met no later.** -/
theorem firstTime_mono (ordered : items.Pairwise fun earlier later => time earlier < time later)
    {weaker stronger : α → Bool} (implies : ∀ item, stronger item = true → weaker item = true)
    {late : ℤ} (found : firstTime time items stronger = some late) :
    ∃ early, firstTime time items weaker = some early ∧ early ≤ late := by
  obtain ⟨item, member, holds, rfl⟩ := firstTime_eq_some found
  obtain ⟨first, isFirst⟩ := exists_first member (implies item holds)
  exact ⟨time first, by rw [firstTime, isFirst]; rfl,
    first_le ordered isFirst member (implies item holds)⟩

/-- **One first time before another**: an item with the one condition is before every item with the
other. -/
theorem firstTime_before_iff
    (ordered : items.Pairwise fun earlier later => time earlier < time later)
    {condition other : α → Bool} :
    (∃ t ∈ firstTime time items condition, ∀ s ∈ firstTime time items other, t < s) ↔
      ∃ item ∈ items, condition item = true ∧
        ∀ later ∈ items, other later = true → time item < time later := by
  constructor
  · rintro ⟨t, found, before⟩
    obtain ⟨item, member, holds, rfl⟩ := firstTime_eq_some found
    refine ⟨item, member, holds, fun later laterMember laterHolds => ?_⟩
    obtain ⟨first, isFirst⟩ := exists_first laterMember laterHolds
    have found : firstTime time items other = some (time first) := by rw [firstTime, isFirst]; rfl
    exact (before _ found).trans_le (firstTime_le ordered found laterMember laterHolds)
  · rintro ⟨item, member, holds, before⟩
    obtain ⟨first, isFirst⟩ := exists_first member holds
    have found : firstTime time items condition = some (time first) := by
      rw [firstTime, isFirst]
      rfl
    refine ⟨time first, found, fun s otherFound => ?_⟩
    obtain ⟨later, laterMember, laterHolds, rfl⟩ := firstTime_eq_some otherFound
    exact (firstTime_le ordered found member holds).trans_lt (before later laterMember laterHolds)

end First

end TradingKernel.Timeline
