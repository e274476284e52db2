/-
**Lines joined into a convex schedule.**

A schedule is a list of segments, each a line on a half-open interval `[floor, cap)`, where every
segment takes over from the one before it at the cap of that one: the two lines meet there and the
second is at least as steep. Such a schedule is the maximum of its lines (`height_le_of_contains`),
so the height it reads at the segment that contains a point is a convex function of the point
(`convexOn_heightAt`), on a set without gaps (`ordConnected_covered`).
-/

import Mathlib.Analysis.Convex.Jensen
import Mathlib.Data.List.Chain

namespace TradingKernel.JoinedLines

variable {K : Type} [Field K] [LinearOrder K]

/-! ### Segments -/

/-- A line on `[floor, cap)`, without a cap on `[floor, ∞)`. -/
structure Segment (K : Type) [LT K] where
  floor : K
  cap : Option K
  slope : K
  offset : K
  ordered : ∀ top ∈ cap, floor < top

namespace Segment

/-- The height of the segment's line, also outside the segment. -/
def height (segment : Segment K) (x : K) : K := x * segment.slope - segment.offset

def Contains (segment : Segment K) (x : K) : Prop :=
  segment.floor ≤ x ∧ ∀ top ∈ segment.cap, x < top

instance (segment : Segment K) (x : K) : Decidable (segment.Contains x) :=
  inferInstanceAs (Decidable (_ ∧ _))

/-- The second segment takes over from the first at its own floor. -/
structure Joins (first second : Segment K) : Prop where
  cap_eq : first.cap = some second.floor
  steeper : first.slope ≤ second.slope
  meet : second.height second.floor = first.height second.floor

end Segment

open Segment

/-- Each segment takes over from the one before it. -/
def Joined (segments : List (Segment K)) : Prop := segments.IsChain Joins

theorem Joined.tail {segment : Segment K} {segments : List (Segment K)}
    (h : Joined (segment :: segments)) : Joined segments := List.IsChain.tail h

theorem Joined.head {first second : Segment K} {segments : List (Segment K)}
    (h : Joined (first :: second :: segments)) : Joins first second := by
  rw [Joined, List.isChain_cons_cons] at h
  exact h.1

/-- The floors ascend. -/
theorem floor_le_of_mem {first : Segment K} {segments : List (Segment K)}
    (h : Joined (first :: segments)) {segment : Segment K} (hMem : segment ∈ first :: segments) :
    first.floor ≤ segment.floor := by
  induction segments generalizing first with
  | nil =>
      rw [List.mem_singleton] at hMem
      rw [hMem]
  | cons second rest ih =>
      rcases List.mem_cons.1 hMem with rfl | hRest
      · exact le_rfl
      · have hStep : first.floor < second.floor :=
          first.ordered second.floor h.head.cap_eq
        exact hStep.le.trans (ih h.tail hRest)

/-! ### Coverage -/

/-- The points that some segment contains. -/
def covered (segments : List (Segment K)) : Set K :=
  {x | ∃ segment ∈ segments, segment.Contains x}

/-- Between the first floor and a covered point every point is covered. -/
theorem covered_below {first : Segment K} {segments : List (Segment K)}
    (h : Joined (first :: segments)) {x y : K} (hFloor : first.floor ≤ x) (hxy : x ≤ y)
    (hy : y ∈ covered (first :: segments)) : x ∈ covered (first :: segments) := by
  induction segments generalizing first with
  | nil =>
      obtain ⟨segment, hMem, -, hCap⟩ := hy
      rw [List.mem_singleton] at hMem
      subst hMem
      exact ⟨segment, List.mem_singleton_self _, hFloor, fun top hTop =>
        hxy.trans_lt (hCap top hTop)⟩
  | cons second rest ih =>
      have hCap : first.cap = some second.floor := h.head.cap_eq
      by_cases hx : x < second.floor
      · refine ⟨first, List.mem_cons_self, hFloor, fun top hTop => ?_⟩
        rw [hCap, Option.mem_some_iff] at hTop
        rwa [← hTop]
      · rw [not_lt] at hx
        -- The point is past the first segment, and so is the one above it.
        obtain ⟨segment, hMem, hSegment⟩ := hy
        have hRest : segment ∈ second :: rest := by
          rcases List.mem_cons.1 hMem with rfl | hRest
          · exact absurd (hSegment.2 second.floor hCap) (not_lt.2 (hx.trans hxy))
          · exact hRest
        obtain ⟨found, hFound, hContains⟩ := ih h.tail hx ⟨segment, hRest, hSegment⟩
        exact ⟨found, List.mem_cons_of_mem _ hFound, hContains⟩

/-- **A schedule has no gaps.** -/
theorem ordConnected_covered {segments : List (Segment K)} (h : Joined segments) :
    (covered segments).OrdConnected := by
  constructor
  intro a ha b hb x hx
  cases segments with
  | nil =>
      obtain ⟨segment, hMem, -⟩ := ha
      exact absurd hMem List.not_mem_nil
  | cons first rest =>
      obtain ⟨segment, hMem, hSegment⟩ := ha
      have hFloor : first.floor ≤ a := (floor_le_of_mem h hMem).trans hSegment.1
      exact covered_below h (hFloor.trans hx.1) hx.2 hb

/-! ### The height of a schedule -/

/-- The first segment that contains a point. -/
def segmentAt (segments : List (Segment K)) (x : K) : Option (Segment K) :=
  segments.find? fun segment => segment.Contains x

omit [Field K] in
theorem segmentAt_isSome {segments : List (Segment K)} {x : K} :
    (segmentAt segments x).isSome ↔ x ∈ covered segments := by
  rw [segmentAt, List.find?_isSome]
  simp [covered]

omit [Field K] in
theorem contains_of_segmentAt {segments : List (Segment K)} {x : K} {segment : Segment K}
    (h : segmentAt segments x = some segment) : segment ∈ segments ∧ segment.Contains x := by
  refine ⟨List.mem_of_find?_eq_some h, ?_⟩
  have hFound := List.find?_some h
  simpa using hFound

/-- The height of the schedule, zero where no segment contains the point. -/
def heightAt (segments : List (Segment K)) (x : K) : K :=
  ((segmentAt segments x).map fun segment => segment.height x).getD 0

theorem heightAt_eq {segments : List (Segment K)} {x : K} {segment : Segment K}
    (h : segmentAt segments x = some segment) : heightAt segments x = segment.height x := by
  simp [heightAt, h]

/-! ### The maximum of the lines -/

variable [IsStrictOrderedRing K]

/-- How far the lines are apart. -/
theorem Segment.Joins.height_sub {first second : Segment K} (h : Joins first second) (x : K) :
    second.height x - first.height x
      = (second.slope - first.slope) * (x - second.floor) := by
  have hMeet := h.meet
  unfold height at hMeet ⊢
  linear_combination hMeet

theorem Segment.Joins.height_le_before {first second : Segment K} (h : Joins first second) {x : K}
    (hx : x ≤ second.floor) : second.height x ≤ first.height x := by
  have hGap : (second.slope - first.slope) * (x - second.floor) ≤ 0 :=
    mul_nonpos_of_nonneg_of_nonpos (sub_nonneg.2 h.steeper) (sub_nonpos.2 hx)
  rw [← h.height_sub] at hGap
  exact sub_nonpos.1 hGap

theorem Segment.Joins.height_le_after {first second : Segment K} (h : Joins first second) {x : K}
    (hx : second.floor ≤ x) : first.height x ≤ second.height x := by
  have hGap : 0 ≤ (second.slope - first.slope) * (x - second.floor) :=
    mul_nonneg (sub_nonneg.2 h.steeper) (sub_nonneg.2 hx)
  rw [← h.height_sub] at hGap
  exact sub_nonneg.1 hGap

/-- Below its cap a segment is above every later line. -/
theorem height_le_of_below {first : Segment K} {segments : List (Segment K)}
    (h : Joined (first :: segments)) {x : K} (hx : ∀ top ∈ first.cap, x ≤ top)
    {later : Segment K} (hMem : later ∈ segments) : later.height x ≤ first.height x := by
  induction segments generalizing first with
  | nil => exact absurd hMem List.not_mem_nil
  | cons second rest ih =>
      have hBelow : x ≤ second.floor := hx second.floor h.head.cap_eq
      have hSecond : second.height x ≤ first.height x := h.head.height_le_before hBelow
      rcases List.mem_cons.1 hMem with rfl | hRest
      · exact hSecond
      · have hTop : ∀ top ∈ second.cap, x ≤ top := fun top hTop =>
          hBelow.trans (second.ordered top hTop).le
        exact (ih h.tail hTop hRest).trans hSecond

/-- Past its floor a segment is above every earlier line. -/
theorem height_le_of_past {first : Segment K} {segments : List (Segment K)}
    (h : Joined (first :: segments)) {x : K} {segment : Segment K}
    (hMem : segment ∈ first :: segments) (hx : segment.floor ≤ x) :
    first.height x ≤ segment.height x := by
  induction segments generalizing first with
  | nil =>
      rw [List.mem_singleton] at hMem
      rw [hMem]
  | cons second rest ih =>
      rcases List.mem_cons.1 hMem with rfl | hRest
      · exact le_rfl
      · have hFloor : second.floor ≤ x := (floor_le_of_mem h.tail hRest).trans hx
        exact (h.head.height_le_after hFloor).trans (ih h.tail hRest)

/-- **The segment that contains a point is the highest line there.** -/
theorem height_le_of_contains {segments : List (Segment K)} (h : Joined segments) {x : K}
    {segment other : Segment K} (hMem : segment ∈ segments) (hContains : segment.Contains x)
    (hOther : other ∈ segments) : other.height x ≤ segment.height x := by
  induction segments with
  | nil => exact absurd hMem List.not_mem_nil
  | cons first rest ih =>
      rcases List.mem_cons.1 hOther with rfl | hLater
      · exact height_le_of_past h hMem hContains.1
      · rcases List.mem_cons.1 hMem with rfl | hRest
        · exact height_le_of_below h (fun top hTop => (hContains.2 top hTop).le) hLater
        · exact ih h.tail hRest hLater

/-! ### Convexity -/

/-- Every line is below the schedule, where the schedule has a height. -/
theorem height_le_heightAt {segments : List (Segment K)} (h : Joined segments) {x : K}
    (hx : x ∈ covered segments) {other : Segment K} (hOther : other ∈ segments) :
    other.height x ≤ heightAt segments x := by
  obtain ⟨segment, hSegment⟩ := Option.isSome_iff_exists.1 (segmentAt_isSome.2 hx)
  obtain ⟨hMem, hContains⟩ := contains_of_segmentAt hSegment
  rw [heightAt_eq hSegment]
  exact height_le_of_contains h hMem hContains hOther

theorem Segment.height_combination (segment : Segment K) {a b : K} (hab : a + b = 1) (x y : K) :
    segment.height (a * x + b * y) = a * segment.height x + b * segment.height y := by
  unfold height
  linear_combination segment.offset * hab

/-- **The height of a schedule is convex.** -/
theorem convexOn_heightAt {segments : List (Segment K)} (h : Joined segments) :
    ConvexOn K (covered segments) (heightAt segments) := by
  refine ⟨(ordConnected_covered h).convex, ?_⟩
  intro x hx y hy a b ha hb hab
  have hBetween : a • x + b • y ∈ covered segments :=
    (ordConnected_covered h).convex hx hy ha hb hab
  simp only [smul_eq_mul] at hBetween ⊢
  obtain ⟨segment, hSegment⟩ := Option.isSome_iff_exists.1 (segmentAt_isSome.2 hBetween)
  have hMem : segment ∈ segments := (contains_of_segmentAt hSegment).1
  rw [heightAt_eq hSegment, segment.height_combination hab]
  exact add_le_add
    (mul_le_mul_of_nonneg_left (height_le_heightAt h hx hMem) ha)
    (mul_le_mul_of_nonneg_left (height_le_heightAt h hy hMem) hb)

end TradingKernel.JoinedLines
