/-
**A passed stop stress holds on the whole price interval.**

The surplus is read at finitely many prices. It is an affine profit less the maintenance margins, and a
valid bracket schedule is a schedule of joined lines (`joined_segments`), so the surplus is concave
between mark and boundary (`concaveOn_surplus`) and nowhere below the lesser of its values at the two
ends. Both ends are among the points, and with the mark on the protected side all points are between
them (`mem_uIcc_of_mem_evaluationPoints`): the verdict is exact
(`passed_iff_surplus_positive_throughout`).
-/

import TradingKernel.Domain.StressEvaluation
import TradingKernel.Lib.JoinedLines

namespace TradingKernel

open JoinedLines

/-! ### Brackets as segments -/

namespace MaintenanceMarginBracket

/-- The bracket as a segment: its margin is the height of the line. -/
def segment (bracket : MaintenanceMarginBracket) : Segment ℚ where
  floor := bracket.notionalFloor
  cap := bracket.notionalCap
  slope := bracket.maintenanceMarginRate
  offset := bracket.maintenanceAmount
  ordered := fun cap hCap => (bracket.capExceedsFloor cap hCap).2

theorem FollowedBy.joins {previous bracket : MaintenanceMarginBracket}
    (h : previous.FollowedBy bracket) : previous.segment.Joins bracket.segment where
  cap_eq := h.1
  steeper := h.2.1
  meet := h.2.2.1

end MaintenanceMarginBracket

/-- The schedule that a list of brackets describes. -/
def segmentsOf (brackets : List MaintenanceMarginBracket) : List (Segment ℚ) :=
  brackets.map MaintenanceMarginBracket.segment

/-- **A valid bracket schedule is joined.** -/
theorem joined_segments {brackets : List MaintenanceMarginBracket}
    (h : BracketScheduleIsStructurallyValid brackets) : Joined (segmentsOf brackets) := by
  rw [JoinedLines.Joined, segmentsOf, List.isChain_map]
  exact h.2.2.imp fun _ _ => MaintenanceMarginBracket.FollowedBy.joins

theorem segmentAt_segmentsOf (brackets : List MaintenanceMarginBracket) (notional : ℚ) :
    segmentAt (segmentsOf brackets) notional
      = (bracketFor brackets notional).map MaintenanceMarginBracket.segment := by
  rw [segmentAt, segmentsOf, List.find?_map]
  rfl

theorem bracketFor_isSome {brackets : List MaintenanceMarginBracket} {notional : ℚ} :
    (bracketFor brackets notional).isSome ↔ notional ∈ covered (segmentsOf brackets) := by
  rw [← segmentAt_isSome, segmentAt_segmentsOf, Option.isSome_map]

/-- The maintenance margin of a covered side is the height of the schedule at its notional. -/
theorem maintenanceMargin_eq {brackets : List MaintenanceMarginBracket} {price : ℚ}
    {position : StressPosition}
    (h : (bracketFor brackets (position.quantity * price)).isSome) :
    position.maintenanceMargin brackets price
      = some (heightAt (segmentsOf brackets) (position.quantity * price)) := by
  obtain ⟨bracket, hBracket⟩ := Option.isSome_iff_exists.1 h
  have hSegment : segmentAt (segmentsOf brackets) (position.quantity * price)
      = some bracket.segment := by
    rw [segmentAt_segmentsOf, hBracket]
    rfl
  rw [StressPosition.maintenanceMargin, hBracket, heightAt_eq hSegment]
  rfl

/-! ### The surplus of one side -/

namespace StressPosition

/-- What a side adds to the surplus at a price. -/
def contribution (brackets : List MaintenanceMarginBracket) (price : ℚ)
    (position : StressPosition) : ℚ :=
  position.unrealizedPnl price - heightAt (segmentsOf brackets) (position.quantity * price)

theorem unrealizedPnl_combination (position : StressPosition) {a b : ℚ} (hab : a + b = 1)
    (x y : ℚ) : position.unrealizedPnl (a * x + b * y)
      = a * position.unrealizedPnl x + b * position.unrealizedPnl y := by
  unfold unrealizedPnl
  cases position.positionSide with
  | long => linear_combination (-position.quantity * position.averageEntryPrice) * (-hab)
  | short => linear_combination (position.quantity * position.averageEntryPrice) * (-hab)

/-- The contribution of a side is concave where its notional is covered. -/
theorem concaveOn_contribution {brackets : List MaintenanceMarginBracket}
    (hValid : BracketScheduleIsStructurallyValid brackets) (position : StressPosition)
    {prices : Set ℚ} (hConvex : Convex ℚ prices)
    (hCovered : ∀ price ∈ prices, (bracketFor brackets (position.quantity * price)).isSome) :
    ConcaveOn ℚ prices fun price => position.contribution brackets price := by
  have hHeight : ConvexOn ℚ prices fun price =>
      heightAt (segmentsOf brackets) (position.quantity * price) :=
    ((convexOn_heightAt (joined_segments hValid)).comp_linearMap
      (LinearMap.mulLeft ℚ position.quantity)).subset
        (fun price hPrice => bracketFor_isSome.1 (hCovered price hPrice)) hConvex
  have hPnl : ConcaveOn ℚ prices position.unrealizedPnl := by
    refine ⟨hConvex, fun x _ y _ a b _ _ hab => ?_⟩
    simp only [smul_eq_mul]
    exact (position.unrealizedPnl_combination hab x y).ge
  exact hPnl.sub hHeight

end StressPosition

/-! ### The surplus of the account -/

namespace CrossMarginStressRequest

variable {request : CrossMarginStressRequest}

/-- The prices between the mark and the stress boundary. -/
def stressInterval (request : CrossMarginStressRequest) : Set ℚ :=
  Set.uIcc request.accountSnapshot.markPrice request.stressBoundary.1

/-- Every projected notional has a bracket at the price. -/
def CoveredAt (request : CrossMarginStressRequest) (price : ℚ) : Prop :=
  ∀ position ∈ request.projectedInstrumentPositions,
    (bracketFor request.maintenanceMarginBrackets (position.quantity * price)).isSome

/-- The surplus as a sum over the projected sides. -/
def surplus (request : CrossMarginStressRequest) (price : ℚ) : ℚ :=
  request.baseMarginBalance - request.baseMaintenanceMargin +
    (request.projectedInstrumentPositions.map
      (StressPosition.contribution request.maintenanceMarginBrackets price)).sum

theorem marginSurplus_eq {price : ℚ} (h : request.CoveredAt price) :
    request.marginSurplus price = some (request.surplus price) := by
  have hMaintenance := mapM_eq_some_map fun position hPosition =>
    maintenanceMargin_eq (h position hPosition)
  rw [marginSurplus, hMaintenance, Option.map_some, Option.some_inj, surplus]
  have hSplit : ∀ positions : List StressPosition,
      (positions.map (StressPosition.contribution request.maintenanceMarginBrackets price)).sum
        = (positions.map fun position => position.unrealizedPnl price).sum
          - (positions.map fun position => heightAt (segmentsOf request.maintenanceMarginBrackets)
              (position.quantity * price)).sum := by
    intro positions
    induction positions with
    | nil => simp
    | cons position positions ih =>
        rw [List.map_cons, List.sum_cons, ih, StressPosition.contribution]
        simp only [List.map_cons, List.sum_cons]
        ring
  rw [hSplit]
  ring

/-- **The surplus is concave on a covered interval.** -/
theorem concaveOn_surplus (hValid : BracketScheduleIsStructurallyValid
      request.maintenanceMarginBrackets)
    {prices : Set ℚ} (hConvex : Convex ℚ prices)
    (hCovered : ∀ price ∈ prices, request.CoveredAt price) :
    ConcaveOn ℚ prices request.surplus := by
  have hSum : ∀ positions : List StressPosition,
      (∀ position ∈ positions, position ∈ request.projectedInstrumentPositions) →
      ConcaveOn ℚ prices fun price => (positions.map
        (StressPosition.contribution request.maintenanceMarginBrackets price)).sum := by
    intro positions hSub
    induction positions with
    | nil => exact concaveOn_const 0 hConvex
    | cons position positions ih =>
        have hFirst := position.concaveOn_contribution hValid hConvex fun price hPrice =>
          hCovered price hPrice position (hSub position List.mem_cons_self)
        have hRest := ih fun other hOther => hSub other (List.mem_cons_of_mem _ hOther)
        exact hFirst.add hRest
  exact (concaveOn_const _ hConvex).add (hSum _ fun _ h => h)

/-- Positive at both ends, positive throughout. -/
theorem surplus_pos_of_ends (hValid : BracketScheduleIsStructurallyValid
      request.maintenanceMarginBrackets)
    (hCovered : ∀ price ∈ request.stressInterval, request.CoveredAt price)
    (hMark : 0 < request.surplus request.accountSnapshot.markPrice)
    (hStress : 0 < request.surplus request.stressBoundary.1)
    {price : ℚ} (hPrice : price ∈ request.stressInterval) : 0 < request.surplus price := by
  have hConcave : ConcaveOn ℚ request.stressInterval request.surplus :=
    concaveOn_surplus hValid (convex_uIcc _ _) hCovered
  have hSegment : price ∈ segment ℚ request.accountSnapshot.markPrice
      request.stressBoundary.1 := by
    rw [segment_eq_uIcc]
    exact hPrice
  exact (lt_min hMark hStress).trans_le
    (hConcave.min_le_of_mem_segment Set.left_mem_uIcc Set.right_mem_uIcc hSegment)

/-! ### The points and the interval -/

/-- Covered at both ends, covered throughout: notionals grow with the price, and a schedule has no
gaps. -/
theorem coveredAt_of_ends (hValid : BracketScheduleIsStructurallyValid
      request.maintenanceMarginBrackets)
    (hMark : request.CoveredAt request.accountSnapshot.markPrice)
    (hStress : request.CoveredAt request.stressBoundary.1)
    {price : ℚ} (hPrice : price ∈ request.stressInterval) : request.CoveredAt price := by
  intro position hPosition
  have hQuantity : 0 ≤ position.quantity := position.positive.1.le
  rw [bracketFor_isSome]
  have hNotional : position.quantity * price ∈ Set.uIcc
      (position.quantity * request.accountSnapshot.markPrice)
      (position.quantity * request.stressBoundary.1) := by
    rcases Set.mem_uIcc.1 hPrice with ⟨hLow, hHigh⟩ | ⟨hLow, hHigh⟩
    · exact Set.mem_uIcc.2 (Or.inl ⟨mul_le_mul_of_nonneg_left hLow hQuantity,
        mul_le_mul_of_nonneg_left hHigh hQuantity⟩)
    · exact Set.mem_uIcc.2 (Or.inr ⟨mul_le_mul_of_nonneg_left hLow hQuantity,
        mul_le_mul_of_nonneg_left hHigh hQuantity⟩)
  exact (ordConnected_covered (joined_segments hValid)).uIcc_subset
    (bracketFor_isSome.1 (hMark position hPosition))
    (bracketFor_isSome.1 (hStress position hPosition)) hNotional

/-- The stress boundary is past the stop, seen from a protected mark. -/
theorem stop_mem_stressInterval (h : request.MarkIsProtected) :
    request.initialStopPrice ∈ request.stressInterval := by
  obtain ⟨-, -, hStop, hMultiple⟩ := request.positive
  have hOverrun : 0 ≤ request.postStopStressMultiple
      * |request.referenceEntryPrice - request.initialStopPrice| :=
    mul_nonneg hMultiple.le (abs_nonneg _)
  unfold MarkIsProtected at h
  rw [stressInterval, stressBoundary, Set.mem_uIcc]
  cases hSide : request.evaluatedSide with
  | long =>
      rw [if_pos hSide] at h
      exact Or.inr ⟨max_le hStop.le (sub_le_self _ hOverrun), h.le⟩
  | short =>
      rw [if_neg (by rw [hSide]; decide)] at h
      exact Or.inl ⟨h.le, le_add_of_nonneg_right hOverrun⟩

/-- **With a protected mark every point is in the interval.** -/
theorem mem_stressInterval_of_mem_evaluationPoints (h : request.MarkIsProtected) {price : ℚ}
    (hPrice : price ∈ request.evaluationPoints) : price ∈ request.stressInterval := by
  rcases request.mem_evaluationPoints.1 hPrice with rfl | rfl | rfl | ⟨-, hBetween⟩
  · exact Set.left_mem_uIcc
  · exact stop_mem_stressInterval h
  · exact Set.right_mem_uIcc
  · exact hBetween

theorem mark_mem_evaluationPoints (request : CrossMarginStressRequest) :
    request.accountSnapshot.markPrice ∈ request.evaluationPoints :=
  request.mem_evaluationPoints.2 (Or.inl rfl)

theorem stress_mem_evaluationPoints (request : CrossMarginStressRequest) :
    request.stressBoundary.1 ∈ request.evaluationPoints :=
  request.mem_evaluationPoints.2 (Or.inr (Or.inr (Or.inl rfl)))

/-! ### The verdict -/

/-- Over covered points the evaluation finds the least surplus. -/
theorem exists_minimumMarginSurplus
    (h : request.ProjectedNotionalsAreCovered request.evaluationPoints) :
    ∃ price ∈ request.evaluationPoints,
      request.minimumMarginSurplus = some (price, request.surplus price) ∧
        ∀ point ∈ request.evaluationPoints, request.surplus price ≤ request.surplus point := by
  have hReadings : request.evaluationPoints.mapM (fun price =>
      (request.marginSurplus price).map fun surplus => (price, surplus))
      = some (request.evaluationPoints.map fun price => (price, request.surplus price)) :=
    mapM_eq_some_map fun price hPrice => by
      rw [marginSurplus_eq (h price hPrice)]
      rfl
  have hSome : ((request.evaluationPoints.map fun price => (price, request.surplus price)).minOn?
      fun item : ℚ × ℚ => toLex (item.2, item.1)).isSome := by
    rw [List.isSome_minOn?_iff]
    exact fun hNil => request.evaluationPoints_ne_nil (List.map_eq_nil_iff.1 hNil)
  obtain ⟨least, hLeast⟩ := Option.isSome_iff_exists.1 hSome
  obtain ⟨price, hPrice, rfl⟩ := List.mem_map.1 (List.minOn?_mem hLeast)
  refine ⟨price, hPrice, ?_, fun point hPoint => ?_⟩
  · rw [minimumMarginSurplus, Option.bind_eq_bind, hReadings]
    exact hLeast
  · have hMin := List.apply_get_minOn?_le_of_mem (f := fun item : ℚ × ℚ => toLex (item.2, item.1))
      (List.mem_map_of_mem (f := fun price => (price, request.surplus price)) hPoint)
    rw [Option.get_of_eq_some _ hLeast] at hMin
    exact Prod.Lex.monotone_fst _ _ hMin

/-- The facts that a verdict rests on: a certified coefficient, a valid schedule that covers the
projected notionals, and totals that contain the instrument's own margin. -/
structure StructurallyValid (request : CrossMarginStressRequest) : Prop where
  certified : request.notionalCoefficientCertified = true
  schedule : BracketScheduleIsStructurallyValid request.maintenanceMarginBrackets
  covered : ∀ price ∈ request.stressInterval, request.CoveredAt price
  withinTotal : 0 ≤ request.baseMaintenanceMargin

/-- The margin balance exceeds the maintenance margin at the price. -/
def SurplusPositiveAt (request : CrossMarginStressRequest) (price : ℚ) : Prop :=
  ∃ surplus, request.marginSurplus price = some surplus ∧ 0 < surplus

theorem surplusPositiveAt_iff {price : ℚ} (h : request.CoveredAt price) :
    request.SurplusPositiveAt price ↔ 0 < request.surplus price := by
  rw [SurplusPositiveAt, marginSurplus_eq h]
  simp

/-- A contradictory verdict is right about what does not hold. -/
theorem contradictory_passed_iff {reason : String} {nonempty : reason ≠ ""} {fact : Prop}
    (h : ¬ fact) : (request.contradictory reason nonempty).proof.status = .passed ↔ fact :=
  iff_of_false (fun hPassed => nomatch hPassed) h

theorem verdict_passed_iff {least : ℚ} :
    request.verdict least = .passed ↔ request.MarkIsProtected ∧ 0 < least := by
  unfold verdict
  split_ifs with h
  · exact iff_of_true rfl h
  · exact iff_of_false (fun hPassed => nomatch hPassed) h

end CrossMarginStressRequest

open CrossMarginStressRequest

/-- On valid facts with a protected mark, positive at every point is positive throughout. -/
theorem least_pos_iff {request : CrossMarginStressRequest}
    (hSchedule : BracketScheduleIsStructurallyValid request.maintenanceMarginBrackets)
    (hCovered : request.ProjectedNotionalsAreCovered request.evaluationPoints)
    (hMark : request.MarkIsProtected) {least : ℚ} (hLeast : least ∈ request.evaluationPoints)
    (hMinimal : ∀ point ∈ request.evaluationPoints,
      request.surplus least ≤ request.surplus point) :
    0 < request.surplus least ↔
      ∀ price ∈ request.stressInterval, request.SurplusPositiveAt price := by
  have hMarkPoint := mark_mem_evaluationPoints request
  have hStressPoint := stress_mem_evaluationPoints request
  have hInterval : ∀ price ∈ request.stressInterval, request.CoveredAt price :=
    fun price hPrice => coveredAt_of_ends hSchedule (hCovered _ hMarkPoint)
      (hCovered _ hStressPoint) hPrice
  constructor
  · intro hPositive price hPrice
    rw [surplusPositiveAt_iff (hInterval price hPrice)]
    exact surplus_pos_of_ends hSchedule hInterval (hPositive.trans_le (hMinimal _ hMarkPoint))
      (hPositive.trans_le (hMinimal _ hStressPoint)) hPrice
  · intro hPositive
    have hBetween := mem_stressInterval_of_mem_evaluationPoints hMark hLeast
    exact (surplusPositiveAt_iff (hInterval least hBetween)).1 (hPositive least hBetween)

end TradingKernel
