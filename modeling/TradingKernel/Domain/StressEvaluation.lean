/-
**The evaluation of a cross-margin stop-stress request.**

`evaluateCrossMarginStress` checks the certified facts and then reads the account's margin surplus at
finitely many prices: the mark, the stop, the stress boundary, and every price between mark and
boundary at which a projected notional reaches a bracket limit. The verdict is `passed` where the mark
is on the protected side of the stop and the least of these surpluses is positive.
-/

import Mathlib.Data.List.Chain
import Mathlib.Data.List.Dedup
import Mathlib.Data.List.Sort
import Mathlib.Data.Prod.Lex
import Mathlib.Order.Interval.Set.UnorderedInterval
import TradingKernel.Domain.CrossMarginStress

namespace TradingKernel

open Text CanonicalJson

/-! ### Fallible readings of a list -/

/-- All readings succeed with given results where each of them does. -/
theorem mapM_eq_some_iff {α β : Type} {f : α → Option β} {items : List α} {results : List β} :
    items.mapM f = some results ↔ items.map f = results.map some := by
  induction items generalizing results with
  | nil => cases results <;> simp
  | cons item items ih =>
      rw [List.mapM_cons]
      cases results with
      | nil => simp [Option.bind_eq_some_iff]
      | cons result results => simp [Option.bind_eq_some_iff, ih]

theorem mapM_eq_some_map {α β : Type} {f : α → Option β} {g : α → β} {items : List α}
    (h : ∀ item ∈ items, f item = some (g item)) : items.mapM f = some (items.map g) := by
  rw [mapM_eq_some_iff, List.map_map]
  exact List.map_congr_left h

/-! ### Maintenance brackets -/

namespace MaintenanceMarginBracket

def payload (bracket : MaintenanceMarginBracket) : Canonical :=
  .object [("bracket_id", .text bracket.bracketId),
    ("notional_floor", .decimal bracket.notionalFloor),
    ("notional_cap", .optional .decimal bracket.notionalCap),
    ("maintenance_margin_rate", .decimal bracket.maintenanceMarginRate),
    ("maintenance_amount", .decimal bracket.maintenanceAmount)]

/-- The maintenance margin of a notional at the terms of the bracket. -/
def margin (bracket : MaintenanceMarginBracket) (notional : ℚ) : ℚ :=
  notional * bracket.maintenanceMarginRate - bracket.maintenanceAmount

def Holds (bracket : MaintenanceMarginBracket) (notional : ℚ) : Prop :=
  bracket.notionalFloor ≤ notional ∧ ∀ cap ∈ bracket.notionalCap, notional < cap

instance (bracket : MaintenanceMarginBracket) (notional : ℚ) : Decidable (bracket.Holds notional) :=
  inferInstanceAs (Decidable (_ ∧ _))

/-- What the schedule check asks of a bracket and the one after it. -/
def FollowedBy (previous bracket : MaintenanceMarginBracket) : Prop :=
  previous.notionalCap = some bracket.notionalFloor ∧
    previous.maintenanceMarginRate ≤ bracket.maintenanceMarginRate ∧
    bracket.margin bracket.notionalFloor = previous.margin bracket.notionalFloor ∧
    0 ≤ bracket.margin bracket.notionalFloor

instance : DecidableRel FollowedBy := fun _ _ => inferInstanceAs (Decidable (_ ∧ _))

end MaintenanceMarginBracket

/-- `_bracket_schedule_is_structurally_valid`. -/
def BracketScheduleIsStructurallyValid (brackets : List MaintenanceMarginBracket) : Prop :=
  (∃ first ∈ brackets.head?, first.notionalFloor = 0 ∧ first.maintenanceAmount = 0) ∧
    (brackets.map fun bracket => bracket.bracketId.text).Nodup ∧
    brackets.IsChain MaintenanceMarginBracket.FollowedBy

instance (brackets : List MaintenanceMarginBracket) :
    Decidable (BracketScheduleIsStructurallyValid brackets) :=
  inferInstanceAs (Decidable (_ ∧ _))

/-- The first bracket that a notional falls into. -/
def bracketFor (brackets : List MaintenanceMarginBracket) (notional : ℚ) :
    Option MaintenanceMarginBracket :=
  brackets.find? fun bracket => bracket.Holds notional

/-! ### Positions -/

namespace StressPosition

def payload (position : StressPosition) : Canonical :=
  .object [("position_side", .text position.positionSide.value),
    ("quantity", .decimal position.quantity),
    ("average_entry_price", .decimal position.averageEntryPrice)]

/-- The unrealized profit of a projected side at a price. -/
def unrealizedPnl (position : StressPosition) (price : ℚ) : ℚ :=
  match position.positionSide with
  | .long => position.quantity * (price - position.averageEntryPrice)
  | .short => position.quantity * (position.averageEntryPrice - price)

/-- The maintenance margin of a projected side at a price, where a bracket covers its notional. -/
def maintenanceMargin (brackets : List MaintenanceMarginBracket) (price : ℚ)
    (position : StressPosition) : Option ℚ :=
  (bracketFor brackets (position.quantity * price)).map fun bracket =>
    bracket.margin (position.quantity * price)

end StressPosition

def AccountRiskSnapshot.payload (snapshot : AccountRiskSnapshot) : Canonical :=
  match snapshot.toAccountRiskFacts.payload with
  | .object fields => .object (fields ++ [("snapshot_digest", .text snapshot.snapshotDigest)])
  | other => other

namespace CrossMarginStressRequest

variable (request : CrossMarginStressRequest)

def payload : Canonical :=
  .object [("account_snapshot", request.accountSnapshot.payload),
    ("maintenance_margin_brackets",
      .array (request.maintenanceMarginBrackets.map MaintenanceMarginBracket.payload)),
    ("maintenance_margin_brackets_digest", .text request.maintenanceMarginBracketsDigest),
    ("notional_coefficient", .decimal request.notionalCoefficient),
    ("notional_coefficient_certified", .boolean request.notionalCoefficientCertified),
    ("evaluated_side", .text request.evaluatedSide.value),
    ("reference_entry_price", .decimal request.referenceEntryPrice),
    ("initial_stop_price", .decimal request.initialStopPrice),
    ("post_stop_stress_multiple", .decimal request.postStopStressMultiple),
    ("projected_instrument_positions",
      .array (request.projectedInstrumentPositions.map StressPosition.payload))]

/-! ### The stress interval -/

/-- `_stress_boundary`: the price to which the stop may be overrun, and whether it was cut off at
zero. -/
def stressBoundary : ℚ × Bool :=
  let stopDistance := |request.referenceEntryPrice - request.initialStopPrice|
  match request.evaluatedSide with
  | .short => (request.initialStopPrice + request.postStopStressMultiple * stopDistance, false)
  | .long =>
      let rawStressPrice :=
        request.initialStopPrice - request.postStopStressMultiple * stopDistance
      (max 0 rawStressPrice, rawStressPrice < 0)

/-- The limits of a bracket: its floor, and its cap if it has one. -/
def bracketBoundaries (bracket : MaintenanceMarginBracket) : List ℚ :=
  bracket.notionalFloor :: bracket.notionalCap.toList

/-- The prices at which a projected notional reaches a bracket limit. -/
def boundaryPrices : List ℚ :=
  request.projectedInstrumentPositions.flatMap fun position =>
    request.maintenanceMarginBrackets.flatMap fun bracket =>
      (bracketBoundaries bracket).map fun boundary => boundary / position.quantity

/-- `_evaluation_points`, ascending and without duplicates. -/
def evaluationPoints : List ℚ :=
  let markPrice := request.accountSnapshot.markPrice
  let stressPrice := request.stressBoundary.1
  let points := [markPrice, request.initialStopPrice, stressPrice] ++
    request.boundaryPrices.filter fun price =>
      min markPrice stressPrice ≤ price ∧ price ≤ max markPrice stressPrice
  points.dedup.insertionSort (· ≤ ·)

/-- `_projected_notionals_are_covered`, at the given points. -/
def ProjectedNotionalsAreCovered (points : List ℚ) : Prop :=
  ∀ price ∈ points, ∀ position ∈ request.projectedInstrumentPositions,
    (bracketFor request.maintenanceMarginBrackets (position.quantity * price)).isSome

instance (points : List ℚ) : Decidable (request.ProjectedNotionalsAreCovered points) :=
  inferInstanceAs (Decidable (∀ price ∈ points, _))

/-! ### The margin surplus -/

/-- The open sides of the evaluated instrument in the account. -/
def currentPositions : List AccountRiskPosition :=
  request.accountSnapshot.accountPositions.filter fun position =>
    position.exchangeInstrumentId.text = request.accountSnapshot.exchangeInstrumentId.text

/-- The margin balance less what the instrument's open sides contribute to it. -/
def baseMarginBalance : ℚ :=
  request.accountSnapshot.totalMarginBalance
    - (request.currentPositions.map AccountRiskPosition.currentUnrealizedPnl).sum

/-- The maintenance margin less that of the instrument's open sides. -/
def baseMaintenanceMargin : ℚ :=
  request.accountSnapshot.totalMaintenanceMargin
    - (request.currentPositions.map AccountRiskPosition.currentMaintenanceMargin).sum

/-- `_margin_surplus`: the margin balance at a price less the maintenance margin there. It raises where
a notional has no bracket. -/
def marginSurplus (price : ℚ) : Option ℚ :=
  (request.projectedInstrumentPositions.mapM
      (StressPosition.maintenanceMargin request.maintenanceMarginBrackets price)).map
    fun maintenance =>
      request.baseMarginBalance
        + (request.projectedInstrumentPositions.map fun position =>
            position.unrealizedPnl price).sum
        - request.baseMaintenanceMargin - maintenance.sum

/-- The price of the least surplus among the points, with that surplus; of equal surpluses the lower
price. -/
def minimumMarginSurplus : Option (ℚ × ℚ) := do
  let surplusByPrice ← request.evaluationPoints.mapM fun price =>
    (request.marginSurplus price).map fun surplus => (price, surplus)
  surplusByPrice.minOn? fun item => toLex (item.2, item.1)

def MarkIsProtected : Prop :=
  if request.evaluatedSide = .long then
    request.initialStopPrice < request.accountSnapshot.markPrice
  else request.accountSnapshot.markPrice < request.initialStopPrice

instance : Decidable request.MarkIsProtected := inferInstanceAs (Decidable (ite _ _ _))

/-! ### What the proof needs -/

theorem stressBoundary_nonneg : 0 ≤ request.stressBoundary.1 := by
  obtain ⟨-, -, hStop, hMultiple⟩ := request.positive
  unfold stressBoundary
  cases request.evaluatedSide with
  | long => exact le_max_left _ _
  | short => exact add_nonneg hStop.le (mul_nonneg hMultiple.le (abs_nonneg _))

theorem mem_evaluationPoints {price : ℚ} :
    price ∈ request.evaluationPoints ↔
      price = request.accountSnapshot.markPrice ∨ price = request.initialStopPrice ∨
        price = request.stressBoundary.1 ∨
        (price ∈ request.boundaryPrices ∧
          price ∈ Set.uIcc request.accountSnapshot.markPrice request.stressBoundary.1) := by
  unfold evaluationPoints
  simp only [List.mem_insertionSort, List.mem_dedup, List.mem_append, List.mem_cons,
    List.not_mem_nil, List.mem_filter, or_false, or_assoc, decide_eq_true_eq, Set.uIcc,
    Set.mem_Icc]

/-- Every evaluation point is a price. -/
theorem nonneg_of_mem_evaluationPoints {price : ℚ} (h : price ∈ request.evaluationPoints) :
    0 ≤ price := by
  have hMark : 0 ≤ request.accountSnapshot.markPrice := request.accountSnapshot.markPositive.le
  have hStress : 0 ≤ request.stressBoundary.1 := request.stressBoundary_nonneg
  rcases request.mem_evaluationPoints.1 h with rfl | rfl | rfl | ⟨-, hBetween⟩
  · exact hMark
  · exact request.positive.2.2.1.le
  · exact hStress
  · exact (le_min hMark hStress).trans hBetween.1

theorem evaluationPoints_ne_nil : request.evaluationPoints ≠ [] :=
  List.ne_nil_of_mem (request.mem_evaluationPoints.2 (Or.inl rfl))

/-- The least surplus is read at one of the points. -/
theorem mem_of_minimumMarginSurplus {price surplus : ℚ}
    (h : request.minimumMarginSurplus = some (price, surplus)) :
    price ∈ request.evaluationPoints := by
  rw [minimumMarginSurplus, Option.bind_eq_bind, Option.bind_eq_some_iff] at h
  obtain ⟨readings, hReadings, hMinimum⟩ := h
  have hMem : some (price, surplus) ∈ readings.map some :=
    List.mem_map_of_mem (List.minOn?_mem hMinimum)
  rw [← mapM_eq_some_iff.1 hReadings, List.mem_map] at hMem
  obtain ⟨point, hPoint, hReading⟩ := hMem
  rw [Option.map_eq_some_iff] at hReading
  obtain ⟨reading, -, hPair⟩ := hReading
  obtain ⟨rfl, -⟩ := Prod.mk.inj hPair
  exact hPoint

/-! ### The decision -/

/-- What is digested: the request, and every field of the proof but the digest itself. -/
def proofDigest (status : CrossMarginStressStatus) (surplus price : Option ℚ) (count : ℤ)
    (reason : Option String) : String :=
  canonicalDigest (.object [("request", request.payload), ("result", .object
    [("model_id", .text "cross-margin-stop-stress-v1"),
      ("snapshot_digest", .text request.accountSnapshot.snapshotDigest),
      ("maintenance_margin_brackets_digest", .text request.maintenanceMarginBracketsDigest),
      ("status", .text status.value),
      ("stress_price", .decimal request.stressBoundary.1),
      ("stress_boundary_clamped_to_zero", .boolean request.stressBoundary.2),
      ("minimum_margin_surplus", .optional .decimal surplus),
      ("minimum_margin_surplus_price", .optional .decimal price),
      ("evaluated_point_count", .integer count),
      ("contradiction_reason", .optional .text reason)])])

/-- The shape that a proof of a status has. -/
def ProofShape (status : CrossMarginStressStatus) (surplus price : Option ℚ) (count : ℤ)
    (reason : Option String) : Prop :=
  match status with
  | .factsContradictory => surplus = none ∧ price = none ∧ count = 0 ∧ ∃ text ∈ reason, text ≠ ""
  | evaluated => (∃ least ∈ surplus, evaluated = .passed → 0 < least) ∧
      (∃ reading ∈ price, 0 ≤ reading) ∧ 0 < count ∧ reason = none

/-- `_proof`, bound to the request. -/
def evidence (status : CrossMarginStressStatus) (surplus price : Option ℚ) (count : ℤ)
    (reason : Option String) (shape : ProofShape status surplus price count reason) :
    CrossMarginStressEvidence where
  request := request
  proof :=
    { snapshotDigest := request.accountSnapshot.snapshotDigest
      maintenanceMarginBracketsDigest := request.maintenanceMarginBracketsDigest
      status := status
      stressPrice := request.stressBoundary.1
      stressBoundaryClampedToZero := request.stressBoundary.2
      minimumMarginSurplus := surplus
      minimumMarginSurplusPrice := price
      evaluatedPointCount := count
      contradictionReason := reason
      proofDigest := request.proofDigest status surplus price count reason
      digestShapes := ⟨by
          rw [request.accountSnapshot.digestOfPayload]
          exact isSha256Digest_canonicalDigest _,
        request.bracketsDigestShape, isSha256Digest_canonicalDigest _⟩
      stressPriceNonneg := request.stressBoundary_nonneg
      shape := shape }
  snapshotBound := rfl
  bracketsBound := rfl

/-- `_contradictory`. -/
def contradictory (reason : String) (nonempty : reason ≠ "") : CrossMarginStressEvidence :=
  request.evidence .factsContradictory none none 0 (some reason)
    ⟨rfl, rfl, rfl, reason, rfl, nonempty⟩

/-- The verdict on a least surplus. -/
def verdict (surplus : ℚ) : CrossMarginStressStatus :=
  if request.MarkIsProtected ∧ 0 < surplus then .passed else .failed

theorem proofShape_of_verdict {surplus price : ℚ} (hPrice : price ∈ request.evaluationPoints) :
    ProofShape (request.verdict surplus) (some surplus) (some price)
      request.evaluationPoints.length none := by
  have hNonneg : 0 ≤ price := request.nonneg_of_mem_evaluationPoints hPrice
  have hCount : (0 : ℤ) < request.evaluationPoints.length :=
    Int.natCast_pos.2 (List.length_pos_of_mem hPrice)
  unfold verdict
  split_ifs with hPassed
  · exact ⟨⟨surplus, rfl, fun _ => hPassed.2⟩, ⟨price, rfl, hNonneg⟩, hCount, rfl⟩
  · exact ⟨⟨surplus, rfl, fun h => nomatch h⟩, ⟨price, rfl, hNonneg⟩, hCount, rfl⟩

end CrossMarginStressRequest

/-- **The evaluation**, `none` where it raises. -/
def evaluateCrossMarginStress (request : CrossMarginStressRequest) :
    Option CrossMarginStressEvidence :=
  if ¬ request.notionalCoefficientCertified then
    some (request.contradictory "notional coefficient is not certified" (by decide))
  else if ¬ BracketScheduleIsStructurallyValid request.maintenanceMarginBrackets then
    some (request.contradictory "maintenance bracket schedule invalid" (by decide))
  else if ¬ request.ProjectedNotionalsAreCovered request.evaluationPoints then
    some (request.contradictory "projected notional exceeds certified bracket range" (by decide))
  else if request.baseMaintenanceMargin < 0 then
    some (request.contradictory "instrument maintenance margin exceeds account total" (by decide))
  else
    match hMinimum : request.minimumMarginSurplus with
    | none => none
    | some (price, surplus) =>
        some (request.evidence (request.verdict surplus) (some surplus) (some price)
          request.evaluationPoints.length none
          (request.proofShape_of_verdict (request.mem_of_minimumMarginSurplus hMinimum)))

end TradingKernel
