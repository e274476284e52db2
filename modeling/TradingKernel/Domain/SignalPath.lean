/-
**`evaluate_generic_signal_path`: what the market did after a signal.**

Over the closed candles of a frozen horizon the code takes the excursions in units of the initial
risk, and separately the first candle that touched one, three or five of these units and the first
that touched the initial stop. `signal_path_consistent` says that the separate scans agree with each
other, for both sides and whatever the candles.
-/

import Mathlib.Algebra.Order.Field.Basic
import Mathlib.Data.Rat.Floor
import Mathlib.Tactic.FieldSimp
import Mathlib.Tactic.NormNum
import TradingKernel.Domain.Detectors.Market
import TradingKernel.Domain.ReviewEconomics
import TradingKernel.Lib.Guard
import TradingKernel.Lib.Timeline

namespace TradingKernel

open Detectors (ClosedCandle Timeframe)
open Guard Timeline

/-! ### The frozen references -/

inductive ShadowEvaluationKind where
  | fixedHorizonExcursion
  | sorPathObservation
  | genericSignalPath
  deriving DecidableEq, Repr

/-- The stop is on the losing side of the entry. -/
def PositionSide.StopProtects (side : PositionSide) (stop entry : ℚ) : Prop :=
  match side with
  | .long => stop < entry
  | .short => entry < stop

/-- What an evaluation reads of a `ShadowOutcomeSpec`. -/
structure ShadowOutcomeSpec where
  evaluationKind : ShadowEvaluationKind
  positionSide : PositionSide
  timeframe : Timeframe
  entryReferencePrice : Option ℚ
  initialStopPrice : Option ℚ
  unavailableReason : Option String
  horizonStartMs : ℤ
  horizonEndMs : ℤ
  bars : timeframe = .fifteenMinutes ∨ timeframe = .oneHour
  priced : (∀ entry ∈ entryReferencePrice, 0 < entry) ∧ ∀ stop ∈ initialStopPrice, 0 < stop
  horizon : 0 < horizonStartMs ∧ horizonStartMs < horizonEndMs
  signalPath : evaluationKind = .genericSignalPath → timeframe = .oneHour ∧
    (unavailableReason = none → ∃ entry stop, entryReferencePrice = some entry ∧
      initialStopPrice = some stop ∧ positionSide.StopProtects stop entry)

namespace ShadowOutcomeSpec

variable (spec : ShadowOutcomeSpec)

def initialRiskPerUnit : Option ℚ :=
  match spec.entryReferencePrice, spec.initialStopPrice with
  | some entry, some stop => some |entry - stop|
  | _, _ => none

/-- The candles that close in the horizon. -/
def selected (candles : List ClosedCandle) : List ClosedCandle :=
  candles.filter fun candle =>
    spec.horizonStartMs < candle.closeTimeMs ∧ candle.closeTimeMs ≤ spec.horizonEndMs

def durationMs : ℤ :=
  if spec.timeframe = .oneHour then 3600000 else 900000

/-- `has_complete_closed_candle_sequence`. -/
def hasCompleteClosedCandleSequence (candles : List ClosedCandle) : Bool :=
  if (spec.horizonEndMs - spec.horizonStartMs) % spec.durationMs ≠ 0 then false
  else if spec.evaluationKind = .genericSignalPath ∧ ∃ candle ∈ spec.selected candles,
      candle.openTimeMs ≠ candle.closeTimeMs - spec.durationMs then false
  else (spec.selected candles).map ClosedCandle.closeTimeMs =
    steps (spec.horizonStartMs + spec.durationMs) (spec.horizonEndMs + 1) spec.durationMs

end ShadowOutcomeSpec

/-! ### Prices by their side -/

namespace PositionSide

variable (side : PositionSide)

/-- The price of a candle that is best for the side. -/
def favorablePrice (candle : ClosedCandle) : ℚ :=
  match side with
  | .long => candle.high
  | .short => candle.low

/-- The price of a candle that is worst for the side. -/
def adversePrice (candle : ClosedCandle) : ℚ :=
  match side with
  | .long => candle.low
  | .short => candle.high

/-- The best price of all candles. -/
def maxFavorable (candles : List ClosedCandle) : Option ℚ :=
  match side with
  | .long => (candles.map (PositionSide.favorablePrice .long)).max?
  | .short => (candles.map (PositionSide.favorablePrice .short)).min?

/-- The worst price of all candles. -/
def maxAdverse (candles : List ClosedCandle) : Option ℚ :=
  match side with
  | .long => (candles.map (PositionSide.adversePrice .long)).min?
  | .short => (candles.map (PositionSide.adversePrice .short)).max?

/-- What a move from one price to another is worth. -/
def gain (start finish : ℚ) : ℚ :=
  match side with
  | .long => finish - start
  | .short => start - finish

/-- Whether a candle reaches a target. -/
def touchesTarget (target : ℚ) (candle : ClosedCandle) : Bool :=
  match side with
  | .long => target ≤ candle.high
  | .short => candle.low ≤ target

/-- Whether a candle reaches a stop. -/
def touchesStop (stop : ℚ) (candle : ClosedCandle) : Bool :=
  match side with
  | .long => candle.low ≤ stop
  | .short => stop ≤ candle.high

end PositionSide

/-! ### The evaluations -/

/-- The largest moves from the entry, in prices and in units of the initial risk. -/
structure Excursion where
  maxFavorablePrice : ℚ
  maxAdversePrice : ℚ
  mfeR : ℚ
  maeR : ℚ
  observedThroughMs : ℤ

/-- `evaluate_fixed_horizon_excursion`. -/
def evaluateFixedHorizonExcursion (spec : ShadowOutcomeSpec) (candles : List ClosedCandle) :
    Except String Excursion := do
  let entry ← demand spec.entryReferencePrice "zero_initial_risk_distance"
  let risk ← demand spec.initialRiskPerUnit "zero_initial_risk_distance"
  refuse (risk ≤ 0) "zero_initial_risk_distance"
  let selected := spec.selected candles
  let side := spec.positionSide
  let favorable ← demand (side.maxFavorable selected) "no_closed_candles_in_horizon"
  let adverse ← demand (side.maxAdverse selected) "no_closed_candles_in_horizon"
  let observed ← demand (selected.map ClosedCandle.closeTimeMs).max? "no_closed_candles_in_horizon"
  return {
    maxFavorablePrice := favorable
    maxAdversePrice := adverse
    mfeR := max 0 (side.gain entry favorable / risk)
    maeR := max 0 (side.gain adverse entry / risk)
    observedThroughMs := observed }

/-- The multiples of the initial risk whose touch is recorded. -/
inductive PathMultiple where
  | one
  | three
  | five
  deriving DecidableEq, Repr

def PathMultiple.value : PathMultiple → ℚ
  | .one => 1
  | .three => 3
  | .five => 5

inductive OrderVsStop where
  | thresholdFirst
  | stopFirst
  | sameBarAmbiguous
  | neither
  deriving DecidableEq, Repr

structure ShadowPathLevel where
  firstTouchAtMs : Option ℤ
  orderVsStop : OrderVsStop
  deriving DecidableEq, Repr

/-- Which of a level and the stop was touched first. -/
def orderVsStop (firstAt stopAt : Option ℤ) : OrderVsStop :=
  match firstAt, stopAt with
  | none, none => .neither
  | none, some _ => .stopFirst
  | some _, none => .thresholdFirst
  | some first, some stop =>
      if stop < first then .stopFirst
      else if first < stop then .thresholdFirst
      else .sameBarAmbiguous

structure SignalPathProjection extends Excursion where
  observedBarCount : ℕ
  pathLevels : PathMultiple → ShadowPathLevel
  initialStopFirstTouchAtMs : Option ℤ
  maxFavorableAtMs : ℤ
  maxAdverseAtMs : ℤ

/-- The price that is a multiple of the risk away from the entry. -/
def PathMultiple.target (multiple : PathMultiple) (side : PositionSide) (entry risk : ℚ) : ℚ :=
  entry + risk * multiple.value * side.direction

/-- `evaluate_generic_signal_path`. -/
def evaluateGenericSignalPath (spec : ShadowOutcomeSpec) (candles : List ClosedCandle) :
    Except String SignalPathProjection := do
  refuse (spec.evaluationKind ≠ .genericSignalPath ∨ spec.unavailableReason ≠ none)
    (spec.unavailableReason.getD "unsupported_generic_signal_path")
  refuse (spec.hasCompleteClosedCandleSequence candles = false) "incomplete_historical_window"
  let entry ← demand spec.entryReferencePrice "incomplete_signal_path_reference"
  let stop ← demand spec.initialStopPrice "incomplete_signal_path_reference"
  let risk ← demand spec.initialRiskPerUnit "incomplete_signal_path_reference"
  let selected := spec.selected candles
  refuse (selected.isEmpty) "no_closed_candles_in_horizon"
  let side := spec.positionSide
  let excursion ← evaluateFixedHorizonExcursion spec selected
  -- `next` without a default raises where no candle has the price
  let favorableAt ← demand (firstTime ClosedCandle.closeTimeMs selected fun candle =>
    side.favorablePrice candle = excursion.maxFavorablePrice) "StopIteration"
  let adverseAt ← demand (firstTime ClosedCandle.closeTimeMs selected fun candle =>
    side.adversePrice candle = excursion.maxAdversePrice) "StopIteration"
  let stopAt := firstTime ClosedCandle.closeTimeMs selected (side.touchesStop stop)
  let level (multiple : PathMultiple) : ShadowPathLevel :=
    let firstAt := firstTime ClosedCandle.closeTimeMs selected
      (side.touchesTarget (multiple.target side entry risk))
    ⟨firstAt, orderVsStop firstAt stopAt⟩
  return {
    excursion with
    observedBarCount := selected.length
    pathLevels := level
    initialStopFirstTouchAtMs := stopAt
    maxFavorableAtMs := favorableAt
    maxAdverseAtMs := adverseAt }

/-! ### Moves -/

namespace PositionSide

variable {side : PositionSide} {candle : ClosedCandle} {candles : List ClosedCandle}
  {entry stop risk price : ℚ}

theorem touchesTarget_eq_true {multiple : PathMultiple} :
    side.touchesTarget (multiple.target side entry risk) candle = true ↔
      multiple.value * risk ≤ side.gain entry (side.favorablePrice candle) := by
  unfold touchesTarget PathMultiple.target gain favorablePrice direction
  cases side with
  | long =>
      rw [decide_eq_true_eq]
      constructor <;> intro reached <;> linarith
  | short =>
      rw [decide_eq_true_eq]
      constructor <;> intro reached <;> linarith

theorem risk_pos (protects : side.StopProtects stop entry) : 0 < |entry - stop| := by
  rw [abs_pos, sub_ne_zero]
  unfold StopProtects at protects
  cases side with
  | long => exact protects.ne'
  | short => exact protects.ne

theorem touchesStop_eq_true (protects : side.StopProtects stop entry) :
    side.touchesStop stop candle = true ↔
      1 * |entry - stop| ≤ side.gain (side.adversePrice candle) entry := by
  unfold StopProtects at protects
  unfold touchesStop gain adversePrice
  rw [one_mul]
  cases side with
  | long =>
      dsimp only at protects ⊢
      rw [decide_eq_true_eq, abs_of_pos (sub_pos.mpr protects)]
      constructor <;> intro reached <;> linarith
  | short =>
      dsimp only at protects ⊢
      rw [decide_eq_true_eq, abs_of_neg (sub_neg.mpr protects)]
      constructor <;> intro reached <;> linarith

/-- The best price is that of a candle, and no candle gains more. -/
theorem maxFavorable_eq_some (entry : ℚ) (found : side.maxFavorable candles = some price) :
    (∃ candle ∈ candles, side.favorablePrice candle = price) ∧
      ∀ candle ∈ candles, side.gain entry (side.favorablePrice candle) ≤ side.gain entry price := by
  unfold maxFavorable at found
  cases side with
  | long =>
      obtain ⟨member, bound⟩ := List.max?_eq_some_iff.mp found
      refine ⟨List.mem_map.mp member, fun candle inside => ?_⟩
      exact sub_le_sub_right (bound _ (List.mem_map_of_mem inside)) entry
  | short =>
      obtain ⟨member, bound⟩ := List.min?_eq_some_iff.mp found
      refine ⟨List.mem_map.mp member, fun candle inside => ?_⟩
      exact sub_le_sub_left (bound _ (List.mem_map_of_mem inside)) entry

/-- The worst price is that of a candle, and no candle loses more. -/
theorem maxAdverse_eq_some (entry : ℚ) (found : side.maxAdverse candles = some price) :
    (∃ candle ∈ candles, side.adversePrice candle = price) ∧
      ∀ candle ∈ candles, side.gain (side.adversePrice candle) entry ≤ side.gain price entry := by
  unfold maxAdverse at found
  cases side with
  | long =>
      obtain ⟨member, bound⟩ := List.min?_eq_some_iff.mp found
      refine ⟨List.mem_map.mp member, fun candle inside => ?_⟩
      exact sub_le_sub_left (bound _ (List.mem_map_of_mem inside)) entry
  | short =>
      obtain ⟨member, bound⟩ := List.max?_eq_some_iff.mp found
      refine ⟨List.mem_map.mp member, fun candle inside => ?_⟩
      exact sub_le_sub_right (bound _ (List.mem_map_of_mem inside)) entry

variable (side) in
theorem exists_prices (nonempty : candles ≠ []) :
    ∃ favorable adverse, side.maxFavorable candles = some favorable ∧
      side.maxAdverse candles = some adverse := by
  obtain ⟨first, rest, rfl⟩ := List.exists_cons_of_ne_nil nonempty
  cases side with
  | long => exact ⟨_, _, rfl, rfl⟩
  | short => exact ⟨_, _, rfl, rfl⟩

end PositionSide

theorem PathMultiple.value_pos (multiple : PathMultiple) : 0 < multiple.value := by
  cases multiple <;> norm_num [PathMultiple.value]

/-- A positive multiple is within an excursion where the move is that large. -/
theorem le_excursion {multiple move risk : ℚ} (positive : 0 < multiple) (risky : 0 < risk) :
    multiple ≤ max 0 (move / risk) ↔ multiple * risk ≤ move := by
  rw [le_max_iff, le_div_iff₀ risky]
  constructor
  · rintro (negative | reached)
    · exact absurd positive (not_lt.mpr negative)
    · exact reached
  · exact Or.inr

theorem orderVsStop_eq_thresholdFirst {firstAt stopAt : Option ℤ} :
    orderVsStop firstAt stopAt = .thresholdFirst ↔
      ∃ first ∈ firstAt, ∀ stop ∈ stopAt, first < stop := by
  unfold orderVsStop
  cases firstAt with
  | none =>
      cases stopAt with
      | none => simp
      | some stop => simp
  | some first =>
      cases stopAt with
      | none => simp
      | some stop =>
          dsimp only
          split_ifs with before after
          · simpa using before.le
          · simpa using after
          · simpa using not_lt.mp after

/-! ### Complete sequences -/

namespace ShadowOutcomeSpec

variable {spec : ShadowOutcomeSpec} {candles : List ClosedCandle}

theorem durationMs_pos : 0 < spec.durationMs := by
  unfold durationMs
  split_ifs <;> norm_num

theorem map_close_of_complete (complete : spec.hasCompleteClosedCandleSequence candles = true) :
    spec.durationMs ∣ spec.horizonEndMs - spec.horizonStartMs ∧
      (spec.selected candles).map ClosedCandle.closeTimeMs =
        steps (spec.horizonStartMs + spec.durationMs) (spec.horizonEndMs + 1) spec.durationMs := by
  unfold hasCompleteClosedCandleSequence at complete
  split_ifs at complete with uneven misaligned
  exact ⟨Int.dvd_of_emod_eq_zero (not_ne_iff.mp uneven), of_decide_eq_true complete⟩

theorem ordered_of_complete (complete : spec.hasCompleteClosedCandleSequence candles = true) :
    (spec.selected candles).Pairwise fun earlier later =>
      earlier.closeTimeMs < later.closeTimeMs := by
  rw [← List.pairwise_map (f := ClosedCandle.closeTimeMs) (R := (· < ·)),
    (map_close_of_complete complete).2]
  exact pairwise_steps durationMs_pos

/-- The horizon is not empty, and every bar of it is there. -/
theorem selected_ne_nil (complete : spec.hasCompleteClosedCandleSequence candles = true) :
    spec.selected candles ≠ [] := by
  obtain ⟨even, closes⟩ := map_close_of_complete complete
  intro empty
  have within : spec.durationMs ≤ spec.horizonEndMs - spec.horizonStartMs :=
    Int.le_of_dvd (sub_pos.mpr spec.horizon.2) even
  have last : spec.horizonEndMs ∈
      steps (spec.horizonStartMs + spec.durationMs) (spec.horizonEndMs + 1) spec.durationMs := by
    rw [mem_steps durationMs_pos]
    refine ⟨by linarith, by linarith, ?_⟩
    rw [← sub_sub]
    exact dvd_sub even dvd_rfl
  rw [← closes, empty] at last
  exact List.not_mem_nil last

theorem selected_selected : spec.selected (spec.selected candles) = spec.selected candles := by
  unfold selected
  rw [List.filter_filter]
  simp only [Bool.and_self]

end ShadowOutcomeSpec

/-! ### The evidence -/

section Evidence

variable {spec : ShadowOutcomeSpec} {candles : List ClosedCandle} {entry stop : ℚ}

/-- The level of a multiple over the candles of the horizon. -/
def ShadowOutcomeSpec.firstTouch (spec : ShadowOutcomeSpec) (candles : List ClosedCandle)
    (entry risk : ℚ) (multiple : PathMultiple) : Option ℤ :=
  firstTime ClosedCandle.closeTimeMs (spec.selected candles)
    (spec.positionSide.touchesTarget (multiple.target spec.positionSide entry risk))

/-- The first touch of the stop over the candles of the horizon. -/
def ShadowOutcomeSpec.stopTouch (spec : ShadowOutcomeSpec) (candles : List ClosedCandle)
    (stop : ℚ) : Option ℤ :=
  firstTime ClosedCandle.closeTimeMs (spec.selected candles) (spec.positionSide.touchesStop stop)

/-- The excursion of priced candles. -/
theorem exists_excursion {selected : List ClosedCandle} {favorable adverse : ℚ}
    (entered : spec.entryReferencePrice = some entry) (stopped : spec.initialStopPrice = some stop)
    (risky : 0 < |entry - stop|)
    (isFavorable : spec.positionSide.maxFavorable (spec.selected selected) = some favorable)
    (isAdverse : spec.positionSide.maxAdverse (spec.selected selected) = some adverse) :
    ∃ excursion, evaluateFixedHorizonExcursion spec selected = .ok excursion ∧
      excursion.maxFavorablePrice = favorable ∧ excursion.maxAdversePrice = adverse ∧
      excursion.mfeR = max 0 (spec.positionSide.gain entry favorable / |entry - stop|) ∧
      excursion.maeR = max 0 (spec.positionSide.gain adverse entry / |entry - stop|) := by
  have risked : spec.initialRiskPerUnit = some |entry - stop| := by
    unfold ShadowOutcomeSpec.initialRiskPerUnit
    rw [entered, stopped]
  obtain ⟨⟨best, bestMember, -⟩, -⟩ :=
    PositionSide.maxFavorable_eq_some entry isFavorable
  obtain ⟨observed, isObserved⟩ := Option.isSome_iff_exists.mp
    (List.isSome_max?_of_mem (List.mem_map_of_mem (f := ClosedCandle.closeTimeMs) bestMember))
  unfold evaluateFixedHorizonExcursion
  simp only [demand_bind_eq_ok, refuse_bind_eq_ok, pure_eq_ok]
  exact ⟨_, ⟨entry, entered, _, risked, not_le.mpr risky, favorable, isFavorable, adverse,
    isAdverse, observed, isObserved, rfl⟩, rfl, rfl, rfl, rfl⟩

/-- **What an evaluation returns**: the best and the worst price, and the scans. -/
theorem exists_evaluation (generic : spec.evaluationKind = .genericSignalPath)
    (available : spec.unavailableReason = none) (entered : spec.entryReferencePrice = some entry)
    (stopped : spec.initialStopPrice = some stop)
    (protects : spec.positionSide.StopProtects stop entry)
    (complete : spec.hasCompleteClosedCandleSequence candles = true) :
    ∃ projection favorable adverse,
      evaluateGenericSignalPath spec candles = .ok projection ∧
      spec.positionSide.maxFavorable (spec.selected candles) = some favorable ∧
      spec.positionSide.maxAdverse (spec.selected candles) = some adverse ∧
      projection.mfeR = max 0 (spec.positionSide.gain entry favorable / |entry - stop|) ∧
      projection.maeR = max 0 (spec.positionSide.gain adverse entry / |entry - stop|) ∧
      projection.initialStopFirstTouchAtMs = spec.stopTouch candles stop ∧
      (∀ multiple, projection.pathLevels multiple =
        ⟨spec.firstTouch candles entry |entry - stop| multiple,
          orderVsStop (spec.firstTouch candles entry |entry - stop| multiple)
            (spec.stopTouch candles stop)⟩) ∧
      firstTime ClosedCandle.closeTimeMs (spec.selected candles) (fun candle =>
        spec.positionSide.favorablePrice candle = favorable) =
          some projection.maxFavorableAtMs := by
  have nonempty := ShadowOutcomeSpec.selected_ne_nil complete
  obtain ⟨favorable, adverse, isFavorable, isAdverse⟩ :=
    spec.positionSide.exists_prices nonempty
  obtain ⟨⟨best, bestMember, isBest⟩, -⟩ :=
    PositionSide.maxFavorable_eq_some entry isFavorable
  obtain ⟨⟨worst, worstMember, isWorst⟩, -⟩ :=
    PositionSide.maxAdverse_eq_some entry isAdverse
  have risked : spec.initialRiskPerUnit = some |entry - stop| := by
    unfold ShadowOutcomeSpec.initialRiskPerUnit
    rw [entered, stopped]
  have again : spec.selected (spec.selected candles) = spec.selected candles :=
    ShadowOutcomeSpec.selected_selected
  obtain ⟨excursion, evaluated, atBest, atWorst, isMfe, isMae⟩ :=
    exists_excursion entered stopped (PositionSide.risk_pos protects)
      (again.symm ▸ isFavorable) (again.symm ▸ isAdverse)
  obtain ⟨favorableAt, isFavorableAt⟩ := Option.isSome_iff_exists.mp
    (firstTime_isSome.mpr ⟨best, bestMember, decide_eq_true (isBest.trans atBest.symm)⟩ :
      (firstTime ClosedCandle.closeTimeMs (spec.selected candles) fun candle =>
        spec.positionSide.favorablePrice candle = excursion.maxFavorablePrice).isSome)
  obtain ⟨adverseAt, isAdverseAt⟩ := Option.isSome_iff_exists.mp
    (firstTime_isSome.mpr ⟨worst, worstMember, decide_eq_true (isWorst.trans atWorst.symm)⟩ :
      (firstTime ClosedCandle.closeTimeMs (spec.selected candles) fun candle =>
        spec.positionSide.adversePrice candle = excursion.maxAdversePrice).isSome)
  have ready : ¬ (spec.evaluationKind ≠ .genericSignalPath ∨ spec.unavailableReason ≠ none) :=
    not_or.mpr ⟨not_ne_iff.mpr generic, not_ne_iff.mpr available⟩
  have some_candle : ¬ (spec.selected candles).isEmpty = true :=
    fun empty => nonempty (List.isEmpty_iff.mp empty)
  have evaluated_bind (next : Excursion → Except String SignalPathProjection) :
      (evaluateFixedHorizonExcursion spec (spec.selected candles) >>= next) = next excursion := by
    rw [evaluated]
    rfl
  unfold evaluateGenericSignalPath
  simp only [refuse_bind_eq_ok, demand_bind_eq_ok, evaluated_bind, pure_eq_ok]
  refine ⟨_, favorable, adverse, ⟨ready, by simp [complete], entry, entered, stop, stopped, _, risked,
    some_candle, favorableAt, isFavorableAt, adverseAt, isAdverseAt, rfl⟩,
    isFavorable, isAdverse, isMfe, isMae, rfl, fun multiple => rfl, ?_⟩
  rw [← atBest]
  exact isFavorableAt

/-- **The evidence of a signal path agrees with itself.** A level has a touch exactly where the
favorable excursion is that large, and the stop where the adverse one is; a lower level is touched no
later; a level is first where it is touched strictly before the stop, and then a lower level is too;
and the best price is not earlier than any touch. -/
theorem signal_path_consistent (generic : spec.evaluationKind = .genericSignalPath)
    (available : spec.unavailableReason = none) (entered : spec.entryReferencePrice = some entry)
    (stopped : spec.initialStopPrice = some stop)
    (complete : spec.hasCompleteClosedCandleSequence candles = true) :
    ∃ projection, evaluateGenericSignalPath spec candles = .ok projection ∧
      (∀ multiple, (projection.pathLevels multiple).firstTouchAtMs.isSome ↔
        multiple.value ≤ projection.mfeR) ∧
      (∀ lower higher : PathMultiple, lower.value ≤ higher.value →
        ∀ late ∈ (projection.pathLevels higher).firstTouchAtMs,
          ∃ early ∈ (projection.pathLevels lower).firstTouchAtMs, early ≤ late) ∧
      (projection.initialStopFirstTouchAtMs.isSome ↔ 1 ≤ projection.maeR) ∧
      (∀ multiple, (projection.pathLevels multiple).orderVsStop = .thresholdFirst ↔
        ∃ candle ∈ spec.selected candles,
          spec.positionSide.touchesTarget
            (multiple.target spec.positionSide entry |entry - stop|) candle = true ∧
          ∀ hit ∈ spec.selected candles, spec.positionSide.touchesStop stop hit = true →
            candle.closeTimeMs < hit.closeTimeMs) ∧
      (∀ lower higher : PathMultiple, lower.value ≤ higher.value →
        (projection.pathLevels higher).orderVsStop = .thresholdFirst →
        (projection.pathLevels lower).orderVsStop = .thresholdFirst) ∧
      ∀ multiple, ∀ first ∈ (projection.pathLevels multiple).firstTouchAtMs,
        first ≤ projection.maxFavorableAtMs := by
  have protects : spec.positionSide.StopProtects stop entry := by
    obtain ⟨-, prices⟩ := spec.signalPath generic
    obtain ⟨entry', stop', entered', stopped', protects⟩ := prices available
    obtain rfl := Option.some.inj (entered'.symm.trans entered)
    obtain rfl := Option.some.inj (stopped'.symm.trans stopped)
    exact protects
  obtain ⟨projection, favorable, adverse, evaluated, isFavorable, isAdverse, isMfe, isMae, stopAt,
    levels, bestAt⟩ := exists_evaluation generic available entered stopped protects complete
  have risky := PositionSide.risk_pos protects
  have ordered := ShadowOutcomeSpec.ordered_of_complete complete
  obtain ⟨⟨best, bestMember, isBest⟩, gains⟩ :=
    PositionSide.maxFavorable_eq_some entry isFavorable
  obtain ⟨⟨worst, worstMember, isWorst⟩, losses⟩ :=
    PositionSide.maxAdverse_eq_some entry isAdverse
  -- a candle that reaches a multiple also reaches a smaller one
  have earlier (lower higher : PathMultiple) (smaller : lower.value ≤ higher.value) :
      ∀ late ∈ (projection.pathLevels higher).firstTouchAtMs,
        ∃ early ∈ (projection.pathLevels lower).firstTouchAtMs, early ≤ late := by
    intro late touched
    rw [levels] at touched ⊢
    refine firstTime_mono ordered (fun candle reached => ?_) touched
    rw [PositionSide.touchesTarget_eq_true] at reached ⊢
    exact (mul_le_mul_of_nonneg_right smaller risky.le).trans reached
  have first (multiple : PathMultiple) :
      (projection.pathLevels multiple).orderVsStop = .thresholdFirst ↔
        ∃ first ∈ (projection.pathLevels multiple).firstTouchAtMs,
          ∀ stop ∈ projection.initialStopFirstTouchAtMs, first < stop := by
    rw [levels, stopAt]
    exact orderVsStop_eq_thresholdFirst
  refine ⟨projection, evaluated, fun multiple => ?_, earlier, ?_, fun multiple => ?_, ?_, ?_⟩
  · rw [levels, isMfe, le_excursion multiple.value_pos risky]
    refine firstTime_isSome.trans ⟨?_, fun reached => ⟨best, bestMember, ?_⟩⟩
    · rintro ⟨candle, member, reached⟩
      exact (PositionSide.touchesTarget_eq_true.mp reached).trans (gains candle member)
    · rw [PositionSide.touchesTarget_eq_true, isBest]
      exact reached
  · rw [stopAt, isMae, le_excursion one_pos risky]
    refine firstTime_isSome.trans ⟨?_, fun reached => ⟨worst, worstMember, ?_⟩⟩
    · rintro ⟨candle, member, reached⟩
      exact ((PositionSide.touchesStop_eq_true protects).mp reached).trans (losses candle member)
    · rw [PositionSide.touchesStop_eq_true protects, isWorst]
      exact reached
  · rw [first multiple, levels, stopAt]
    exact firstTime_before_iff ordered
  · intro lower higher smaller highFirst
    obtain ⟨late, touched, beforeStop⟩ := (first higher).mp highFirst
    obtain ⟨early, lowTouched, before⟩ := earlier lower higher smaller late touched
    exact (first lower).mpr ⟨early, lowTouched, fun stop hit => before.trans_lt (beforeStop stop hit)⟩
  · intro multiple touch touched
    rw [levels] at touched
    obtain ⟨candle, member, isPrice, atTime⟩ := firstTime_eq_some bestAt
    obtain ⟨reaching, inside, reached, -⟩ := firstTime_eq_some touched
    rw [← atTime]
    refine firstTime_le ordered touched member ?_
    rw [PositionSide.touchesTarget_eq_true] at reached ⊢
    rw [of_decide_eq_true isPrice]
    exact reached.trans (gains reaching inside)

/-- Two hours after a long signal at 100 with its stop at 90: up to 115, then down to 85. -/
def samplePath : ShadowOutcomeSpec where
  evaluationKind := .genericSignalPath
  positionSide := .long
  timeframe := .oneHour
  entryReferencePrice := some 100
  initialStopPrice := some 90
  unavailableReason := none
  horizonStartMs := 3600000
  horizonEndMs := 10800000
  bars := .inr rfl
  priced := by
    constructor
    · rintro entry ⟨⟩
      norm_num
    · rintro stop ⟨⟩
      norm_num
  horizon := by norm_num
  signalPath := fun _ => ⟨rfl, fun _ => ⟨100, 90, rfl, rfl, by norm_num [PositionSide.StopProtects]⟩⟩

theorem volume_nonneg_of_sample : (0 : ℚ) ≤ 1 := zero_le_one

def sampleCandles : List ClosedCandle :=
  [⟨3600000, 7200000, 100, 115, 95, 110, 1, by norm_num, by norm_num, volume_nonneg_of_sample,
      by norm_num⟩,
    ⟨7200000, 10800000, 110, 112, 85, 90, 1, by norm_num, by norm_num, volume_nonneg_of_sample,
      by norm_num⟩]

theorem signal_path_consistent_of_sample : ∃ projection,
    evaluateGenericSignalPath samplePath sampleCandles = .ok projection ∧
      (projection.pathLevels .one).orderVsStop = .thresholdFirst ∧
      (projection.initialStopFirstTouchAtMs.isSome ↔ 1 ≤ projection.maeR) := by
  obtain ⟨projection, evaluated, -, -, stopped, first, -, -⟩ :=
    signal_path_consistent rfl rfl rfl rfl
      (by decide : samplePath.hasCompleteClosedCandleSequence sampleCandles = true)
  have selected : samplePath.selected sampleCandles = sampleCandles := rfl
  rw [selected] at first
  refine ⟨projection, evaluated, (first .one).mpr ⟨_, List.mem_cons_self, ?_, ?_⟩, stopped⟩
  · norm_num [PositionSide.touchesTarget, samplePath, PathMultiple.target, PathMultiple.value,
      PositionSide.direction]
  · intro hit member reached
    rcases List.mem_cons.mp member with rfl | member
    · norm_num [PositionSide.touchesStop, samplePath] at reached
    · obtain rfl := List.mem_singleton.mp member
      norm_num

end Evidence

end TradingKernel
