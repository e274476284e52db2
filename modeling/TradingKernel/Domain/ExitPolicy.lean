/-
**The exit profile of a protected position: the runner's next stop, and the exits before TP1.**

The runner's stop follows the rolling extreme at a distance of some ATR, never behind the break-even
floor (`runnerCandidate`), and a move is decided only when it improves on the current stop by the
ticks the profile asks for (`evaluateProfileRunnerExit_moveStop`). Before TP1 a position is left when
its session ends, when the close falls back through the reference it broke out of, or when it was
held for too many bars (`evaluateProfilePreTp1Exit`).
-/

import TradingKernel.Domain.BreakEven
import TradingKernel.Domain.EntryAdmission
import TradingKernel.Domain.ReviewEconomics

namespace TradingKernel

open Text Guard

/-! ### The two directions -/

namespace PositionSide

/-- A stop at `next` is closer to the position's profit than one at `old`. -/
def Tighter (side : PositionSide) (old next : ℚ) : Prop :=
  side.direction * old < side.direction * next

/-- A stop at `next` is not behind one at `old`. -/
def NotBehind (side : PositionSide) (old next : ℚ) : Prop :=
  side.direction * old ≤ side.direction * next

instance decidableTighter (side : PositionSide) (old next : ℚ) : Decidable (side.Tighter old next) :=
  inferInstanceAs (Decidable (_ < _))

variable {side : PositionSide} {old middle next : ℚ}

theorem Tighter.notBehind (tighter : side.Tighter old next) : side.NotBehind old next :=
  le_of_lt tighter

theorem NotBehind.refl : side.NotBehind old old := le_rfl

theorem NotBehind.trans (first : side.NotBehind old middle) (second : side.NotBehind middle next) :
    side.NotBehind old next :=
  le_trans first second

theorem Tighter.trans_notBehind (first : side.Tighter old middle)
    (second : side.NotBehind middle next) : side.Tighter old next :=
  lt_of_lt_of_le first second

theorem tighter_long : long.Tighter old next ↔ old < next := by
  rw [Tighter, direction, one_mul, one_mul]

theorem tighter_short : short.Tighter old next ↔ next < old := by
  rw [Tighter, direction, neg_one_mul, neg_one_mul, neg_lt_neg_iff]

theorem notBehind_long : long.NotBehind old next ↔ old ≤ next := by
  rw [NotBehind, direction, one_mul, one_mul]

theorem notBehind_short : short.NotBehind old next ↔ next ≤ old := by
  rw [NotBehind, direction, neg_one_mul, neg_one_mul, neg_le_neg_iff]

end PositionSide

/-! ### The rules of a profile -/

structure BreakEvenFloorRule where
  slippageBufferTicks : ℤ
  minimumImprovementTicks : ℤ
  bufferNonneg : 0 ≤ slippageBufferTicks
  improvementPositive : 0 < minimumImprovementTicks

structure RollingExtremeAtrRunnerRule where
  lookbackBars : ℤ
  atrPeriod : ℤ
  atrBufferMultiple : ℚ
  minimumImprovementTicks : ℤ
  windowsPositive : 0 < lookbackBars ∧ 0 < atrPeriod
  bufferNonneg : 0 ≤ atrBufferMultiple
  improvementPositive : 0 < minimumImprovementTicks

inductive TimeStopMode where
  | preTp1
  | absolute
  deriving DecidableEq, Repr

structure TimeStopRule where
  maxHoldingBars : ℤ
  mode : TimeStopMode
  barsPositive : 0 < maxHoldingBars

/-- An exit profile with the rules that the lifecycle reads. -/
structure LifecycleExitProfile extends ExitProfile where
  breakEvenFloor : BreakEvenFloorRule
  runner : RollingExtremeAtrRunnerRule
  timeStop : Option TimeStopRule

/-! ### Facts and decisions -/

structure LifecycleMarketFacts where
  watermarkMs : ℤ
  isFinalClosedCandle : Bool
  latestClose : ℚ
  structureReference : ℚ
  atr : ℚ
  holdingBars : ℤ
  timed : 0 < watermarkMs ∧ 0 ≤ holdingBars
  positive : 0 < latestClose ∧ 0 < structureReference ∧ 0 < atr

/-- `ExitDecision`: only a move carries a stop. -/
inductive ExitDecision where
  | noChange (reason : String) (sourceWatermarkMs : ℤ)
  | moveStop (reason : String) (sourceWatermarkMs : ℤ) (proposedStop : ℚ)
  | exit (reason : String) (sourceWatermarkMs : ℤ)
  deriving DecidableEq, Repr

/-! ### The runner's stop -/

def calculateStructuralRunnerStop (side : PositionSide)
    (structureReference atr atrBufferMultiple priceTick : ℚ) : Except String ℚ := do
  refuse (structureReference ≤ 0 ∨ atr ≤ 0 ∨ atrBufferMultiple < 0 ∨ priceTick ≤ 0)
    "runner price, ATR, multiplier, and tick must be valid"
  let offset := atr * atrBufferMultiple
  match side with
  | .long => do
      refuse (structureReference - offset ≤ 0) "long structural runner stop must remain positive"
      return floorTo priceTick (structureReference - offset)
  | .short => return ceilTo priceTick (structureReference + offset)

def calculateRollingExtremeAtrStop (side : PositionSide)
    (rollingExtreme atr atrBufferMultiple priceTick : ℚ) : Except String ℚ :=
  calculateStructuralRunnerStop side rollingExtreme atr atrBufferMultiple priceTick

/-- The structural stop, or the break-even floor where that is tighter. -/
def runnerCandidate (side : PositionSide) (structural floor : ℚ) : ℚ :=
  if side = .long then max structural floor else min structural floor

def runnerImprovement (side : PositionSide) (candidate currentStop : ℚ) : ℚ :=
  if side = .long then candidate - currentStop else currentStop - candidate

/-- The position was held for as many bars as the time stop of this mode allows. -/
def TimeStopRule.hit (mode : TimeStopMode) (holdingBars : ℤ) (rule : TimeStopRule) : Bool :=
  rule.mode = mode ∧ rule.maxHoldingBars ≤ holdingBars

def timeStopHit (profile : LifecycleExitProfile) (mode : TimeStopMode) (holdingBars : ℤ) : Bool :=
  profile.timeStop.any (TimeStopRule.hit mode holdingBars)

def evaluateProfileRunnerExit (profile : LifecycleExitProfile)
    (currentStop breakEvenFloor priceTick : ℚ) (lastRunnerWatermarkMs : ℤ)
    (marketFacts : LifecycleMarketFacts) : Except String ExitDecision := do
  refuse (currentStop ≤ 0 ∨ breakEvenFloor ≤ 0 ∨ priceTick ≤ 0)
    "runner evaluation prices and tick must be positive"
  if marketFacts.watermarkMs ≤ lastRunnerWatermarkMs then
    return .noChange "market_watermark_not_new" marketFacts.watermarkMs
  else if marketFacts.isFinalClosedCandle = false then
    return .noChange "closed_candle_required" marketFacts.watermarkMs
  else if timeStopHit profile .absolute marketFacts.holdingBars then
    return .exit "absolute_time_stop_hit" marketFacts.watermarkMs
  else do
    let structural ← calculateRollingExtremeAtrStop profile.positionSide
      marketFacts.structureReference marketFacts.atr profile.runner.atrBufferMultiple priceTick
    let candidate := runnerCandidate profile.positionSide structural breakEvenFloor
    if runnerImprovement profile.positionSide candidate currentStop <
        priceTick * profile.runner.minimumImprovementTicks then
      return .noChange "runner_stop_not_improved" marketFacts.watermarkMs
    else do
      refuse (candidate ≤ 0) "runner move decision requires a positive stop"
      return .moveStop "rolling_extreme_atr_runner_improvement" marketFacts.watermarkMs candidate

/-! ### What a move of the runner's stop is -/

section Runner

variable {side : PositionSide} {structural floor currentStop tick : ℚ}

theorem onGrid_of_calculated {reference atr multiple stop : ℚ}
    (calculated : calculateRollingExtremeAtrStop side reference atr multiple tick = .ok stop) :
    OnGrid tick stop := by
  unfold calculateRollingExtremeAtrStop calculateStructuralRunnerStop at calculated
  rw [refuse_bind_eq_ok] at calculated
  cases side with
  | long =>
    obtain ⟨-, calculated⟩ := calculated
    rw [refuse_bind_eq_ok, pure_eq_ok] at calculated
    rw [calculated.2]
    exact onGrid_floorTo
  | short =>
    rw [pure_eq_ok] at calculated
    rw [calculated.2]
    exact onGrid_ceilTo

/-- The candidate is not behind the floor. -/
theorem notBehind_runnerCandidate : side.NotBehind floor (runnerCandidate side structural floor) := by
  cases side with
  | long => exact PositionSide.notBehind_long.mpr (le_max_right _ _)
  | short => exact PositionSide.notBehind_short.mpr (min_le_right _ _)

theorem onGrid_runnerCandidate (grid : OnGrid tick structural) (floored : OnGrid tick floor) :
    OnGrid tick (runnerCandidate side structural floor) := by
  unfold runnerCandidate
  by_cases long : side = .long
  · rw [if_pos long]
    rcases le_total structural floor with below | above
    · rwa [max_eq_right below]
    · rwa [max_eq_left above]
  · rw [if_neg long]
    exact grid.min floored

/-- The improvement is the gain in the position's direction. -/
theorem runnerImprovement_eq (candidate : ℚ) :
    runnerImprovement side candidate currentStop =
      side.direction * candidate - side.direction * currentStop := by
  cases side with
  | long => simp [runnerImprovement, PositionSide.direction]
  | short =>
    simp only [runnerImprovement, PositionSide.direction, reduceCtorEq, if_false]
    ring

/-- What is true of a stop the runner moves to. -/
structure RunnerMove (profile : LifecycleExitProfile) (currentStop floor tick : ℚ)
    (lastWatermarkMs watermarkMs : ℤ) (stop : ℚ) : Prop where
  newer : lastWatermarkMs < watermarkMs
  positive : 0 < stop
  floored : profile.positionSide.NotBehind floor stop
  grid : OnGrid tick floor → OnGrid tick stop
  improved : profile.positionSide.direction * currentStop +
    tick * profile.runner.minimumImprovementTicks ≤ profile.positionSide.direction * stop

variable {profile : LifecycleExitProfile} {last watermark : ℤ} {facts : LifecycleMarketFacts}
  {reason : String} {stop : ℚ}

/-- **A decided move** is newer than the last one, stays in front of the floor and improves on the
current stop by the ticks of the profile. -/
theorem evaluateProfileRunnerExit_moveStop
    (evaluated : evaluateProfileRunnerExit profile currentStop floor tick last facts =
      .ok (.moveStop reason watermark stop)) :
    watermark = facts.watermarkMs ∧
      RunnerMove profile currentStop floor tick last watermark stop := by
  obtain ⟨-, evaluated⟩ := refuse_bind_eq_ok.mp evaluated
  by_cases stale : facts.watermarkMs ≤ last
  · rw [if_pos stale] at evaluated
    simp [pure_eq_ok] at evaluated
  rw [if_neg stale] at evaluated
  by_cases unfinished : facts.isFinalClosedCandle = false
  · rw [if_pos unfinished] at evaluated
    simp [pure_eq_ok] at evaluated
  rw [if_neg unfinished] at evaluated
  by_cases expired : timeStopHit profile .absolute facts.holdingBars
  · rw [if_pos expired] at evaluated
    simp [pure_eq_ok] at evaluated
  rw [if_neg expired] at evaluated
  obtain ⟨structural, calculated, evaluated⟩ := bind_eq_ok.mp evaluated
  dsimp only at evaluated
  by_cases small : runnerImprovement profile.positionSide
      (runnerCandidate profile.positionSide structural floor) currentStop <
        tick * profile.runner.minimumImprovementTicks
  · rw [if_pos small] at evaluated
    simp [pure_eq_ok] at evaluated
  rw [if_neg small] at evaluated
  obtain ⟨positive, evaluated⟩ := refuse_bind_eq_ok.mp evaluated
  rw [pure_eq_ok] at evaluated
  obtain ⟨-, rfl, rfl⟩ := ExitDecision.moveStop.inj evaluated
  refine ⟨rfl, ⟨not_le.mp stale, not_le.mp positive, notBehind_runnerCandidate, ?_, ?_⟩⟩
  · exact onGrid_runnerCandidate (onGrid_of_calculated calculated)
  · rw [not_lt, runnerImprovement_eq] at small
    linarith

/-- An improvement of at least one tick is an improvement. -/
theorem RunnerMove.tighter (move : RunnerMove profile currentStop floor tick last watermark stop)
    (positive : 0 < tick) : profile.positionSide.Tighter currentStop stop := by
  have ticks : (0 : ℚ) < profile.runner.minimumImprovementTicks :=
    Int.cast_pos.mpr profile.runner.improvementPositive
  have step : 0 < tick * profile.runner.minimumImprovementTicks := mul_pos positive ticks
  unfold PositionSide.Tighter
  linarith [move.improved]

end Runner

/-! ### The floor of the runner -/

section Floor

variable {facts : BreakEvenFacts} {side : PositionSide} {price : ℚ}

/-- The break-even price is on the tick grid, and not on the losing side of the entry price. -/
theorem floor_of_calculated (named : facts.side = side.value)
    (calculated : facts.calculateCostAdjustedBreakEven = .ok price) :
    OnGrid facts.priceTick price ∧ side.NotBehind facts.entryAveragePrice price := by
  obtain ⟨sound, ⟨long, rfl⟩ | ⟨short, -, rfl⟩⟩ := BreakEvenFacts.returned calculated
  · refine ⟨onGrid_ceilTo, ?_⟩
    cases side with
    | long =>
      exact PositionSide.notBehind_long.mpr
        (sound.entry_le_longRaw.trans (le_ceilTo sound.priceTick))
    | short =>
      rw [named] at long
      exact absurd long (by decide)
  · refine ⟨onGrid_floorTo, ?_⟩
    cases side with
    | long =>
      rw [named] at short
      exact absurd short (by decide)
    | short =>
      exact PositionSide.notBehind_short.mpr
        ((floorTo_le sound.priceTick).trans sound.shortRaw_le_entry)

/-- The break-even price is positive when the runner is long, or can be closed at one tick. -/
theorem breakEven_pos_iff (calculated : facts.calculateCostAdjustedBreakEven = .ok price) :
    0 < price ↔ facts.TickAffordable := by
  obtain ⟨sound, ⟨long, rfl⟩ | ⟨short, -, rfl⟩⟩ := BreakEvenFacts.returned calculated
  · have entry : facts.entryAveragePrice ≤ ceilTo facts.priceTick facts.longRaw :=
      sound.entry_le_longRaw.trans (le_ceilTo sound.priceTick)
    exact ⟨fun _ => .inl long, fun _ => sound.entryAveragePrice.trans_le entry⟩
  · rw [floorTo_pos_iff sound.priceTick, sound.tick_le_shortRaw_iff short]

end Floor

/-! ### The exits before TP1 -/

/-- The guard on the session's end. -/
def sessionExpired (profile : LifecycleExitProfile) (observedAtMs : ℤ)
    (exposureSessionEndMs : Option ℤ) : Except String Bool :=
  if .sessionExpiry ∈ profile.preTp1Guards then do
    let deadline ← demand exposureSessionEndMs "session-expiry guard requires a positive deadline"
    refuse (deadline ≤ 0) "session-expiry guard requires a positive deadline"
    return decide (deadline ≤ observedAtMs)
  else return false

/-- The guard on the reference that the position broke out of. -/
def reclaimHit (profile : LifecycleExitProfile) (latestClose : ℚ) (preTp1ReclaimPrice : Option ℚ) :
    Except String Bool :=
  if .reclaimReference ∈ profile.preTp1Guards then do
    let reference ← demand preTp1ReclaimPrice "reclaim guard requires a positive reference"
    refuse (reference ≤ 0) "reclaim guard requires a positive reference"
    return if profile.positionSide = .long then decide (latestClose ≤ reference)
      else decide (reference ≤ latestClose)
  else return false

def evaluateProfilePreTp1Exit (profile : LifecycleExitProfile) (marketFacts : LifecycleMarketFacts)
    (observedAtMs : ℤ) (preTp1ReclaimPrice : Option ℚ) (exposureSessionEndMs : Option ℤ) :
    Except String ExitDecision := do
  refuse (observedAtMs < marketFacts.watermarkMs) "pre-TP1 observation precedes market facts"
  if marketFacts.isFinalClosedCandle = false then
    return .noChange "closed_candle_required" marketFacts.watermarkMs
  else do
    let expired ← sessionExpired profile observedAtMs exposureSessionEndMs
    if expired = true then return .exit "session_expired" marketFacts.watermarkMs
    else do
      let reclaimed ← reclaimHit profile marketFacts.latestClose preTp1ReclaimPrice
      if reclaimed = true then
        return .exit (if profile.positionSide = .long then "failed_breakout_reclaimed"
          else "failed_breakdown_reclaimed") marketFacts.watermarkMs
      else if timeStopHit profile .absolute marketFacts.holdingBars then
        return .exit "absolute_time_stop_hit" marketFacts.watermarkMs
      else if timeStopHit profile .preTp1 marketFacts.holdingBars then
        return .exit "pre_tp1_time_stop_hit" marketFacts.watermarkMs
      else return .noChange "pre_tp1_plan_intact" marketFacts.watermarkMs

/-- The reasons a profile gives for leaving a position. -/
def profileExitReasons : List String :=
  ["session_expired", "failed_breakout_reclaimed", "failed_breakdown_reclaimed",
    "absolute_time_stop_hit", "pre_tp1_time_stop_hit"]

/-- Before TP1 a position is left for one of the reasons, or nothing changes. -/
theorem evaluateProfilePreTp1Exit_cases {profile : LifecycleExitProfile}
    {marketFacts : LifecycleMarketFacts} {observedAtMs : ℤ} {reclaim : Option ℚ}
    {sessionEnd : Option ℤ} {decision : ExitDecision}
    (evaluated : evaluateProfilePreTp1Exit profile marketFacts observedAtMs reclaim sessionEnd =
      .ok decision) :
    (∃ reason watermark, decision = .noChange reason watermark) ∨
      ∃ reason ∈ profileExitReasons, ∃ watermark, decision = .exit reason watermark := by
  obtain ⟨-, evaluated⟩ := refuse_bind_eq_ok.mp evaluated
  by_cases unfinished : marketFacts.isFinalClosedCandle = false
  · rw [if_pos unfinished, pure_eq_ok] at evaluated
    exact .inl ⟨_, _, evaluated⟩
  rw [if_neg unfinished] at evaluated
  obtain ⟨expired, -, evaluated⟩ := bind_eq_ok.mp evaluated
  by_cases ended : expired = true
  · rw [if_pos ended, pure_eq_ok] at evaluated
    exact .inr ⟨_, by simp [profileExitReasons], _, evaluated⟩
  rw [if_neg ended] at evaluated
  obtain ⟨reclaimed, -, evaluated⟩ := bind_eq_ok.mp evaluated
  by_cases fellBack : reclaimed = true
  · rw [if_pos fellBack, pure_eq_ok] at evaluated
    refine .inr ⟨_, ?_, _, evaluated⟩
    split_ifs <;> simp [profileExitReasons]
  rw [if_neg fellBack] at evaluated
  split_ifs at evaluated
  · exact .inr ⟨_, by simp [profileExitReasons], _, pure_eq_ok.mp evaluated⟩
  · exact .inr ⟨_, by simp [profileExitReasons], _, pure_eq_ok.mp evaluated⟩
  · exact .inl ⟨_, _, pure_eq_ok.mp evaluated⟩

/-- A runner is left when the time stop is hit, and for no other reason. -/
theorem evaluateProfileRunnerExit_exit {profile : LifecycleExitProfile}
    {currentStop floor tick : ℚ} {last watermark : ℤ} {facts : LifecycleMarketFacts}
    {reason : String}
    (evaluated : evaluateProfileRunnerExit profile currentStop floor tick last facts =
      .ok (.exit reason watermark)) : reason ∈ profileExitReasons := by
  obtain ⟨-, evaluated⟩ := refuse_bind_eq_ok.mp evaluated
  by_cases stale : facts.watermarkMs ≤ last
  · rw [if_pos stale] at evaluated
    simp [pure_eq_ok] at evaluated
  rw [if_neg stale] at evaluated
  by_cases unfinished : facts.isFinalClosedCandle = false
  · rw [if_pos unfinished] at evaluated
    simp [pure_eq_ok] at evaluated
  rw [if_neg unfinished] at evaluated
  by_cases expired : timeStopHit profile .absolute facts.holdingBars
  · rw [if_pos expired, pure_eq_ok] at evaluated
    obtain ⟨rfl, -⟩ := ExitDecision.exit.inj evaluated
    simp [profileExitReasons]
  rw [if_neg expired] at evaluated
  obtain ⟨structural, -, evaluated⟩ := bind_eq_ok.mp evaluated
  dsimp only at evaluated
  by_cases small : runnerImprovement profile.positionSide
      (runnerCandidate profile.positionSide structural floor) currentStop <
        tick * profile.runner.minimumImprovementTicks
  · rw [if_pos small] at evaluated
    simp [pure_eq_ok] at evaluated
  rw [if_neg small] at evaluated
  obtain ⟨-, evaluated⟩ := refuse_bind_eq_ok.mp evaluated
  simp [pure_eq_ok] at evaluated

end TradingKernel
