/-
**The hourly detectors: CPM, MPG, MI and BRF2.**

Each reads the closed one-hour candles, three of them also the four-hour ones, and judges what it has
read. The reading of a detector is a record of its own, so that what a verdict depends on stands in one
place.
-/

import TradingKernel.Domain.Detectors.Detector

namespace TradingKernel.Detectors

open Guard

variable (arithmetic : Arithmetic)

/-! ### CPM: long pullback and reclaim -/

/-- `_sma`. -/
def sma (values : List ℚ) : ℚ := arithmetic.div (arithmetic.sum values) values.length

/-- What the CPM detector computes from its candles. -/
structure CPMReading where
  htfTrendIntact : Bool
  pullbackDepthNormal : Bool
  reclaimConfirmed : Bool
  lookbackLow : ℚ

def cpmReading (oneHour fourHour : List ClosedCandle) : Except String CPMReading := do
  let latest1h ← candleFromEnd oneHour 1
  let previous1h ← candleFromEnd oneHour 2
  let latest4h ← candleFromEnd fourHour 1
  let previous4h ← candleFromEnd fourHour 2
  let sma20of1h := sma arithmetic ((oneHour.rtake 20).map (·.close))
  let sma20of4h := sma arithmetic ((fourHour.rtake 20).map (·.close))
  let lookback := (oneHour.rtake 21).dropLast
  let lookbackHigh ← highestHigh lookback
  let lookbackLow ← lowestLow lookback
  let pullbackDepthPct :=
    arithmetic.mul (arithmetic.div (arithmetic.sub lookbackHigh lookbackLow) lookbackHigh) 100
  pure
    { htfTrendIntact := decide (sma20of4h < latest4h.close ∧ previous4h.close ≤ latest4h.close)
      pullbackDepthNormal := decide (0.5 ≤ pullbackDepthPct ∧ pullbackDepthPct ≤ 8.0)
      reclaimConfirmed := decide (sma20of1h < latest1h.close ∧ previous1h.high < latest1h.close)
      lookbackLow := lookbackLow }

/-- The verdict of the CPM detector on a reading. -/
def cpmVerdict (contract : RegisteredStrategyContract) (snapshot : MarketSnapshot)
    (reading : CPMReading) : Except String DetectorResult := do
  let triggered := reading.htfTrendIntact && reading.pullbackDepthNormal && reading.reclaimConfirmed
  let trend ← factSnapshot contract snapshot "htf_trend_intact"
    (.boolean reading.htfTrendIntact) reading.htfTrendIntact none none
  let reclaim ← factSnapshot contract snapshot "reclaim_confirmed"
    (.boolean reading.reclaimConfirmed) reading.reclaimConfirmed none none
  let reference ← factSnapshot contract snapshot "pullback_low_reference"
    (.decimal reading.lookbackLow) true none none
  let reason :=
    if ¬ reading.htfTrendIntact then "cpm_no_action_trend_ambiguous"
    else if ¬ reading.pullbackDepthNormal then "cpm_no_action_no_pullback"
    else if ¬ reading.reclaimConfirmed then "cpm_no_action_no_reclaim"
    else "cpm_long_pullback_reclaim"
  computedResult contract snapshot triggered reason [trend, reclaim, reference]

/-- `CPMLongDetector.evaluate`. -/
def cpmEvaluate (contract : RegisteredStrategyContract) (snapshot : MarketSnapshot) :
    Except String DetectorResult :=
  inScope contract snapshot <|
    if snapshot.candles1h.length < 21 ∨ snapshot.candles4h.length < 21 then
      invalidResult contract "cpm_invalid_insufficient_candles"
    else do
      let reading ← cpmReading arithmetic snapshot.candles1h snapshot.candles4h
      cpmVerdict contract snapshot reading

/-! ### Comparative strength -/

/-- The check of the comparative facts, which the comparative events share. -/
def comparativeInvalidReasonOf (strategyGroupId : String) (lookbackBars : ℤ)
    (missing scope stale : String) (snapshot : MarketSnapshot) : Option String :=
  match snapshot.comparativeStrength with
  | none => some missing
  | some comparative =>
      if comparative.strategyGroupId ≠ strategyGroupId ∨ comparative.timeframe ≠ .oneHour ∨
          comparative.lookbackBars ≠ lookbackBars ∨
          comparative.triggerCandleCloseTimeMs ≠ snapshot.triggerCandleCloseTimeMs then
        some scope
      else if snapshot.triggerCandleCloseTimeMs < comparative.observedAtMs ∨
          comparative.validUntilMs ≤ snapshot.triggerCandleCloseTimeMs then
        some stale
      else none

/-- `_comparative_invalid_reason` of MPG. -/
def mpgComparativeInvalidReason : MarketSnapshot → Option String :=
  comparativeInvalidReasonOf "MPG-001" 8 "mpg_invalid_comparative_strength_missing"
    "mpg_invalid_comparative_strength_scope" "mpg_invalid_comparative_strength_stale"

/-- `_comparative_invalid_reason` of MI. -/
def miComparativeInvalidReason : MarketSnapshot → Option String :=
  comparativeInvalidReasonOf "MI-001" 12 "mi_invalid_comparative_strength_missing"
    "mi_invalid_comparative_strength_scope" "mi_invalid_comparative_strength_stale"

/-! ### MPG: long momentum persistence -/

/-- The change from the first close of the candles to the last one, in percent. -/
def netPct (candles : List ClosedCandle) : Except String ℚ := do
  let last ← candleFromEnd candles 1
  let first ← firstCandle candles
  pure (arithmetic.pct (arithmetic.sub last.close first.close) first.close)

/-- `_count_higher_closes`. -/
def countHigherCloses (candles : List ClosedCandle) : ℕ :=
  (candles.zip candles.tail).countP fun pair => pair.1.close < pair.2.close

/-- What the MPG detector computes from its one-hour candles. -/
structure MPGReading where
  oneHourNetPct : ℚ
  latest : ClosedCandle
  previousRangeHigh : ℚ
  momentumFloor : ℚ
  higherCloses : ℕ

def mpgReading (oneHour : List ClosedCandle) : Except String MPGReading := do
  let latest ← candleFromEnd oneHour 1
  let lookback := (oneHour.rtake 9).dropLast
  let floorLookback := (oneHour.rtake 6).dropLast
  let first ← firstCandle lookback
  let previousRangeHigh ← highestHigh lookback
  let momentumFloor ← lowestLow floorLookback
  pure
    { oneHourNetPct := arithmetic.pct (arithmetic.sub latest.close first.close) first.close
      latest := latest
      previousRangeHigh := previousRangeHigh
      momentumFloor := momentumFloor
      higherCloses := countHigherCloses (oneHour.rtake 5) }

/-- The part of the momentum condition that the one-hour candles decide. -/
def MPGReading.Persists (reading : MPGReading) : Prop :=
  1.0 ≤ reading.oneHourNetPct ∧ reading.previousRangeHigh < reading.latest.close ∧
    reading.latest.openPrice < reading.latest.close ∧ 3 ≤ reading.higherCloses

instance (reading : MPGReading) : Decidable reading.Persists := inferInstanceAs (Decidable (_ ∧ _))

/-- The verdict of the MPG detector. -/
def mpgVerdict (contract : RegisteredStrategyContract) (snapshot : MarketSnapshot)
    (momentumFloor : ℚ) (momentumConfirmed : Bool) : Except String DetectorResult := do
  let momentum ← factSnapshot contract snapshot "momentum_persistence_confirmed"
    (.boolean momentumConfirmed) momentumConfirmed none none
  let unconfirmed ← factSnapshot contract snapshot "leader_strength_confirmed"
    (.boolean false) false none none
  let reference ← factSnapshot contract snapshot "momentum_floor_reference"
    (.decimal momentumFloor) true none none
  if ¬ momentumConfirmed then
    computedResult contract snapshot false "mpg_no_action_momentum_persistence_not_confirmed"
      [momentum, unconfirmed, reference]
  else
    match mpgComparativeInvalidReason snapshot with
    | some invalidReason => invalidResult contract invalidReason
    | none => do
        let comparative ← demand snapshot.comparativeStrength
          "validated comparative snapshot disappeared"
        match comparative.member snapshot.exchangeInstrumentId with
        | none => invalidResult contract "mpg_invalid_comparative_strength_member_missing"
        | some member => do
            let leaderConfirmed := decide (member.rank = 1 ∧ 0 < member.returnPct)
            let leader ← factSnapshot contract snapshot "leader_strength_confirmed"
              (.boolean leaderConfirmed) leaderConfirmed (some comparative.observedAtMs)
              (some comparative.validUntilMs)
            computedResult contract snapshot leaderConfirmed
              (if leaderConfirmed then "mpg_long_momentum_persistence"
                else "mpg_no_action_leader_strength_not_confirmed")
              [momentum, leader, reference]

/-- `MPGLongDetector.evaluate`. -/
def mpgEvaluate (contract : RegisteredStrategyContract) (snapshot : MarketSnapshot) :
    Except String DetectorResult :=
  inScope contract snapshot <|
    if snapshot.candles1h.length < 16 then
      invalidResult contract "mpg_invalid_insufficient_1h_candles"
    else if snapshot.candles4h.length < 4 then
      invalidResult contract "mpg_invalid_insufficient_4h_candles"
    else do
      let reading ← mpgReading arithmetic snapshot.candles1h
      let fourHourNetPct ← netPct arithmetic snapshot.candles4h
      mpgVerdict contract snapshot reading.momentumFloor
        (decide (0.8 ≤ fourHourNetPct ∧ reading.Persists))

/-! ### MI: long twelve-hour momentum impulse -/

/-- What the MI detector computes from its candles. -/
structure MIReading where
  impulseReturnPct : ℚ
  lookbackClose : ℚ

def miReading (candles : List ClosedCandle) : Except String MIReading := do
  let latest ← candleFromEnd candles 1
  let lookback ← candleFromEnd candles 13
  pure
    { impulseReturnPct :=
        arithmetic.mul (arithmetic.div (arithmetic.sub latest.close lookback.close) lookback.close) 100
      lookbackClose := lookback.close }

/-- The verdict of the MI detector on a reading. -/
def miVerdict (contract : RegisteredStrategyContract) (snapshot : MarketSnapshot)
    (reading : MIReading) : Except String DetectorResult := do
  let impulseConfirmed := decide (3 ≤ reading.impulseReturnPct)
  let impulse ← factSnapshot contract snapshot "impulse_confirmed"
    (.boolean impulseConfirmed) impulseConfirmed none none
  let unconfirmed ← factSnapshot contract snapshot "relative_strength_confirmed"
    (.boolean false) false none none
  let reference ← factSnapshot contract snapshot "impulse_invalidation_reference"
    (.decimal reading.lookbackClose) true none none
  if ¬ impulseConfirmed then
    computedResult contract snapshot false "mi_no_action_impulse_below_threshold"
      [impulse, unconfirmed, reference]
  else
    match miComparativeInvalidReason snapshot with
    | some invalidReason => invalidResult contract invalidReason
    | none => do
        let comparative ← demand snapshot.comparativeStrength
          "validated comparative snapshot disappeared"
        match comparative.member snapshot.exchangeInstrumentId with
        | none => invalidResult contract "mi_invalid_comparative_strength_member_missing"
        | some member =>
            if member.returnPct ≠ reading.impulseReturnPct then
              invalidResult contract "mi_invalid_comparative_return_mismatch"
            else do
              let strengthConfirmed := decide (member.rank = 1)
              let strength ← factSnapshot contract snapshot "relative_strength_confirmed"
                (.boolean strengthConfirmed) strengthConfirmed (some comparative.observedAtMs)
                (some comparative.validUntilMs)
              computedResult contract snapshot strengthConfirmed
                (if strengthConfirmed then "mi_long_momentum_impulse"
                  else "mi_no_action_relative_strength_not_confirmed")
                [impulse, strength, reference]

/-- `MILongDetector.evaluate`. -/
def miEvaluate (contract : RegisteredStrategyContract) (snapshot : MarketSnapshot) :
    Except String DetectorResult :=
  inScope contract snapshot <|
    if snapshot.candles1h.length < 13 then
      invalidResult contract "mi_invalid_insufficient_candles"
    else do
      let reading ← miReading arithmetic snapshot.candles1h
      miVerdict contract snapshot reading

/-! ### BRF2: short bear-rally failure -/

/-- What the BRF2 detector computes from its one-hour candles. -/
structure BRF2Reading where
  rallyExtensionConfirmed : Bool
  rejectionConfirmed : Bool
  rallyHigh : ℚ

def brf2Reading (oneHour : List ClosedCandle) : Except String BRF2Reading := do
  let latest ← candleFromEnd oneHour 1
  let previous ← candleFromEnd oneHour 2
  let lookback := (oneHour.rtake 9).dropLast
  let rallyLow ← lowestLow lookback
  let rallyHigh ← highestHigh (lookback ++ [latest])
  let rallyPct := arithmetic.pct (arithmetic.sub rallyHigh rallyLow) rallyLow
  let latestRange := max (arithmetic.sub latest.high latest.low) 0
  let upperWick := max (arithmetic.sub latest.high (max latest.openPrice latest.close)) 0
  let upperWickRatio := if 0 < latestRange then arithmetic.div upperWick latestRange else 0
  let closeReversalPct := arithmetic.pct (arithmetic.sub latest.high latest.close) latest.high
  pure
    { rallyExtensionConfirmed := decide (2.0 ≤ rallyPct)
      rejectionConfirmed := decide (0.30 ≤ upperWickRatio ∧ 0.40 ≤ closeReversalPct ∧
        latest.close < latest.openPrice ∧ latest.close ≤ previous.close)
      rallyHigh := rallyHigh }

/-- The verdict of the BRF2 detector on a reading. -/
def brf2Verdict (contract : RegisteredStrategyContract) (snapshot : MarketSnapshot)
    (reading : BRF2Reading) (strongUptrendDisable : Bool) : Except String DetectorResult := do
  let rallyFailureConfirmed := reading.rallyExtensionConfirmed && reading.rejectionConfirmed
  let shortSideNotDisabled := !strongUptrendDisable
  let failure ← factSnapshot contract snapshot "rally_failure_confirmed"
    (.boolean rallyFailureConfirmed) rallyFailureConfirmed none none
  let allowed ← factSnapshot contract snapshot "short_side_not_disabled"
    (.boolean shortSideNotDisabled) shortSideNotDisabled none none
  let reference ← factSnapshot contract snapshot "rally_high_reference"
    (.decimal reading.rallyHigh) true none none
  let disable ← factSnapshot contract snapshot "strong_uptrend_disable"
    (.boolean strongUptrendDisable) strongUptrendDisable none none
  let reason :=
    if strongUptrendDisable then "brf2_no_action_strong_uptrend_disable"
    else if ¬ reading.rallyExtensionConfirmed then "brf2_no_action_no_rally_extension"
    else if ¬ reading.rejectionConfirmed then "brf2_no_action_no_rejection_close"
    else "brf2_short_bear_rally_failure"
  computedResult contract snapshot (rallyFailureConfirmed && shortSideNotDisabled) reason
    [failure, allowed, reference, disable]

/-- `BRF2ShortDetector.evaluate`. -/
def brf2Evaluate (contract : RegisteredStrategyContract) (snapshot : MarketSnapshot) :
    Except String DetectorResult :=
  inScope contract snapshot <|
    if snapshot.candles1h.length < 12 then
      invalidResult contract "brf2_invalid_insufficient_1h_candles"
    else if snapshot.candles4h.length < 2 then
      invalidResult contract "brf2_invalid_missing_4h_context"
    else do
      let reading ← brf2Reading arithmetic snapshot.candles1h
      let htfNetPct ← netPct arithmetic snapshot.candles4h
      brf2Verdict contract snapshot reading (decide (3.0 ≤ htfNetPct))

end TradingKernel.Detectors
