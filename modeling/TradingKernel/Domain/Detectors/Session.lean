/-
**The session detectors: SOR, its hourly variant, and the regular session of equity perpetuals.**

Each takes an opening range from the first candles of a session and looks for a close that crosses it.
The candles of the session have to be complete: they open in equal steps from the session's start.
-/

import TradingKernel.Domain.Detectors.Detector

namespace TradingKernel.Detectors

open Guard Windows

/-- The candles open and close in steps of `stepMs` from `startMs` on. -/
def InSequence (startMs stepMs : ℤ) (candles : List ClosedCandle) : Prop :=
  ∀ entry ∈ candles.zipIdx, entry.1.openTimeMs = startMs + entry.2 * stepMs ∧
    entry.1.closeTimeMs = startMs + (entry.2 + 1) * stepMs

instance (startMs stepMs : ℤ) (candles : List ClosedCandle) :
    Decidable (InSequence startMs stepMs candles) := inferInstanceAs (Decidable (∀ _ ∈ _, _))

theorem InSequence.numbered {startMs stepMs : ℤ} {candles : List ClosedCandle}
    (h : InSequence startMs stepMs candles) : Numbered (·.openTimeMs) startMs stepMs candles :=
  fun entry hEntry => (h entry hEntry).1

/-! ### SOR: the four-bar opening range -/

def dayMs : ℤ := 86400000

/-- The verdict of the SOR detector on the candles of its session. -/
def sorVerdict (contract : RegisteredStrategyContract) (snapshot : MarketSnapshot)
    (sessionStartMs : ℤ) (candles : List ClosedCandle) : Except String DetectorResult := do
  let openingRange := candles.take 4
  let latest ← candleFromEnd candles 1
  let previous ← candleFromEnd candles 2
  let rangeHigh ← highestHigh openingRange
  let rangeLow ← lowestLow openingRange
  let breakout := decide (previous.close ≤ rangeHigh ∧ rangeHigh < latest.close)
  let breakdown := decide (rangeLow ≤ previous.close ∧ latest.close < rangeLow)
  let isLong := decide (contract.eventId = .sorLong)
  let triggered := if isLong then breakout else breakdown
  let eventFact := if isLong then "breakout_edge_crossed_v3" else "breakdown_edge_crossed_v3"
  let protectionFact :=
    if isLong then "opening_range_low_reference_v3" else "opening_range_high_reference_v3"
  let lifecycleFact :=
    if isLong then "opening_range_high_reference_v3" else "opening_range_low_reference_v3"
  let referenceValue := if isLong then rangeLow else rangeHigh
  let reason :=
    if triggered then
      if isLong then "sor_opening_range_breakout" else "sor_opening_range_breakdown"
    else "sor_no_action_opening_range_intact"
  let range ← factSnapshot contract snapshot "opening_range_defined_v3" (.boolean true) true none none
  let edge ← factSnapshot contract snapshot eventFact (.boolean triggered) triggered none none
  let lifecycle ← factSnapshot contract snapshot lifecycleFact
    (.decimal (if contract.positionSide = .long then rangeHigh else rangeLow)) true none none
  let protection ← factSnapshot contract snapshot protectionFact (.decimal referenceValue) true
    none none
  let start ← factSnapshot contract snapshot "session_start_ms_v3" (.decimal sessionStartMs) true
    none none
  let close ← factSnapshot contract snapshot "session_end_ms_v3" (.decimal (sessionStartMs + dayMs))
    true none none
  computedResult contract snapshot triggered reason [range, edge, lifecycle, protection, start, close]

/-- `SORDetector.evaluate`. -/
def sorEvaluate (contract : RegisteredStrategyContract) (snapshot : MarketSnapshot) :
    Except String DetectorResult :=
  inScope contract snapshot <|
    if snapshot.candles15m.length < 5 then
      invalidResult contract "sor_invalid_insufficient_15m_candles"
    else
      let sessionStartMs := snapshot.triggerCandleCloseTimeMs / dayMs * dayMs
      if snapshot.candles15m.head?.map (·.openTimeMs) ≠ some sessionStartMs ∨
          ¬ InSequence sessionStartMs 900000 snapshot.candles15m then
        invalidResult contract "sor_invalid_session_candle_sequence"
      else sorVerdict contract snapshot sessionStartMs snapshot.candles15m

/-! ### SOR-1H: the first hour of the day -/

def hourMs : ℤ := 3600000

/-- The hours of the day up to the trigger are all there. -/
def CompleteHours (nowMs dayStartMs : ℤ) (bars : List ClosedCandle) : Prop :=
  nowMs % hourMs = 0 ∧ bars ≠ [] ∧ (dayStartMs + hourMs ≤ nowMs ∧ nowMs < dayStartMs + dayMs) ∧
    (bars.length : ℤ) = (nowMs - dayStartMs) / hourMs ∧ InSequence dayStartMs hourMs bars

instance (nowMs dayStartMs : ℤ) (bars : List ClosedCandle) :
    Decidable (CompleteHours nowMs dayStartMs bars) :=
  haveI : Decidable (bars ≠ []) := decidable_of_iff (¬ bars.isEmpty) (by simp)
  inferInstanceAs (Decidable (_ ∧ _))

/-- The verdict of the hourly SOR detector on the bars of the day. -/
def sor1hVerdict (contract : RegisteredStrategyContract) (snapshot : MarketSnapshot)
    (dayStartMs : ℤ) (bars : List ClosedCandle) : Except String DetectorResult := do
  let first ← firstCandle bars
  if first.high ≤ first.low then invalidResult contract "sor_1h_invalid_opening_range"
  else do
    let latest ← candleFromEnd bars 1
    let eligible := decide (2 ≤ bars.length)
    -- the source reads `bars[-2]` only of an eligible hour
    let previous := (fromEnd? bars 2).getD latest
    let isLong := decide (contract.positionSide = .long)
    let crossed := eligible &&
      if isLong then decide (previous.close ≤ first.high ∧ first.high < latest.close)
      else decide (first.low ≤ previous.close ∧ latest.close < first.low)
    let range ← factSnapshot contract snapshot "opening_range_defined_1h_v1" (.boolean true) true
      none none
    let hour ← factSnapshot contract snapshot "entry_hour_eligible_1h_v1" (.boolean eligible) eligible
      none none
    let edge ← factSnapshot contract snapshot
      ((if isLong then "breakout" else "breakdown") ++ "_edge_crossed_1h_v1") (.boolean crossed) crossed
      none none
    let protection ← factSnapshot contract snapshot
      ("opening_range_" ++ (if isLong then "low" else "high") ++ "_reference_1h_v1")
      (.decimal (if isLong then first.low else first.high)) true none none
    let lifecycle ← factSnapshot contract snapshot
      ("opening_range_" ++ (if isLong then "high" else "low") ++ "_reference_1h_v1")
      (.decimal (if isLong then first.high else first.low)) true none none
    let start ← factSnapshot contract snapshot "session_start_ms_1h_v1" (.decimal dayStartMs) true
      none none
    let close ← factSnapshot contract snapshot "session_end_ms_1h_v1" (.decimal (dayStartMs + dayMs))
      true none none
    let reason :=
      if crossed then "sor_1h_" ++ if isLong then "breakout" else "breakdown"
      else if ¬ eligible then "sor_1h_opening_range_prepared"
      else "sor_1h_no_hourly_cross"
    computedResult contract snapshot crossed reason
      [range, hour, edge, protection, lifecycle, start, close]

/-- `SorHourlyDetector.evaluate`. -/
def sor1hEvaluate (contract : RegisteredStrategyContract) (snapshot : MarketSnapshot) :
    Except String DetectorResult :=
  let nowMs := snapshot.triggerCandleCloseTimeMs
  let dayStartMs := nowMs / dayMs * dayMs
  if ¬ CompleteHours nowMs dayStartMs snapshot.candles1h then
    invalidResult contract "sor_1h_invalid_session_path"
  else sor1hVerdict contract snapshot dayStartMs snapshot.candles1h

/-! ### SOR-US: the regular session of an equity perpetual -/

variable (arithmetic : Arithmetic)

def barMs : ℤ := 900000
def entryWindowEndBars : ℤ := 10
def atrPeriod : ℕ := 14
def stopAtrBuffer : ℚ := 0.10
def maxStopAtr : ℚ := 1.25

/-- `_atr`. -/
def atr (candles : List ClosedCandle) : ℚ :=
  let trueRanges := (candles.zip candles.tail).map fun pair =>
    max (max (arithmetic.sub pair.2.high pair.2.low)
      (arithmetic.abs (arithmetic.sub pair.2.high pair.1.close)))
      (arithmetic.abs (arithmetic.sub pair.2.low pair.1.close))
  arithmetic.div (arithmetic.sum trueRanges) trueRanges.length

/-- The candles from the open of the regular session to the trigger. -/
def regularCandles (regularOpenMs triggerMs : ℤ) (candles : List ClosedCandle) :
    List ClosedCandle :=
  candles.filter fun candle => regularOpenMs ≤ candle.openTimeMs ∧ candle.closeTimeMs ≤ triggerMs

/-- The verdict of the equity detector on the candles of the regular session. -/
def usSorVerdict (contract : RegisteredStrategyContract) (snapshot : MarketSnapshot)
    (session : RegularSession) (regular : List ClosedCandle) (averageTrueRange : ℚ) :
    Except String DetectorResult := do
  let openingRange := regular.take 2
  let previous ← candleFromEnd regular 2
  let latest ← candleFromEnd regular 1
  let rangeHigh ← highestHigh openingRange
  let rangeLow ← lowestLow openingRange
  let isLong := decide (contract.positionSide = .long)
  let edgeCrossed :=
    if isLong then decide (previous.close ≤ rangeHigh ∧ rangeHigh < latest.close)
    else decide (rangeLow ≤ previous.close ∧ latest.close < rangeLow)
  let edgeFact := if isLong then "breakout_edge_crossed_us_v1" else "breakdown_edge_crossed_us_v1"
  let lifecycleFact :=
    if isLong then "opening_range_high_reference_us_v1" else "opening_range_low_reference_us_v1"
  let lifecycleValue := if isLong then rangeHigh else rangeLow
  let buffer := arithmetic.mul averageTrueRange stopAtrBuffer
  let initialStop :=
    if isLong then arithmetic.sub (min rangeHigh latest.low) buffer
    else arithmetic.add (max rangeLow latest.high) buffer
  let stopDistance :=
    if isLong then arithmetic.sub latest.close initialStop
    else arithmetic.sub initialStop latest.close
  let stopEligible := decide (0 < initialStop ∧ 0 < stopDistance ∧
    stopDistance ≤ arithmetic.mul averageTrueRange maxStopAtr)
  let reason :=
    if ¬ edgeCrossed then "us_sor_opening_range_intact"
    else if ¬ stopEligible then "us_sor_stop_distance_exceeded"
    else if isLong then "us_sor_regular_breakout"
    else "us_sor_regular_breakdown"
  let confirmed ← factSnapshot contract snapshot "regular_session_confirmed_us_v1" (.boolean true)
    true none none
  let range ← factSnapshot contract snapshot "opening_range_defined_us_v1" (.boolean true) true
    none none
  let edge ← factSnapshot contract snapshot edgeFact (.boolean edgeCrossed) edgeCrossed none none
  let lifecycle ← factSnapshot contract snapshot lifecycleFact (.decimal lifecycleValue) true none none
  let protection ← factSnapshot contract snapshot "initial_stop_reference_us_v1"
    (.decimal initialStop) stopEligible none none
  let start ← factSnapshot contract snapshot "regular_session_open_ms_us_v1"
    (.decimal session.openMs) true none none
  let deadline ← factSnapshot contract snapshot "session_exit_deadline_ms_us_v1"
    (.decimal (session.closeMs - barMs)) true none none
  computedResult contract snapshot (edgeCrossed && stopEligible) reason
    [confirmed, range, edge, lifecycle, protection, start, deadline]

/-- The part of the equity detector after the session facts are found usable. -/
def usSorSession (contract : RegisteredStrategyContract) (snapshot : MarketSnapshot)
    (session : RegularSession) : Except String DetectorResult :=
  let triggerMs := snapshot.triggerCandleCloseTimeMs
  if ¬ (session.openMs + 2 * barMs < triggerMs ∧
      triggerMs ≤ min (session.openMs + entryWindowEndBars * barMs) (session.closeMs - barMs)) then
    detectorResult contract.eventSpecId .notTriggered none "us_sor_outside_entry_window" []
  else
    let regular := regularCandles session.openMs triggerMs snapshot.candles15m
    if regular.length < 3 ∨ regular.getLast?.map (·.closeTimeMs) ≠ some triggerMs then
      invalidResult contract "us_sor_regular_candles_missing"
    else if ¬ InSequence session.openMs barMs regular then
      invalidResult contract "us_sor_regular_candle_sequence"
    else if snapshot.candles15m.length < atrPeriod + 1 then
      invalidResult contract "us_sor_atr_window_missing"
    else
      usSorVerdict arithmetic contract snapshot session regular
        (atr arithmetic (snapshot.candles15m.rtake (atrPeriod + 1)))

/-- `USEquitySORDetector.evaluate`. -/
def usSorEvaluate (contract : RegisteredStrategyContract) (snapshot : MarketSnapshot) :
    Except String DetectorResult :=
  inScope contract snapshot <|
    match snapshot.productSession with
    | none => invalidResult contract "us_sor_product_session_missing"
    | some product =>
        if snapshot.triggerCandleCloseTimeMs < product.observedAtMs ∨
            product.validUntilMs ≤ snapshot.triggerCandleCloseTimeMs then
          invalidResult contract "us_sor_product_session_stale"
        else if product.productStatus ≠ .active then
          invalidResult contract "us_sor_product_unavailable"
        else if product.sessionState ≠ .regular then
          detectorResult contract.eventSpecId .notTriggered none "us_sor_outside_regular_session" []
        else if ¬ product.UsableForRegularObservation snapshot.triggerCandleCloseTimeMs then
          invalidResult contract "us_sor_product_session_invalid"
        else do
          let session ← demand product.regularSession "regular_open_ms is not None"
          usSorSession arithmetic contract snapshot session

end TradingKernel.Detectors
