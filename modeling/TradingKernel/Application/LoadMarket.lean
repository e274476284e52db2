/-
**`_load_market_snapshot`: the candles that live observation of an event sees.**

Each family of events has its own timeframes and limits. The session events keep the candles of the
trigger's day, of as many as their limit fetches; since the limit is longer than a day these are all of
them (`sessionWindow_eq`).
-/

import TradingKernel.Application.ComparativeProjection
import TradingKernel.Domain.Detectors.SessionVerdicts

namespace TradingKernel.Observation

open Comparative Detectors Guard Text Windows

/-! ### The market -/

/-- The closed candles that the public market source has of each instrument. -/
abbrev Market := String → Timeframe → List ClosedCandle

/-- What the loader reads of a runtime scope. -/
structure RuntimeScopeSnapshot where
  eventSpecId : NonBlankText
  exchangeInstrumentId : NonBlankText
  universeVersionId : NonBlankText

/-- Candles that a snapshot takes: in the order of their opening, and closed by the trigger. -/
def checkWindow (triggerMs : ℤ) (candles : List ClosedCandle) : Except String Unit := do
  refuse (¬ candles.Pairwise fun earlier later => earlier.openTimeMs < later.openTimeMs)
    "market candles must be ordered and unique"
  refuse (¬ ∀ candle ∈ candles, candle.closeTimeMs ≤ triggerMs)
    "market snapshot cannot contain open or future candles"

theorem checkWindow_eq_ok {triggerMs : ℤ} {candles : List ClosedCandle} {done : Unit} :
    checkWindow triggerMs candles = .ok done ↔ ClosedWindow triggerMs candles := by
  unfold checkWindow
  rw [refuse_bind_eq_ok, refuse_eq_ok, not_not, not_not]
  exact ⟨fun both => ⟨both.1, both.2⟩, fun window => ⟨window.ordered, window.closed⟩⟩

/-- `_validate_market_snapshot`. -/
def checkSnapshot (exchangeInstrumentId : NonBlankText) (triggerMs : ℤ)
    (candles15m candles1h candles4h : List ClosedCandle)
    (productSession : Option ProductSessionSnapshot) : Except String Unit := do
  refuse (triggerMs ≤ 0) "market snapshot trigger must be positive"
  checkWindow triggerMs candles15m
  checkWindow triggerMs candles1h
  checkWindow triggerMs candles4h
  refuse (∃ product ∈ productSession, product.exchangeInstrumentId ≠ exchangeInstrumentId.text)
    "product Session instrument differs from market snapshot"

section Snapshot

variable {exchangeInstrumentId : NonBlankText} {triggerMs : ℤ}
  {candles15m candles1h candles4h : List ClosedCandle}
  {productSession : Option ProductSessionSnapshot}

theorem checkSnapshot_eq_ok :
    checkSnapshot exchangeInstrumentId triggerMs candles15m candles1h candles4h productSession =
        .ok () ↔
      0 < triggerMs ∧ ClosedWindow triggerMs candles15m ∧ ClosedWindow triggerMs candles1h ∧
        ClosedWindow triggerMs candles4h ∧
        ∀ product ∈ productSession, product.exchangeInstrumentId = exchangeInstrumentId.text := by
  unfold checkSnapshot
  simp only [refuse_bind_eq_ok]
  simp only [bind_eq_ok, checkWindow_eq_ok, refuse_eq_ok, not_le, not_exists, not_and, not_not,
    exists_const]

/-- `MarketSnapshot(...)`. -/
def marketSnapshot (exchangeInstrumentId : NonBlankText) (triggerMs : ℤ)
    (candles15m candles1h candles4h : List ClosedCandle)
    (comparativeStrength : Option ComparativeStrengthSnapshot)
    (productSession : Option ProductSessionSnapshot) : Except String MarketSnapshot :=
  certify (checkSnapshot exchangeInstrumentId triggerMs candles15m candles1h candles4h
      productSession) fun valid =>
    have sound := checkSnapshot_eq_ok.mp valid
    ⟨exchangeInstrumentId, triggerMs, candles15m, candles1h, candles4h, comparativeStrength,
      productSession, sound.1, sound.2.1, sound.2.2.1, sound.2.2.2.1, sound.2.2.2.2⟩

variable (exchangeInstrumentId) in
/-- A snapshot of closed windows is returned, and shows them. -/
theorem exists_marketSnapshot (positive : 0 < triggerMs) (window15m : ClosedWindow triggerMs candles15m)
    (window1h : ClosedWindow triggerMs candles1h) :
    ∃ snapshot, marketSnapshot exchangeInstrumentId triggerMs candles15m candles1h [] none none =
        .ok snapshot ∧ snapshot.triggerCandleCloseTimeMs = triggerMs ∧
      snapshot.candles15m = candles15m ∧ snapshot.candles1h = candles1h :=
  ⟨_, certify_eq_ok.mpr ⟨checkSnapshot_eq_ok.mpr ⟨positive, window15m, window1h,
    ⟨List.Pairwise.nil, nofun⟩, nofun⟩, rfl⟩, rfl, rfl, rfl⟩

end Snapshot

/-- `_fetch`. A request is made at a positive time. -/
def fetchClosed (market : Market) (exchangeInstrumentId : NonBlankText) (timeframe : Timeframe)
    (limit : ℕ) (triggerMs : ℤ) : Except String (List ClosedCandle) := do
  refuse (triggerMs ≤ 0) "closed_at_ms must be positive"
  return fetch (market exchangeInstrumentId timeframe) limit triggerMs

/-! ### The loader -/

/-- `comparative_lookback_bars`. -/
def comparativeLookbackBars (eventSpecId : String) : Option ℤ :=
  if eventSpecId = "event_spec:MPG-001:MPG-LONG:v3" then some 8
  else if eventSpecId = "event_spec:MI-001:MI-LONG:v3" then some 12
  else none

/-- The candles of the candidate in the projection, which is the one of the scope and the trigger. -/
def comparativeCandles (scope : RuntimeScopeSnapshot) (triggerMs : ℤ)
    (universeMemberIds : List String) (lookbackBars : ℤ)
    (projection : Option ComparativeUniverseProjection) : Except String (List ClosedCandle) := do
  let projection ← demand projection "comparative projection is unavailable"
  let expected ← comparativeMemberSetDigest universeMemberIds
  refuse (projection.eventSpecId ≠ scope.eventSpecId ∨
      projection.universeVersionId ≠ scope.universeVersionId ∨
      projection.closedBarTimeMs ≠ triggerMs ∨ projection.memberSetDigest ≠ expected ∨
      projection.comparativeStrength.lookbackBars ≠ lookbackBars)
    "comparative projection identity mismatch"
  projection.candlesFor scope.exchangeInstrumentId

/-- The candles of a window that open on the trigger's day. -/
def sessionWindow (triggerMs : ℤ) (candles : List ClosedCandle) : List ClosedCandle :=
  candles.filter fun candle => triggerMs / dayMs * dayMs ≤ candle.openTimeMs

/-- `_load_market_snapshot`. -/
def loadMarketSnapshot (market : Market) (contract : RegisteredStrategyContract)
    (scope : RuntimeScopeSnapshot) (triggerMs : ℤ) (universeMemberIds : List String)
    (projection : Option ComparativeUniverseProjection)
    (productSession : Option ProductSessionSnapshot) : Except String MarketSnapshot :=
  let fetched := fetchClosed market scope.exchangeInstrumentId
  let snapshot := marketSnapshot scope.exchangeInstrumentId triggerMs
  match contract.eventId with
  | .sor1hLong | .sor1hShort => do
      let raw ← fetched .oneHour 24 triggerMs
      snapshot [] (sessionWindow triggerMs raw) [] none none
  | .sorLong | .sorShort => do
      let raw ← fetched .fifteenMinutes 120 triggerMs
      snapshot (sessionWindow triggerMs raw) [] [] none none
  | .sorUsLong15m | .sorUsShort15m => do
      let raw ← fetched .fifteenMinutes 120 triggerMs
      snapshot raw [] [] none productSession
  | _ => do
      let comparative := comparativeLookbackBars contract.eventSpecId
      let candidate ← match comparative with
        | some lookbackBars =>
            comparativeCandles scope triggerMs universeMemberIds lookbackBars projection
        | none => pure []
      let hours ← if comparative.isSome then pure [] else fetched .oneHour 25 triggerMs
      let fourHours ←
        if (comparative.isSome ∧ contract.eventId = .mpgLong) ∨
            (comparative.isNone ∧ contract.eventId ∈ [EventId.cpmLong, .brf2Short]) then
          fetched .fourHours 25 triggerMs
        else pure []
      snapshot [] (if projection.isSome then candidate else hours) fourHours
        (projection.map (·.comparativeStrength)) none

/-! ### What a session event sees -/

section Session

variable {history : List ClosedCandle} {startMs stepMs : ℤ} {k limit : ℕ}

/-- The candles of a session that are closed at a time: those of the source between the two. -/
def sessionCandles (source : List ClosedCandle) (startMs throughMs : ℤ) : List ClosedCandle :=
  source.filter fun candle => startMs ≤ candle.openTimeMs ∧ candle.closeTimeMs ≤ throughMs

/-- **The live window at a step of a session is the session up to there**, where the limit is as long
as the session. -/
theorem sessionWindow_eq (ordered : history.Pairwise fun earlier later =>
      earlier.openTimeMs < later.openTimeMs) {throughMs : ℤ}
    (sequence : InSequence startMs stepMs (sessionCandles history startMs throughMs))
    (positive : 0 < stepMs) (audited : startMs + k * stepMs ≤ throughMs) (enough : k ≤ limit)
    (sessionStart : (startMs + k * stepMs) / dayMs * dayMs = startMs) :
    sessionWindow (startMs + k * stepMs) (fetch history limit (startMs + k * stepMs)) =
      (sessionCandles history startMs throughMs).take k := by
  let closed := history.filter fun candle => candle.closeTimeMs ≤ startMs + k * stepMs
  have all : closed.filter (fun candle => startMs ≤ candle.openTimeMs) =
      (sessionCandles history startMs throughMs).take k := by
    rw [← sequence.filter_closed positive]
    unfold sessionCandles
    rw [List.filter_filter, List.filter_filter]
    refine List.filter_congr fun candle _ => ?_
    rw [← Bool.decide_and, ← Bool.decide_and, decide_eq_decide]
    constructor
    · rintro ⟨opens, closes⟩
      exact ⟨closes, opens, closes.trans audited⟩
    · rintro ⟨closes, opens, -⟩
      exact ⟨opens, closes⟩
  have short : (closed.filter fun candle => startMs ≤ candle.openTimeMs).length ≤ limit := by
    rw [all, List.length_take]
    omega
  unfold sessionWindow fetch
  rw [sessionStart]
  refine (filter_rtake ?_ short).trans all
  refine (ordered.filter _).imp fun {earlier later} before wanted => ?_
  rw [decide_eq_true_eq] at wanted ⊢
  omega

end Session

end TradingKernel.Observation
