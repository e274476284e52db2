/-
**Closed-market inputs of the detectors.**

A `MarketSnapshot` holds the closed candles of three timeframes in the order of their opening, none of
them later than the trigger, and the comparative and session facts of the same instrument.
`OlderHistory` relates two snapshots of one moment of which the second was loaded further into the past.
-/

import Mathlib.Algebra.Order.Ring.Rat
import Mathlib.Data.List.Nodup
import TradingKernel.Domain.Identities
import TradingKernel.Lib.Windows

namespace TradingKernel.Detectors

open Windows

inductive Timeframe where
  | fifteenMinutes
  | oneHour
  | fourHours
  deriving DecidableEq, Repr

def Timeframe.value : Timeframe → String
  | .fifteenMinutes => "15m"
  | .oneHour => "1h"
  | .fourHours => "4h"

structure ClosedCandle where
  openTimeMs : ℤ
  closeTimeMs : ℤ
  openPrice : ℚ
  high : ℚ
  low : ℚ
  close : ℚ
  volume : ℚ
  window : 0 < openTimeMs ∧ openTimeMs < closeTimeMs
  positive : 0 < openPrice ∧ 0 < high ∧ 0 < low ∧ 0 < close
  volume_nonneg : 0 ≤ volume
  contained : max openPrice close ≤ high ∧ low ≤ min openPrice close

/-- `ClosedCandle(...)`, where its values are valid. -/
def closedCandle (openTimeMs closeTimeMs : ℤ) (openPrice high low close volume : ℚ) :
    Option ClosedCandle :=
  if h : (0 < openTimeMs ∧ openTimeMs < closeTimeMs) ∧
      (0 < openPrice ∧ 0 < high ∧ 0 < low ∧ 0 < close) ∧ 0 ≤ volume ∧
      (max openPrice close ≤ high ∧ low ≤ min openPrice close) then
    some ⟨openTimeMs, closeTimeMs, openPrice, high, low, close, volume, h.1, h.2.1, h.2.2.1, h.2.2.2⟩
  else none

/-! ### Comparative and session facts -/

structure ComparativeStrengthMember where
  exchangeInstrumentId : String
  returnPct : ℚ
  rank : ℕ
  deriving DecidableEq

structure ComparativeStrengthSnapshot where
  strategyGroupId : String
  timeframe : Timeframe
  lookbackBars : ℤ
  triggerCandleCloseTimeMs : ℤ
  members : List ComparativeStrengthMember
  observedAtMs : ℤ
  validUntilMs : ℤ
  positive : 0 < lookbackBars ∧ 0 < triggerCandleCloseTimeMs
  window : 0 < observedAtMs ∧ observedAtMs ≤ validUntilMs
  members_ne_nil : members ≠ []
  instruments_nodup : (members.map (·.exchangeInstrumentId)).Nodup
  ranks_contiguous : (members.map (·.rank)).Perm (List.range' 1 members.length)

/-- `ComparativeStrengthSnapshot.member`. -/
def ComparativeStrengthSnapshot.member (comparative : ComparativeStrengthSnapshot)
    (exchangeInstrumentId : String) : Option ComparativeStrengthMember :=
  comparative.members.find? fun item => item.exchangeInstrumentId = exchangeInstrumentId

inductive ProductFamily where
  | cryptoPerpetual
  | tradfiEquityPerpetual
  deriving DecidableEq, Repr

inductive ProductStatus where
  | active
  | inactive
  | temporarilyUnavailable
  deriving DecidableEq, Repr

inductive SessionState where
  | preMarket
  | regular
  | afterMarket
  | overnight
  | noTrading
  | unavailable
  deriving DecidableEq, Repr

/-- The open and the close of a regular session. -/
structure RegularSession where
  openMs : ℤ
  closeMs : ℤ
  follows : openMs < closeMs

/-- The fields of a product session that a detector reads. -/
structure ProductSessionSnapshot where
  exchangeInstrumentId : String
  productFamily : ProductFamily
  productStatus : ProductStatus
  sessionState : SessionState
  regularSession : Option RegularSession
  observedAtMs : ℤ
  validUntilMs : ℤ
  window : 0 < observedAtMs ∧ observedAtMs < validUntilMs

/-- `usable_for_regular_observation`. -/
def ProductSessionSnapshot.UsableForRegularObservation (product : ProductSessionSnapshot)
    (triggerMs : ℤ) : Prop :=
  product.productFamily = .tradfiEquityPerpetual ∧ product.productStatus = .active ∧
    product.sessionState = .regular ∧ product.observedAtMs ≤ triggerMs ∧
    triggerMs < product.validUntilMs ∧ product.regularSession.isSome

instance (product : ProductSessionSnapshot) (triggerMs : ℤ) :
    Decidable (product.UsableForRegularObservation triggerMs) := inferInstanceAs (Decidable (_ ∧ _))

/-! ### Market snapshots -/

/-- Candles in the order of their opening, all of them closed at `triggerMs`. -/
structure ClosedWindow (triggerMs : ℤ) (candles : List ClosedCandle) : Prop where
  ordered : candles.Pairwise fun earlier later => earlier.openTimeMs < later.openTimeMs
  closed : ∀ candle ∈ candles, candle.closeTimeMs ≤ triggerMs

structure MarketSnapshot where
  exchangeInstrumentId : String
  triggerCandleCloseTimeMs : ℤ
  candles15m : List ClosedCandle
  candles1h : List ClosedCandle
  candles4h : List ClosedCandle
  comparativeStrength : Option ComparativeStrengthSnapshot
  productSession : Option ProductSessionSnapshot
  trigger_pos : 0 < triggerCandleCloseTimeMs
  window15m : ClosedWindow triggerCandleCloseTimeMs candles15m
  window1h : ClosedWindow triggerCandleCloseTimeMs candles1h
  window4h : ClosedWindow triggerCandleCloseTimeMs candles4h
  session_instrument : ∀ product ∈ productSession,
    product.exchangeInstrumentId = exchangeInstrumentId

/-- `MarketSnapshot.candles`. -/
def MarketSnapshot.candles (snapshot : MarketSnapshot) : Timeframe → List ClosedCandle
  | .fifteenMinutes => snapshot.candles15m
  | .oneHour => snapshot.candles1h
  | .fourHours => snapshot.candles4h

/-- `_fetch`: the last `limit` candles of a source that are closed at `triggerMs`. -/
def fetch (source : List ClosedCandle) (limit : ℕ) (triggerMs : ℤ) : List ClosedCandle :=
  (source.filter fun candle => candle.closeTimeMs ≤ triggerMs).rtake limit

/-- The second snapshot shows the moment of the first and only adds older candles. -/
structure OlderHistory (shorter longer : MarketSnapshot) : Prop where
  exchangeInstrumentId : longer.exchangeInstrumentId = shorter.exchangeInstrumentId
  trigger : longer.triggerCandleCloseTimeMs = shorter.triggerCandleCloseTimeMs
  comparativeStrength : longer.comparativeStrength = shorter.comparativeStrength
  productSession : longer.productSession = shorter.productSession
  candles15m : shorter.candles15m <:+ longer.candles15m
  candles1h : shorter.candles1h <:+ longer.candles1h
  candles4h : shorter.candles4h <:+ longer.candles4h

theorem OlderHistory.candles {shorter longer : MarketSnapshot} (h : OlderHistory shorter longer)
    (timeframe : Timeframe) : shorter.candles timeframe <:+ longer.candles timeframe := by
  cases timeframe with
  | fifteenMinutes => exact h.candles15m
  | oneHour => exact h.candles1h
  | fourHours => exact h.candles4h

/-- A loader with a larger limit adds older candles. -/
theorem fetch_suffix_fetch (source : List ClosedCandle) (triggerMs : ℤ) {limit larger : ℕ}
    (h : limit ≤ larger) : fetch source limit triggerMs <:+ fetch source larger triggerMs :=
  rtake_suffix_rtake _ h

end TradingKernel.Detectors
