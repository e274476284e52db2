/-
**Position and open-order truth of one netting domain, as its validators admit it.**
-/

import Mathlib.Algebra.Order.Ring.Rat
import TradingKernel.Domain.Effects

namespace TradingKernel

open Text

/-- An open order at the venue. -/
structure VenueOrderSnapshot where
  exchangeOrderId : NonBlankText
  venueClientOrderId : Option String
  orderNamespace : OrderNamespace

/-- A snapshot of the position and the open orders. An open position has a positive entry price, and
a flat one has no price. -/
structure PositionSnapshot where
  nettingDomain : NettingDomain
  quantity : ℚ
  averageEntryPrice : Option ℚ
  venueReportedLiquidationPrice : Option ℚ
  openOrders : List VenueOrderSnapshot
  observedAtMs : ℤ
  quantityNonneg : 0 ≤ quantity
  observed : 0 < observedAtMs
  openPriced : 0 < quantity → ∃ price, averageEntryPrice = some price ∧ 0 < price
  flatUnpriced : quantity = 0 →
    averageEntryPrice = none ∧ venueReportedLiquidationPrice = none
  liquidationNonneg : ∀ price ∈ venueReportedLiquidationPrice, 0 ≤ price

namespace PositionSnapshot

/-- No liquidation price is reported. -/
theorem unliquidated : ∀ price ∈ (none : Option ℚ), 0 ≤ price := by simp

/-- No position and no open order. -/
def flat (nettingDomain : NettingDomain) (observedAtMs : ℤ) (observed : 0 < observedAtMs) :
    PositionSnapshot where
  nettingDomain := nettingDomain
  quantity := 0
  averageEntryPrice := none
  venueReportedLiquidationPrice := none
  openOrders := []
  observedAtMs := observedAtMs
  quantityNonneg := le_rfl
  observed := observed
  openPriced := fun positive => absurd positive (lt_irrefl 0)
  flatUnpriced := fun _ => ⟨rfl, rfl⟩
  liquidationNonneg := unliquidated

end PositionSnapshot

end TradingKernel
