/-
**The positions of the netting domains, as the database holds them.**

`positions_current` has one row a netting domain. An upsert overwrites it with the snapshot it is
given; nothing in the statement looks at the time the stored row was observed.
-/

import Mathlib.Logic.Function.Basic
import TradingKernel.Domain.Position

namespace TradingKernel

/-- A row of `positions_current`. -/
structure PositionRow where
  ticketId : Option String
  nettingDomain : NettingDomain
  quantity : ℚ
  averageEntryPrice : Option ℚ
  venueReportedLiquidationPrice : Option ℚ
  observedAtMs : ℤ
  projectionVersion : ℕ

/-- The rows by the key of their netting domain. -/
abbrev PositionTable := String → Option PositionRow

namespace PositionTable

variable (table : PositionTable)

/-- The row that an upsert writes. -/
def upserted (ticketId : String) (snapshot : PositionSnapshot) : PositionRow where
  ticketId := if 0 < snapshot.quantity then some ticketId else none
  nettingDomain := snapshot.nettingDomain
  quantity := snapshot.quantity
  averageEntryPrice := snapshot.averageEntryPrice
  venueReportedLiquidationPrice := snapshot.venueReportedLiquidationPrice
  observedAtMs := snapshot.observedAtMs
  projectionVersion :=
    match table snapshot.nettingDomain.key with
    | none => 1
    | some row => row.projectionVersion + 1

/-- `PostgresPositionRepository.upsert`. -/
def upsert (ticketId : String) (snapshot : PositionSnapshot) : PositionTable :=
  Function.update table snapshot.nettingDomain.key (some (table.upserted ticketId snapshot))

/-- The time of the stored position of a netting domain. -/
def observedAtMs (domain : NettingDomain) : Option ℤ := (table domain.key).map (·.observedAtMs)

/-- An upsert stores the time of its snapshot, whatever was stored before. -/
theorem observedAtMs_upsert {ticketId : String} {snapshot : PositionSnapshot} :
    (table.upsert ticketId snapshot).observedAtMs snapshot.nettingDomain =
      some snapshot.observedAtMs := by
  unfold observedAtMs upsert
  rw [Function.update_self]
  rfl

end PositionTable

end TradingKernel
