/-
**The disposition of a filled entry: keep it, flatten it behind its stop, or flatten it at once.**
-/

import Mathlib.Algebra.Order.Ring.Rat
import Mathlib.Algebra.Order.Ring.Abs
import TradingKernel.Domain.Identities

namespace TradingKernel

inductive PostFillRiskStatus where
  | withinBudget
  | toleratedOverrun
  | hardOverrun
  | protectionDirectionInvalid
  deriving DecidableEq, Repr

def PostFillRiskStatus.value : PostFillRiskStatus → String
  | .withinBudget => "within_budget"
  | .toleratedOverrun => "tolerated_overrun"
  | .hardOverrun => "hard_overrun"
  | .protectionDirectionInvalid => "protection_direction_invalid"

inductive PostFillDisposition where
  | normal
  | flattenAfterProtection
  | flattenImmediately
  deriving DecidableEq, Repr

/-- The frozen Ticket limits and the exchange facts after a full entry fill, as validated. -/
structure PostFillRiskRequest where
  positionSide : PositionSide
  filledQuantity : ℚ
  averageFillPrice : ℚ
  initialStopPrice : ℚ
  plannedStopRiskBudget : ℚ
  postFillStopRiskLimit : ℚ
  positive : 0 < filledQuantity ∧ 0 < averageFillPrice ∧ 0 < initialStopPrice ∧
    0 < plannedStopRiskBudget ∧ 0 < postFillStopRiskLimit
  limitCoversBudget : plannedStopRiskBudget ≤ postFillStopRiskLimit

structure PostFillRiskDecision where
  status : PostFillRiskStatus
  disposition : PostFillDisposition
  actualStopRisk : ℚ
  deriving DecidableEq, Repr

/-- The initial stop is on the losing side of the fill. -/
def stopIsProtective (request : PostFillRiskRequest) : Prop :=
  match request.positionSide with
  | .long => request.initialStopPrice < request.averageFillPrice
  | .short => request.averageFillPrice < request.initialStopPrice

instance (request : PostFillRiskRequest) : Decidable (stopIsProtective request) := by
  delta stopIsProtective
  cases request.positionSide <;> exact inferInstance

/-- The exact filled exposure against the frozen limits. -/
def assessPostFillRisk (request : PostFillRiskRequest) : PostFillRiskDecision :=
  let stopDistance := |request.averageFillPrice - request.initialStopPrice|
  let actualStopRisk := request.filledQuantity * stopDistance
  if ¬ stopIsProtective request then
    ⟨.protectionDirectionInvalid, .flattenImmediately, actualStopRisk⟩
  else if request.postFillStopRiskLimit < actualStopRisk then
    ⟨.hardOverrun, .flattenAfterProtection, actualStopRisk⟩
  else if request.plannedStopRiskBudget < actualStopRisk then
    ⟨.toleratedOverrun, .normal, actualStopRisk⟩
  else
    ⟨.withinBudget, .normal, actualStopRisk⟩

end TradingKernel
