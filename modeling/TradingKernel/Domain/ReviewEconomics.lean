/-
**`calculate_review_economics`: what a closed Ticket earned.**

The code averages the entry, values every exit fill against that average, and takes fees and funding
off. `review_economics_exact` says what this comes to: the cash that the exits returned less the cash
that the entries took, whatever the number, the order and the grouping of the fills, and the same with
entry and exit exchanged on the other side.
-/

import Mathlib.Algebra.Group.Prod
import Mathlib.Algebra.Order.Ring.Rat
import Mathlib.Algebra.BigOperators.Ring.List
import Mathlib.Tactic.NormNum
import Mathlib.Tactic.Ring
import TradingKernel.Domain.Identities
import TradingKernel.Lib.Guard
import TradingKernel.Lib.Regroup
import TradingKernel.Lib.Text

namespace TradingKernel

open Guard Text Regroup

/-! ### Facts and figures -/

/-- What the economics read of a fill; `feeQuote` is the USDT value of its fee. -/
structure ReviewFill where
  quantity : ℚ
  price : ℚ
  feeQuote : ℚ
  positive : 0 < quantity ∧ 0 < price
  feeNonneg : 0 ≤ feeQuote

/-- The fills of a Ticket, and its funding or the reason why there is none. -/
structure ReviewEconomicsFacts where
  entryFills : List ReviewFill
  exitFills : List ReviewFill
  fundingQuote : Option ℚ
  fundingUnavailableReason : Option String
  fundingShape : fundingQuote = none ↔ ∃ reason ∈ fundingUnavailableReason, ¬ Blank reason

inductive ReviewEconomicsCompleteness where
  | complete
  | fundingUnavailable
  | externalExitUnavailable
  deriving DecidableEq, Repr

structure ReviewEconomics where
  entryQuantity : ℚ
  entryAveragePrice : ℚ
  exitQuantity : ℚ
  exitAveragePrice : ℚ
  grossRealizedPnlQuote : ℚ
  tradingFeesQuote : ℚ
  netPnlBeforeFundingQuote : ℚ
  fundingQuote : Option ℚ
  netPnlQuote : Option ℚ
  plannedStopRisk : ℚ
  actualStopRisk : Option ℚ
  riskVariance : Option ℚ
  riskVarianceFraction : Option ℚ
  plannedRMultiple : Option ℚ
  actualRMultiple : Option ℚ
  economicsCompleteness : ReviewEconomicsCompleteness
  fundingUnavailableReason : Option String

inductive ReviewRefusal where
  | valueError (message : String)
  | reviewEconomicsUnavailable (message : String)
  deriving DecidableEq, Repr

/-- `_fill_totals`. -/
def fillTotals (fills : List ReviewFill) : Except ReviewRefusal (ℚ × ℚ) := do
  let quantity := (fills.map ReviewFill.quantity).sum
  refuse (quantity ≤ 0) (.reviewEconomicsUnavailable "fill quantity must be positive")
  let notional := (fills.map fun fill => fill.quantity * fill.price).sum
  return (quantity, notional / quantity)

/-- The sign of a profit. -/
def PositionSide.direction : PositionSide → ℚ
  | .long => 1
  | .short => -1

/-- `calculate_review_economics`. -/
def calculateReviewEconomics (facts : ReviewEconomicsFacts) (expectedEntryQuantity : ℚ)
    (positionSide : PositionSide) (plannedRiskAtStop : ℚ) (actualRiskAtStop : Option ℚ) :
    Except ReviewRefusal ReviewEconomics := do
  refuse (expectedEntryQuantity ≤ 0) (.valueError "expected Ticket quantity must be positive")
  refuse (plannedRiskAtStop ≤ 0)
    (.reviewEconomicsUnavailable "planned Ticket risk at stop must be positive")
  refuse (∃ risk ∈ actualRiskAtStop, risk ≤ 0)
    (.reviewEconomicsUnavailable "actual stop risk must be positive")
  refuse (facts.entryFills.isEmpty) (.reviewEconomicsUnavailable "entry fills are unavailable")
  refuse (facts.exitFills.isEmpty) (.reviewEconomicsUnavailable "exit fills are unavailable")
  let entry ← fillTotals facts.entryFills
  let exit ← fillTotals facts.exitFills
  refuse (entry.1 ≠ expectedEntryQuantity)
    (.reviewEconomicsUnavailable "entry fill quantity does not equal Ticket quantity")
  refuse (exit.1 ≠ expectedEntryQuantity)
    (.reviewEconomicsUnavailable "exit fill quantity does not equal Ticket quantity")
  let grossRealizedPnl := (facts.exitFills.map fun fill =>
    (fill.price - entry.2) * fill.quantity * positionSide.direction).sum
  let tradingFees := ((facts.entryFills ++ facts.exitFills).map ReviewFill.feeQuote).sum
  let netBeforeFunding := grossRealizedPnl - tradingFees
  let riskVariance := actualRiskAtStop.map fun risk => risk - plannedRiskAtStop
  let netPnl := facts.fundingQuote.map fun funding => netBeforeFunding + funding
  return {
    entryQuantity := entry.1
    entryAveragePrice := entry.2
    exitQuantity := exit.1
    exitAveragePrice := exit.2
    grossRealizedPnlQuote := grossRealizedPnl
    tradingFeesQuote := tradingFees
    netPnlBeforeFundingQuote := netBeforeFunding
    fundingQuote := facts.fundingQuote
    netPnlQuote := netPnl
    plannedStopRisk := plannedRiskAtStop
    actualStopRisk := actualRiskAtStop
    riskVariance := riskVariance
    riskVarianceFraction := riskVariance.map fun variance => variance / plannedRiskAtStop
    plannedRMultiple := netPnl.map fun net => net / plannedRiskAtStop
    actualRMultiple := netPnl.bind fun net => actualRiskAtStop.map fun risk => net / risk
    economicsCompleteness :=
      if facts.fundingQuote = none then .fundingUnavailable else .complete
    fundingUnavailableReason := facts.fundingUnavailableReason }

/-! ### Totals of fills -/

namespace ReviewFill

/-- Quantity and fee, which the parts of a fill share. -/
def weight (fill : ReviewFill) : ℚ × ℚ := (fill.quantity, fill.feeQuote)

/-- The same fills, in another order and grouping. -/
def SameFills (fills other : List ReviewFill) : Prop := Regrouped price weight fills other

end ReviewFill

open ReviewFill (weight SameFills)

/-- The cash of fills. -/
def cash (fills : List ReviewFill) : ℚ := (fills.map fun fill => fill.quantity * fill.price).sum

variable {fills other : List ReviewFill}

theorem quantity_of_same (same : SameFills fills other) :
    (other.map ReviewFill.quantity).sum = (fills.map ReviewFill.quantity).sum :=
  same.total_eq fun _ => AddMonoidHom.fst ℚ ℚ

theorem fee_of_same (same : SameFills fills other) :
    (other.map ReviewFill.feeQuote).sum = (fills.map ReviewFill.feeQuote).sum :=
  same.total_eq fun _ => AddMonoidHom.snd ℚ ℚ

theorem cash_of_same (same : SameFills fills other) : cash other = cash fills :=
  same.total_eq fun price => (AddMonoidHom.mulRight price).comp (AddMonoidHom.fst ℚ ℚ)

/-- The profit of exits against an average, by their cash. -/
theorem profit_eq (fills : List ReviewFill) (average direction : ℚ) :
    (fills.map fun fill => (fill.price - average) * fill.quantity * direction).sum =
      direction * (cash fills - average * (fills.map ReviewFill.quantity).sum) := by
  unfold cash
  induction fills with
  | nil => simp
  | cons fill fills ih =>
      simp only [List.map_cons, List.sum_cons]
      rw [ih]
      ring

theorem fillTotals_bind_eq_ok {next : ℚ × ℚ → Except ReviewRefusal ReviewEconomics}
    {economics : ReviewEconomics} : (fillTotals fills >>= next) = .ok economics ↔
      0 < (fills.map ReviewFill.quantity).sum ∧ next ((fills.map ReviewFill.quantity).sum,
        cash fills / (fills.map ReviewFill.quantity).sum) = .ok economics := by
  rw [bind_eq_ok]
  unfold fillTotals
  simp only [refuse_bind_eq_ok, pure_eq_ok, not_le]
  constructor
  · rintro ⟨totals, ⟨positive, rfl⟩, rest⟩
    exact ⟨positive, rest⟩
  · rintro ⟨positive, rest⟩
    exact ⟨_, ⟨positive, rfl⟩, rest⟩

/-! ### The figures by the totals -/

/-- What the figures depend on, besides the arguments. -/
structure ReviewTotals where
  entryCash : ℚ
  exitCash : ℚ
  fees : ℚ
  funding : Option ℚ
  fundingUnavailableReason : Option String

def ReviewEconomicsFacts.totals (facts : ReviewEconomicsFacts) : ReviewTotals where
  entryCash := cash facts.entryFills
  exitCash := cash facts.exitFills
  fees := (facts.entryFills.map ReviewFill.feeQuote).sum +
    (facts.exitFills.map ReviewFill.feeQuote).sum
  funding := facts.fundingQuote
  fundingUnavailableReason := facts.fundingUnavailableReason

def ReviewTotals.gross (totals : ReviewTotals) (positionSide : PositionSide) : ℚ :=
  positionSide.direction * (totals.exitCash - totals.entryCash)

def ReviewTotals.net (totals : ReviewTotals) (positionSide : PositionSide) : Option ℚ :=
  totals.funding.map fun funding => totals.gross positionSide - totals.fees + funding

/-- The figures of a position of the given quantity. -/
def ReviewTotals.economics (totals : ReviewTotals) (quantity : ℚ) (positionSide : PositionSide)
    (planned : ℚ) (actual : Option ℚ) : ReviewEconomics where
  entryQuantity := quantity
  entryAveragePrice := totals.entryCash / quantity
  exitQuantity := quantity
  exitAveragePrice := totals.exitCash / quantity
  grossRealizedPnlQuote := totals.gross positionSide
  tradingFeesQuote := totals.fees
  netPnlBeforeFundingQuote := totals.gross positionSide - totals.fees
  fundingQuote := totals.funding
  netPnlQuote := totals.net positionSide
  plannedStopRisk := planned
  actualStopRisk := actual
  riskVariance := actual.map fun risk => risk - planned
  riskVarianceFraction := (actual.map fun risk => risk - planned).map fun variance =>
    variance / planned
  plannedRMultiple := (totals.net positionSide).map fun net => net / planned
  actualRMultiple := (totals.net positionSide).bind fun net => actual.map fun risk => net / risk
  economicsCompleteness := if totals.funding = none then .fundingUnavailable else .complete
  fundingUnavailableReason := totals.fundingUnavailableReason

/-- The fills on both sides make up the quantity, and the risks are positive. -/
structure ReviewBasis (facts : ReviewEconomicsFacts) (quantity planned : ℚ) (actual : Option ℚ) :
    Prop where
  quantity_pos : 0 < quantity
  planned_pos : 0 < planned
  actual_pos : ∀ risk ∈ actual, 0 < risk
  entered : (facts.entryFills.map ReviewFill.quantity).sum = quantity
  exited : (facts.exitFills.map ReviewFill.quantity).sum = quantity

theorem isEmpty_eq_false_of_sum (positive : 0 < (fills.map ReviewFill.quantity).sum) :
    ¬ fills.isEmpty = true := by
  intro empty
  rw [List.isEmpty_iff] at empty
  rw [empty] at positive
  exact lt_irrefl 0 positive

/-- **What the calculation is**: the checks, and the figures of the totals. -/
theorem calculateReviewEconomics_eq_ok {facts : ReviewEconomicsFacts} {quantity : ℚ}
    {side : PositionSide} {planned : ℚ} {actual : Option ℚ} {economics : ReviewEconomics} :
    calculateReviewEconomics facts quantity side planned actual = .ok economics ↔
      ReviewBasis facts quantity planned actual ∧
        economics = facts.totals.economics quantity side planned actual := by
  have same (positive : 0 < quantity)
      (entered : (facts.entryFills.map ReviewFill.quantity).sum = quantity)
      (exited : (facts.exitFills.map ReviewFill.quantity).sum = quantity) :
      (facts.exitFills.map fun fill => (fill.price - cash facts.entryFills /
        (facts.entryFills.map ReviewFill.quantity).sum) * fill.quantity * side.direction).sum =
      facts.totals.gross side := by
    rw [profit_eq, entered, exited, div_mul_cancel₀ _ positive.ne']
    rfl
  have fees : ((facts.entryFills ++ facts.exitFills).map ReviewFill.feeQuote).sum =
      facts.totals.fees := by
    rw [List.map_append, List.sum_append]
    rfl
  unfold calculateReviewEconomics
  simp only [refuse_bind_eq_ok, fillTotals_bind_eq_ok, pure_eq_ok]
  constructor
  · rintro ⟨quantityPos, plannedPos, actualPos, -, -, -, -, entered, exited, rfl⟩
    rw [not_ne_iff] at entered exited
    rw [not_le] at quantityPos plannedPos
    refine ⟨⟨quantityPos, plannedPos, fun risk member => ?_, entered, exited⟩, ?_⟩
    · by_contra negative
      exact actualPos ⟨risk, member, not_lt.mp negative⟩
    · rw [same quantityPos entered exited, fees, entered, exited]
      rfl
  · rintro ⟨⟨quantityPos, plannedPos, actualPos, entered, exited⟩, rfl⟩
    have entryPos := quantityPos.trans_eq entered.symm
    have exitPos := quantityPos.trans_eq exited.symm
    refine ⟨not_le.mpr quantityPos, not_le.mpr plannedPos, ?_, isEmpty_eq_false_of_sum entryPos,
      isEmpty_eq_false_of_sum exitPos, entryPos, exitPos,
      not_ne_iff.mpr entered, not_ne_iff.mpr exited, ?_⟩
    · rintro ⟨risk, member, negative⟩
      exact absurd (actualPos risk member) (not_lt.mpr negative)
    · rw [same quantityPos entered exited, fees, entered, exited]
      rfl

/-! ### The economics -/

/-- The other side of a position. -/
def PositionSide.opposite : PositionSide → PositionSide
  | .long => .short
  | .short => .long

namespace ReviewEconomicsFacts

variable (facts : ReviewEconomicsFacts)

/-- The facts with other fills. -/
def withFills (entry exit : List ReviewFill) : ReviewEconomicsFacts :=
  { facts with entryFills := entry, exitFills := exit }

theorem totals_of_same {entry exit : List ReviewFill} (entries : SameFills facts.entryFills entry)
    (exits : SameFills facts.exitFills exit) : (facts.withFills entry exit).totals = facts.totals := by
  unfold totals withFills
  dsimp only
  rw [cash_of_same entries, cash_of_same exits, fee_of_same entries, fee_of_same exits]

/-- Entry and exit exchanged. -/
def swapped : ReviewEconomicsFacts := facts.withFills facts.exitFills facts.entryFills

theorem gross_swapped (side : PositionSide) :
    facts.swapped.totals.gross side.opposite = facts.totals.gross side := by
  unfold ReviewTotals.gross
  show side.opposite.direction * (cash facts.entryFills - cash facts.exitFills) =
    side.direction * (cash facts.exitFills - cash facts.entryFills)
  cases side with
  | long => simp only [PositionSide.opposite, PositionSide.direction]; ring
  | short => simp only [PositionSide.opposite, PositionSide.direction]; ring

theorem net_swapped (side : PositionSide) :
    facts.swapped.totals.net side.opposite = facts.totals.net side := by
  unfold ReviewTotals.net
  rw [gross_swapped]
  have fees : facts.swapped.totals.fees = facts.totals.fees := add_comm _ _
  rw [fees]
  rfl

end ReviewEconomicsFacts

/-- **The economics are the cash flow.** The gross result is what the exits returned less what the
entries took, and the net result takes the fees off and adds the funding. The same fills in any order
and grouping give the same figures, and exchanging entry, exit and side gives the same results. -/
theorem review_economics_exact {facts : ReviewEconomicsFacts} {quantity : ℚ} {side : PositionSide}
    {planned : ℚ} {actual : Option ℚ} {economics : ReviewEconomics}
    (returned : calculateReviewEconomics facts quantity side planned actual = .ok economics) :
    economics.grossRealizedPnlQuote = side.direction *
        ((facts.exitFills.map fun fill => fill.quantity * fill.price).sum -
          (facts.entryFills.map fun fill => fill.quantity * fill.price).sum) ∧
    economics.netPnlQuote = facts.fundingQuote.map (fun funding =>
        economics.grossRealizedPnlQuote -
          ((facts.entryFills ++ facts.exitFills).map ReviewFill.feeQuote).sum + funding) ∧
    (∀ entry exit, SameFills facts.entryFills entry → SameFills facts.exitFills exit →
      calculateReviewEconomics (facts.withFills entry exit) quantity side planned actual =
        .ok economics) ∧
    ∃ other, calculateReviewEconomics facts.swapped quantity side.opposite planned actual =
        .ok other ∧ other.grossRealizedPnlQuote = economics.grossRealizedPnlQuote ∧
      other.netPnlQuote = economics.netPnlQuote := by
  obtain ⟨basis, rfl⟩ := calculateReviewEconomics_eq_ok.mp returned
  refine ⟨rfl, ?_, fun entry exit entries exits => ?_, ?_⟩
  · rw [List.map_append, List.sum_append]
    rfl
  · rw [calculateReviewEconomics_eq_ok, facts.totals_of_same entries exits]
    exact ⟨{ basis with
      entered := (quantity_of_same entries).trans basis.entered
      exited := (quantity_of_same exits).trans basis.exited }, rfl⟩
  · refine ⟨_, calculateReviewEconomics_eq_ok.mpr ⟨{ basis with
      entered := basis.exited
      exited := basis.entered }, rfl⟩, ?_, ?_⟩
    · exact facts.gross_swapped side
    · exact facts.net_swapped side

/-- Two units bought at 100 and sold one by one, at 110 and at 95. -/
def sampleReview : ReviewEconomicsFacts where
  entryFills := [⟨2, 100, 1 / 10, by norm_num, by norm_num⟩]
  exitFills := [⟨1, 110, 1 / 20, by norm_num, by norm_num⟩, ⟨1, 95, 1 / 20, by norm_num, by norm_num⟩]
  fundingQuote := some (-1 / 2)
  fundingUnavailableReason := none
  fundingShape := by simp

theorem review_economics_exact_of_sample : ∃ economics,
    calculateReviewEconomics sampleReview 2 .long 20 none = .ok economics ∧
      economics.grossRealizedPnlQuote = 5 ∧ economics.netPnlQuote = some (43 / 10) := by
  have basis : ReviewBasis sampleReview 2 20 none := by
    refine ⟨by norm_num, by norm_num, nofun, ?_, ?_⟩ <;> norm_num [sampleReview]
  have returned := calculateReviewEconomics_eq_ok.mpr
    ⟨basis, (rfl : sampleReview.totals.economics 2 .long 20 none = _)⟩
  obtain ⟨gross, net, -⟩ := review_economics_exact returned
  refine ⟨_, returned, ?_, ?_⟩
  · rw [gross]
    norm_num [sampleReview, PositionSide.direction]
  · rw [net, gross]
    norm_num [sampleReview, PositionSide.direction]

end TradingKernel
