/-
**The frozen selector features.**

Every feature is computed in the decimal context of the selector (38 digits, rounded half to even,
with the traps of the default context). The operations of that context are a parameter,
`DecimalContext`; comparison and negation by `copy_negate` are exact. `rankDynamicSelectionFeatures`
orders a complete feature surface, descending by value and then ascending by instrument.
-/

import Mathlib.Data.List.Sort
import TradingKernel.Domain.Selection.Source
import TradingKernel.Lib.Guard

namespace TradingKernel.Selection

open Guard

/-- The operations of a decimal context, each with its rounding and its traps. -/
structure DecimalContext where
  add : ℚ → ℚ → Except String ℚ
  sub : ℚ → ℚ → Except String ℚ
  mul : ℚ → ℚ → Except String ℚ
  div : ℚ → ℚ → Except String ℚ
  abs : ℚ → Except String ℚ
  ln : ℚ → Except String ℚ
  sqrt : ℚ → Except String ℚ

variable (context : DecimalContext)

/-- `sum(values, Decimal(0))`. -/
def DecimalContext.sum (values : List ℚ) : Except String ℚ :=
  values.foldlM context.add 0

/-- `values[-k]` for a positive `k`. -/
def fromEnd (values : List ℚ) (k : ℕ) : Except String ℚ :=
  demand (values.reverse[k - 1]?) "list index out of range"

/-- Each value with the one before it. -/
def steps (values : List ℚ) : List (ℚ × ℚ) := values.zip values.tail

/-! ### Features -/

/-- `_positive_decimal_window`. -/
def positiveDecimalWindow (values : List ℚ) (expectedCount : ℕ) (label : String) :
    Except String (List ℚ) := do
  refuse (values.length ≠ expectedCount)
    (label ++ " requires exactly " ++ toString expectedCount ++ " values")
  refuse (∃ value ∈ values, value ≤ 0) (label ++ " requires finite positive values")
  pure values

/-- `absolute_directional_efficiency_24h`. -/
def absoluteDirectionalEfficiency24h (closes : List ℚ) : Except String ℚ := do
  let values ← positiveDecimalWindow closes 25 "CPM closes"
  let moves ← (steps values).mapM fun step => do
    let move ← context.sub step.2 step.1
    context.abs move
  let path ← context.sum moves
  refuse (path ≤ 0) "CPM path is zero"
  let first ← demand values.head? "list index out of range"
  let last ← fromEnd values 1
  let distance ← context.sub last first
  let magnitude ← context.abs distance
  context.div magnitude path

/-- `persistent_leadership_score_6h`. -/
def persistentLeadershipScore6h (ranks : List ℕ) : Except String ℚ := do
  refuse (ranks.length ≠ 6 ∨ ∃ rank ∈ ranks, rank < 1 ∨ 24 < rank)
    "MPG ranks require six values within 1..24"
  let scores ← ranks.mapM fun rank => context.div (25 - rank) 24
  let total ← context.sum scores
  context.div total 6

/-- `positive_impulse_recency_12h`. -/
def positiveImpulseRecency12h (returns : List ℚ) : Except String ℚ := do
  refuse (returns.length ≠ 12) "MI returns require twelve finite values"
  let positive := returns.map fun value => max value 0
  let total ← context.sum positive
  if total = 0 then pure 0
  else
    let weighted ← positive.zipIdx.mapM fun item => do
      let weight ← context.div item.2 11
      context.mul weight item.1
    let centre ← context.sum weighted
    context.div centre total

/-! ### Ranking -/

/-- One rank of a feature surface. -/
structure DynamicSelectionFeatureRank where
  exchangeInstrumentId : String
  featureValue : ℚ
  rank : ℕ

/-- The order of the ranking: descending by value, then ascending by instrument. -/
def RankedBefore (first second : String × ℚ) : Prop :=
  second.2 < first.2 ∨ (first.2 = second.2 ∧ first.1 ≤ second.1)

instance : DecidableRel RankedBefore := fun _ _ => inferInstanceAs (Decidable (_ ∨ _))

/-- `rank_dynamic_selection_features`. -/
def rankDynamicSelectionFeatures (values : List (String × ℚ)) :
    Except String (List DynamicSelectionFeatureRank) := do
  refuse (¬ (∀ id ∈ candidateIds, id ∈ values.map Prod.fst) ∨
      ¬ (∀ id ∈ values.map Prod.fst, id ∈ candidateIds))
    "feature ranking requires exact 24 Candidate24 members"
  let ordered := values.insertionSort RankedBefore
  pure (ordered.zipIdx 1 |>.map fun item => ⟨item.1.1, item.1.2, item.2⟩)

/-- A reading for each candidate, in their order. -/
def forCandidates (read : String → Except String ℚ) : Except String (List (String × ℚ)) :=
  candidateIds.mapM fun id => do
    let value ← read id
    pure (id, value)

/-- The reading of a candidate. -/
def valueOf {α : Type} (values : List (String × α)) (id : String) : Except String α :=
  demand ((values.find? fun item => item.1 = id).map Prod.snd) ("missing " ++ id)

/-! ### The four families -/

/-- The closes of the candidates. -/
abbrev Closes := String → Except String (List ℚ)

/-- CPM: absolute directional efficiency; a failure names its candidate. -/
def cpmValues (closes : Closes) : Except String (List (String × ℚ)) :=
  forCandidates fun id => do
    let values ← closes id
    (absoluteDirectionalEfficiency24h context values).mapError fun error => id ++ ":" ++ error

/-- The eight-hour return that ends `offset` hours before the cutoff, in percent. -/
def mpgReturn (closes : List ℚ) (offset : ℕ) : Except String ℚ := do
  let last ← fromEnd closes (1 + offset)
  let first ← fromEnd closes (9 + offset)
  let difference ← context.sub last first
  let ratio ← context.div difference first
  context.mul ratio 100

/-- The ranks of the candidates by their returns at one boundary. -/
def mpgRanks (closes : Closes) (offset : ℕ) : Except String (List (String × ℕ)) := do
  let returns ← forCandidates fun id => do
    let values ← closes id
    mpgReturn context values offset
  let ordered := returns.insertionSort RankedBefore
  pure (ordered.zipIdx 1 |>.map fun item => (item.1.1, item.2))

/-- MPG: the persistent leadership of a candidate over six boundaries. -/
def mpgValues (closes : Closes) : Except String (List (String × ℚ)) := do
  let histories ← [5, 4, 3, 2, 1, 0].mapM fun offset => mpgRanks context closes offset
  forCandidates fun id => do
    let ranks ← histories.mapM fun ranks => valueOf ranks id
    persistentLeadershipScore6h context ranks

/-- MI: positive impulse recency of the hourly returns. -/
def miValues (closes : Closes) : Except String (List (String × ℚ)) :=
  forCandidates fun id => do
    let values ← closes id
    let returns ← (steps values).mapM fun step => do
      let ratio ← context.div step.2 step.1
      context.sub ratio 1
    positiveImpulseRecency12h context returns

/-- The hourly log returns of a window. -/
def brf2Returns (values : List ℚ) : Except String (List ℚ) :=
  (steps values).mapM fun step => do
    let ratio ← context.div step.2 step.1
    context.ln ratio

/-- The sum of the squares of some values. -/
def sumOfSquares (values : List ℚ) : Except String ℚ := do
  let squares ← values.mapM fun value => context.mul value value
  context.sum squares

/-- The market return of each hour: the mean over the candidates. -/
def brf2Market (returns : List (String × List ℚ)) : Except String (List ℚ) :=
  (List.range 72).mapM fun index => do
    let row ← candidateIds.mapM fun id => do
      let values ← valueOf returns id
      demand values[index]? "tuple index out of range"
    let total ← context.sum row
    context.div total 24

/-- The residual extension of one candidate against the market. -/
def brf2Score (id : String) (candidateReturns market centeredMarket : List ℚ)
    (marketMean marketSumSquares : ℚ) : Except String ℚ := do
  let total ← context.sum candidateReturns
  let candidateMean ← context.div total 72
  let products ← (candidateReturns.zip centeredMarket).mapM fun item => do
    let centered ← context.sub item.1 candidateMean
    context.mul centered item.2
  let covariance ← context.sum products
  let beta ← context.div covariance marketSumSquares
  let explained ← context.mul beta marketMean
  let alpha ← context.sub candidateMean explained
  let residuals ← (candidateReturns.zip market).mapM fun item => do
    let shifted ← context.sub item.1 alpha
    let systematic ← context.mul beta item.2
    context.sub shifted systematic
  let recent := residuals.drop (residuals.length - 24)
  let residualSumSquares ← sumOfSquares context recent
  refuse (residualSumSquares ≤ 0) ("BRF2 residual variance is zero: " ++ id)
  let extension ← context.sum recent
  let scale ← context.sqrt residualSumSquares
  context.div extension scale

/-- BRF2: `rank_brf2_residual_extension_v0_decimal` up to the ranking. -/
def brf2Values (closes : Closes) : Except String (List (String × ℚ)) := do
  let windows ← candidateIds.mapM fun id => do
    let values ← closes id
    let window ← positiveDecimalWindow values 73 ("BRF2 closes for " ++ id)
    pure (id, window)
  let returns ← windows.mapM fun item => do
    let values ← brf2Returns context item.2
    pure (item.1, values)
  let market ← brf2Market context returns
  let marketTotal ← context.sum market
  let marketMean ← context.div marketTotal 72
  let centeredMarket ← market.mapM fun value => context.sub value marketMean
  let marketSumSquares ← sumOfSquares context centeredMarket
  refuse (marketSumSquares ≤ 0) "BRF2 market variance is zero"
  forCandidates fun id => do
    let candidateReturns ← valueOf returns id
    brf2Score context id candidateReturns market centeredMarket marketMean marketSumSquares

/-- The feature surface of a family. -/
def featureValues (family : SelectionFamily) (closes : Closes) :
    Except String (List (String × ℚ)) :=
  match family with
  | .brf2 => brf2Values context closes
  | .mpg => mpgValues context closes
  | .cpm => cpmValues context closes
  | .mi => miValues context closes

end TradingKernel.Selection
