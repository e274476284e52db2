/-
**`select_capacity_candidate`: the quantity of one Ticket.**

The quantity is the largest multiple of the quantity step within the stop-risk and margin budgets; it
is then judged by the venue minimums, on the whole and on each of the two exit legs, and by the
minimum stop risk of a Ticket. Every one of these minimums that a quantity reaches is reached by a
larger one (`reaches_mono`), so the one candidate decides for all: what is selected is executable and
as large as the budgets allow, and a refusal leaves no executable quantity
(`sizing_sound_and_maximal`).
-/

import TradingKernel.Lib.Grid

namespace TradingKernel

/-! ### Requests and decisions -/

inductive CapacitySizingStatus where
  | selected
  | countExhausted
  | stopRiskExhausted
  | directionalRiskExhausted
  | marginExhausted
  | venueMinimumUnmet
  | exitPlanUnexecutable
  | minimumMaterializationUnmet
  | invalidFacts
  deriving DecidableEq, Repr

/-- `FIXED_EXCHANGE_CONFIGURED_LEVERAGE`. -/
def fixedExchangeConfiguredLeverage : ℤ := 5

/-- A fraction in (0, 1]. -/
def IsFraction (value : ℚ) : Prop := 0 < value ∧ value ≤ 1

instance (value : ℚ) : Decidable (IsFraction value) := inferInstanceAs (Decidable (_ ∧ _))

/-- The facts of the sizing decision, as their validators admit them. -/
structure CapacitySizingRequest where
  totalWalletBalance : ℚ
  totalMarginBalance : ℚ
  totalInitialMargin : ℚ
  currentReservedMargin : ℚ
  grossRiskAtStop : ℚ
  directionalRiskAtStop : ℚ
  availableMargin : ℚ
  activeTicketCount : ℤ
  maxConcurrentTickets : ℤ
  maxTicketStopRiskFraction : ℚ
  maxGrossStopRiskFraction : ℚ
  maxTicketInitialMarginFraction : ℚ
  maxGrossInitialMarginUtilization : ℚ
  directionalStopRiskLimitFraction : ℚ
  minMaterializationRatio : ℚ
  permittedMaxLeverage : ℤ
  configuredLeverage : ℤ
  entryReferencePrice : ℚ
  initialStopPrice : ℚ
  takeProfitPrice : ℚ
  quantityStep : ℚ
  minQuantity : ℚ
  minNotional : ℚ
  tp1QuantityFraction : ℚ
  nonnegative : 0 ≤ totalWalletBalance ∧ 0 ≤ totalMarginBalance ∧ 0 ≤ totalInitialMargin ∧
    0 ≤ currentReservedMargin ∧ 0 ≤ grossRiskAtStop ∧ 0 ≤ directionalRiskAtStop ∧
    0 ≤ availableMargin
  positive : 0 < entryReferencePrice ∧ 0 < initialStopPrice ∧ 0 < takeProfitPrice ∧
    0 < quantityStep ∧ 0 < minQuantity ∧ 0 < minNotional
  fractions : IsFraction maxTicketStopRiskFraction ∧ IsFraction maxGrossStopRiskFraction ∧
    IsFraction maxTicketInitialMarginFraction ∧ IsFraction maxGrossInitialMarginUtilization ∧
    IsFraction directionalStopRiskLimitFraction ∧ IsFraction minMaterializationRatio
  tp1Fraction : 0 < tp1QuantityFraction ∧ tp1QuantityFraction < 1
  counts : 0 ≤ activeTicketCount ∧ 0 < maxConcurrentTickets ∧ 0 < permittedMaxLeverage ∧
    0 < configuredLeverage
  stopDiffers : initialStopPrice ≠ entryReferencePrice

structure CapacitySizingSelection where
  remainingSlots : ℤ
  ticketStopRiskBudget : ℚ
  remainingGrossStopRisk : ℚ
  remainingDirectionalStopRisk : ℚ
  minimumStopRiskBudget : ℚ
  materializationRatio : ℚ
  remainingGrossMargin : ℚ
  remainingExecutableMargin : ℚ
  ticketMarginBudget : ℚ
  riskQuantity : ℚ
  requiredLeverage : ℤ
  selectedLeverage : ℤ
  configuredLeverage : ℤ
  leverageChangeRequired : Bool
  quantity : ℚ
  notional : ℚ
  reservedMargin : ℚ
  plannedStopRisk : ℚ
  tp1Quantity : ℚ
  runnerQuantity : ℚ

structure CapacitySizingDecision where
  status : CapacitySizingStatus
  selected : Option CapacitySizingSelection
  shape : status = .selected ↔ selected ≠ none

/-- `_floor_to_step`. -/
def floorToStep (value step : ℚ) : ℚ :=
  if value ≤ 0 then 0 else floorTo step value

/-- A quantity fits under a floor if and only if it fits under the floored value. -/
theorem le_floorToStep_iff {value step quantity : ℚ} (positive : 0 < step)
    (grid : OnGrid step quantity) (some_ : 0 < quantity) :
    quantity ≤ floorToStep value step ↔ quantity ≤ value := by
  unfold floorToStep
  split_ifs with empty
  · exact ⟨fun below => absurd below (not_le.mpr some_),
      fun below => absurd (below.trans empty) (not_le.mpr some_)⟩
  · exact le_floorTo_iff positive grid

theorem onGrid_floorToStep {value step : ℚ} : OnGrid step (floorToStep value step) := by
  unfold floorToStep
  split_ifs
  · exact .zero
  · exact onGrid_floorTo

theorem floorToStep_of_pos {value step : ℚ} (positive : 0 < value) :
    floorToStep value step = floorTo step value :=
  if_neg (not_le.mpr positive)

namespace CapacitySizingRequest

variable (request : CapacitySizingRequest)

/-! ### The budgets -/

def remainingGrossStopRisk : ℚ :=
  max (request.totalWalletBalance * request.maxGrossStopRiskFraction - request.grossRiskAtStop) 0

def remainingDirectionalStopRisk : ℚ :=
  max (request.totalWalletBalance * request.directionalStopRiskLimitFraction -
    request.directionalRiskAtStop) 0

/-- The stop risk that one Ticket may take at most. -/
def maxTicketStopRisk : ℚ := request.totalWalletBalance * request.maxTicketStopRiskFraction

def ticketStopRiskBudget : ℚ :=
  min (min request.maxTicketStopRisk request.remainingGrossStopRisk)
    request.remainingDirectionalStopRisk

def minimumStopRiskBudget : ℚ := request.maxTicketStopRisk * request.minMaterializationRatio

def remainingGrossMargin : ℚ :=
  max (request.totalMarginBalance * request.maxGrossInitialMarginUtilization -
    max request.totalInitialMargin request.currentReservedMargin) 0

def remainingExecutableMargin : ℚ := min request.availableMargin request.remainingGrossMargin

def ticketMarginBudget : ℚ :=
  min (request.totalMarginBalance * request.maxTicketInitialMarginFraction)
    request.remainingExecutableMargin

def riskPerUnit : ℚ := |request.entryReferencePrice - request.initialStopPrice|

def riskQuantity : ℚ :=
  floorToStep (request.ticketStopRiskBudget / request.riskPerUnit) request.quantityStep

/-! ### The candidate -/

/-- `_evaluate_candidate`: a selection, or the minimum that is not met. -/
def evaluateCandidate (leverage : ℤ) : Except CapacitySizingStatus CapacitySizingSelection :=
  let marginQuantity := floorToStep
    (request.ticketMarginBudget * leverage / request.entryReferencePrice) request.quantityStep
  let quantity := min request.riskQuantity marginQuantity
  let notional := quantity * request.entryReferencePrice
  let plannedStopRisk := quantity * request.riskPerUnit
  if quantity < request.minQuantity ∨ notional < request.minNotional ∨ plannedStopRisk ≤ 0 then
    .error .venueMinimumUnmet
  else
    let tp1Quantity := floorToStep (quantity * request.tp1QuantityFraction) request.quantityStep
    let runnerQuantity := quantity - tp1Quantity
    if tp1Quantity ≤ 0 ∨ runnerQuantity < request.minQuantity then .error .exitPlanUnexecutable
    else if tp1Quantity < request.minQuantity ∨
        tp1Quantity * request.takeProfitPrice < request.minNotional ∨
        runnerQuantity * request.initialStopPrice < request.minNotional then
      .error .exitPlanUnexecutable
    else .ok {
      remainingSlots := request.maxConcurrentTickets - request.activeTicketCount
      ticketStopRiskBudget := request.ticketStopRiskBudget
      remainingGrossStopRisk := request.remainingGrossStopRisk
      remainingDirectionalStopRisk := request.remainingDirectionalStopRisk
      minimumStopRiskBudget := request.minimumStopRiskBudget
      materializationRatio := plannedStopRisk / request.maxTicketStopRisk
      remainingGrossMargin := request.remainingGrossMargin
      remainingExecutableMargin := request.remainingExecutableMargin
      ticketMarginBudget := request.ticketMarginBudget
      riskQuantity := request.riskQuantity
      requiredLeverage :=
        (request.riskQuantity * request.entryReferencePrice / request.ticketMarginBudget).ceil
      selectedLeverage := leverage
      configuredLeverage := request.configuredLeverage
      leverageChangeRequired := false
      quantity := quantity
      notional := notional
      reservedMargin := notional / leverage
      plannedStopRisk := plannedStopRisk
      tp1Quantity := tp1Quantity
      runnerQuantity := runnerQuantity }

end CapacitySizingRequest

def CapacitySizingDecision.refused (status : CapacitySizingStatus)
    (other : status ≠ .selected := by decide) : CapacitySizingDecision :=
  ⟨status, none, by simp [other]⟩

/-- `select_capacity_candidate`. One leverage is offered, so its candidate is the best of all. -/
def selectCapacityCandidate (request : CapacitySizingRequest) : CapacitySizingDecision :=
  if request.maxConcurrentTickets ≤ request.activeTicketCount then .refused .countExhausted
  else if request.configuredLeverage ≠ fixedExchangeConfiguredLeverage ∨
      request.permittedMaxLeverage < fixedExchangeConfiguredLeverage then .refused .invalidFacts
  else if request.ticketStopRiskBudget ≤ 0 then
    if request.remainingDirectionalStopRisk ≤ 0 then .refused .directionalRiskExhausted
    else .refused .stopRiskExhausted
  else if request.ticketMarginBudget ≤ 0 then .refused .marginExhausted
  else if request.riskQuantity ≤ 0 then .refused .venueMinimumUnmet
  else
    match request.evaluateCandidate fixedExchangeConfiguredLeverage with
    | .error .exitPlanUnexecutable => .refused .exitPlanUnexecutable
    | .error .venueMinimumUnmet => .refused .venueMinimumUnmet
    | .error _ => .refused .invalidFacts
    | .ok selection =>
        if selection.plannedStopRisk < request.minimumStopRiskBudget then
          .refused .minimumMaterializationUnmet
        else ⟨.selected, some selection, by simp⟩

/-! ### What a quantity has to satisfy -/

namespace CapacitySizingRequest

variable (request : CapacitySizingRequest)

/-- The share of TP1 in a quantity. -/
def tp1Share (quantity : ℚ) : ℚ :=
  floorTo request.quantityStep (quantity * request.tp1QuantityFraction)

/-- The quantity stays within the stop-risk budgets and, at the fixed leverage, within the margin
budget. -/
structure WithinBudgets (quantity : ℚ) : Prop where
  ticketRisk : quantity * request.riskPerUnit ≤ request.maxTicketStopRisk
  grossRisk : quantity * request.riskPerUnit ≤ request.remainingGrossStopRisk
  directionalRisk : quantity * request.riskPerUnit ≤ request.remainingDirectionalStopRisk
  margin : quantity * request.entryReferencePrice / fixedExchangeConfiguredLeverage ≤
    request.ticketMarginBudget

/-- A quantity at a price is an order the venue takes. -/
def MeetsVenueMinimums (quantity price : ℚ) : Prop :=
  request.minQuantity ≤ quantity ∧ request.minNotional ≤ quantity * price

/-- The quantity and its two exit legs are orders the venue takes, and its stop risk is worth a
Ticket. -/
structure ReachesMinimums (quantity : ℚ) : Prop where
  entry : request.MeetsVenueMinimums quantity request.entryReferencePrice
  tp1 : request.MeetsVenueMinimums (request.tp1Share quantity) request.takeProfitPrice
  runner : request.MeetsVenueMinimums (quantity - request.tp1Share quantity)
    request.initialStopPrice
  materialization : request.minimumStopRiskBudget ≤ quantity * request.riskPerUnit

/-- A positive multiple of the step within all budgets that reaches all minimums. -/
structure Executable (quantity : ℚ) : Prop where
  positive : 0 < quantity
  grid : OnGrid request.quantityStep quantity
  budgets : request.WithinBudgets quantity
  minimums : request.ReachesMinimums quantity

variable {request} {quantity smaller larger : ℚ}

theorem riskPerUnit_pos : 0 < request.riskPerUnit :=
  abs_pos.mpr (sub_ne_zero.mpr request.stopDiffers.symm)

theorem quantityStep_pos : 0 < request.quantityStep := request.positive.2.2.2.1

theorem entryReferencePrice_pos : 0 < request.entryReferencePrice := request.positive.1

/-- The margin of a quantity, as a bound on the quantity. -/
theorem margin_iff {margin : ℚ} :
    quantity * request.entryReferencePrice / fixedExchangeConfiguredLeverage ≤ margin ↔
      quantity ≤ margin * fixedExchangeConfiguredLeverage / request.entryReferencePrice := by
  have leverage : (0 : ℚ) < fixedExchangeConfiguredLeverage := by
    norm_num [fixedExchangeConfiguredLeverage]
  rw [div_le_iff₀ leverage, le_div_iff₀ entryReferencePrice_pos]

/-- The largest quantity that the budgets leave. -/
def maxQuantity (request : CapacitySizingRequest) : ℚ :=
  min request.riskQuantity (floorToStep
    (request.ticketMarginBudget * fixedExchangeConfiguredLeverage / request.entryReferencePrice)
    request.quantityStep)

theorem onGrid_maxQuantity : OnGrid request.quantityStep request.maxQuantity :=
  onGrid_floorToStep.min onGrid_floorToStep

/-- **The budgets are a bound on the quantity**: what lies within them is what does not exceed the
largest quantity. -/
theorem withinBudgets_iff (positive : 0 < quantity) (grid : OnGrid request.quantityStep quantity) :
    request.WithinBudgets quantity ↔ quantity ≤ request.maxQuantity := by
  rw [maxQuantity, le_min_iff, riskQuantity, le_floorToStep_iff quantityStep_pos grid positive,
    le_floorToStep_iff quantityStep_pos grid positive, le_div_iff₀ riskPerUnit_pos, ← margin_iff,
    ticketStopRiskBudget, le_min_iff, le_min_iff]
  exact ⟨fun within => ⟨⟨⟨within.ticketRisk, within.grossRisk⟩, within.directionalRisk⟩,
      within.margin⟩,
    fun ⟨⟨⟨ticket, gross⟩, directional⟩, margin⟩ => ⟨ticket, gross, directional, margin⟩⟩

theorem meetsVenueMinimums_mono {price : ℚ} (positive : 0 < price) (grows : smaller ≤ larger)
    (meets : request.MeetsVenueMinimums smaller price) : request.MeetsVenueMinimums larger price :=
  ⟨meets.1.trans grows, meets.2.trans (mul_le_mul_of_nonneg_right grows positive.le)⟩

/-- **A larger multiple of the step reaches every minimum that a smaller one reaches.** -/
theorem reaches_mono (small : OnGrid request.quantityStep smaller)
    (large : OnGrid request.quantityStep larger) (grows : smaller ≤ larger)
    (reaches : request.ReachesMinimums smaller) : request.ReachesMinimums larger := by
  obtain ⟨entryPrice, stopPrice, takeProfitPrice, step, -⟩ := request.positive
  have share : smaller * request.tp1QuantityFraction ≤ larger * request.tp1QuantityFraction :=
    mul_le_mul_of_nonneg_right grows request.tp1Fraction.1.le
  refine ⟨meetsVenueMinimums_mono entryPrice grows reaches.entry,
    meetsVenueMinimums_mono takeProfitPrice (floorTo_mono step share) reaches.tp1,
    meetsVenueMinimums_mono stopPrice ?_ reaches.runner,
    reaches.materialization.trans (mul_le_mul_of_nonneg_right grows riskPerUnit_pos.le)⟩
  exact rest_mono step small large grows request.tp1Fraction.2.le

/-- The largest quantity is executable where any quantity is. -/
theorem executable_maxQuantity (executable : request.Executable quantity) :
    request.Executable request.maxQuantity := by
  have grows := (withinBudgets_iff executable.positive executable.grid).mp executable.budgets
  have positive := executable.positive.trans_le grows
  exact ⟨positive, onGrid_maxQuantity,
    (withinBudgets_iff positive onGrid_maxQuantity).mpr le_rfl,
    reaches_mono executable.grid onGrid_maxQuantity grows executable.minimums⟩

/-! ### The candidate and the decision -/

/-- **What the one candidate is**: the largest quantity, with the two legs that reach the venue
minimums. -/
theorem evaluateCandidate_eq_ok {selection : CapacitySizingSelection}
    (evaluated : request.evaluateCandidate fixedExchangeConfiguredLeverage = .ok selection) :
    selection.quantity = request.maxQuantity ∧ 0 < selection.quantity ∧
      selection.plannedStopRisk = selection.quantity * request.riskPerUnit ∧
      selection.tp1Quantity = request.tp1Share selection.quantity ∧
      selection.runnerQuantity = selection.quantity - selection.tp1Quantity ∧
      request.MeetsVenueMinimums selection.quantity request.entryReferencePrice ∧
      request.MeetsVenueMinimums selection.tp1Quantity request.takeProfitPrice ∧
      request.MeetsVenueMinimums selection.runnerQuantity request.initialStopPrice := by
  unfold evaluateCandidate at evaluated
  dsimp only at evaluated
  split_ifs at evaluated with minimums legs venue
  obtain rfl := Except.ok.inj evaluated
  simp only [not_or, not_lt, not_le] at minimums legs venue
  obtain ⟨quantity, notional, risk⟩ := minimums
  have positive : 0 < request.maxQuantity := (mul_pos_iff_of_pos_right riskPerUnit_pos).mp risk
  refine ⟨rfl, positive, rfl, ?_, rfl, ⟨quantity, notional⟩, ⟨venue.1, venue.2.1⟩, legs.2, venue.2.2⟩
  exact floorToStep_of_pos (mul_pos positive request.tp1Fraction.1)

/-- An executable largest quantity is a candidate. -/
theorem exists_candidate (executable : request.Executable request.maxQuantity) :
    ∃ selection, request.evaluateCandidate fixedExchangeConfiguredLeverage = .ok selection := by
  obtain ⟨positive, -, -, entry, tp1, runner, -⟩ := executable
  have share : floorToStep (request.maxQuantity * request.tp1QuantityFraction)
      request.quantityStep = request.tp1Share request.maxQuantity :=
    floorToStep_of_pos (mul_pos positive request.tp1Fraction.1)
  have minQuantity : 0 < request.minQuantity := request.positive.2.2.2.2.1
  unfold evaluateCandidate
  dsimp only
  rw [if_neg, if_neg, if_neg]
  · exact ⟨_, rfl⟩
  · show ¬ (floorToStep (request.maxQuantity * _) _ < _ ∨ floorToStep (request.maxQuantity * _) _ * _ < _
      ∨ (request.maxQuantity - floorToStep (request.maxQuantity * _) _) * _ < _)
    rw [share]
    simp only [not_or, not_lt]
    exact ⟨tp1.1, tp1.2, runner.2⟩
  · show ¬ (floorToStep (request.maxQuantity * _) _ ≤ _ ∨
      request.maxQuantity - floorToStep (request.maxQuantity * _) _ < _)
    rw [share]
    simp only [not_or, not_lt, not_le]
    exact ⟨minQuantity.trans_le tp1.1, runner.1⟩
  · show ¬ (request.maxQuantity < _ ∨ request.maxQuantity * _ < _ ∨ request.maxQuantity * _ ≤ 0)
    simp only [not_or, not_lt, not_le]
    exact ⟨entry.1, entry.2, mul_pos positive riskPerUnit_pos⟩

/-- **What a selection is**: the one candidate, worth a Ticket. -/
theorem selected_eq_some {selection : CapacitySizingSelection}
    (selected : (selectCapacityCandidate request).selected = some selection) :
    request.evaluateCandidate fixedExchangeConfiguredLeverage = .ok selection ∧
      request.minimumStopRiskBudget ≤ selection.plannedStopRisk := by
  have refuses {status : CapacitySizingStatus} {other : status ≠ .selected} :
      (CapacitySizingDecision.refused status other).selected ≠ some selection := nofun
  unfold selectCapacityCandidate at selected
  split_ifs at selected
  · exact absurd selected refuses
  · exact absurd selected refuses
  · exact absurd selected refuses
  · exact absurd selected refuses
  · exact absurd selected refuses
  · exact absurd selected refuses
  · split at selected
    · exact absurd selected refuses
    · exact absurd selected refuses
    · exact absurd selected refuses
    · rename_i candidate evaluated
      split_ifs at selected with small
      · exact absurd selected refuses
      · obtain rfl := Option.some.inj selected
        exact ⟨evaluated, not_lt.mp small⟩

/-- A selection is executable. -/
theorem executable_of_selected {selection : CapacitySizingSelection}
    (selected : (selectCapacityCandidate request).selected = some selection) :
    request.Executable selection.quantity := by
  obtain ⟨evaluated, materialization⟩ := selected_eq_some selected
  obtain ⟨largest, positive, risk, tp1, runner, entry, tp1Meets, runnerMeets⟩ :=
    evaluateCandidate_eq_ok evaluated
  have grid : OnGrid request.quantityStep selection.quantity := largest ▸ onGrid_maxQuantity
  refine ⟨positive, grid, (withinBudgets_iff positive grid).mpr largest.le, entry, tp1 ▸ tp1Meets, ?_,
    risk ▸ materialization⟩
  rwa [← tp1, ← runner]

/-- An executable quantity is not refused, once the count and the leverage are in order. -/
theorem status_of_executable (executable : request.Executable quantity) :
    (selectCapacityCandidate request).status ∈
      ([.selected, .countExhausted, .invalidFacts] : List CapacitySizingStatus) := by
  have largest := executable_maxQuantity executable
  obtain ⟨candidate, evaluated⟩ := exists_candidate largest
  obtain ⟨same, -, risk, -⟩ := evaluateCandidate_eq_ok evaluated
  have spent : 0 < quantity * request.riskPerUnit := mul_pos executable.positive riskPerUnit_pos
  have riskBudget : 0 < request.ticketStopRiskBudget :=
    spent.trans_le (le_min (le_min executable.budgets.ticketRisk executable.budgets.grossRisk)
      executable.budgets.directionalRisk)
  have margin : 0 < request.ticketMarginBudget := by
    refine lt_of_lt_of_le ?_ executable.budgets.margin
    have leverage : (0 : ℚ) < fixedExchangeConfiguredLeverage := by
      norm_num [fixedExchangeConfiguredLeverage]
    exact div_pos (mul_pos executable.positive entryReferencePrice_pos) leverage
  have riskQuantity : 0 < request.riskQuantity := largest.positive.trans_le (min_le_left _ _)
  have materialized : ¬ candidate.plannedStopRisk < request.minimumStopRiskBudget := by
    rw [risk, same]
    exact not_lt.mpr largest.minimums.materialization
  unfold selectCapacityCandidate
  by_cases count : request.maxConcurrentTickets ≤ request.activeTicketCount
  · rw [if_pos count]
    decide
  by_cases leverage : request.configuredLeverage ≠ fixedExchangeConfiguredLeverage ∨
      request.permittedMaxLeverage < fixedExchangeConfiguredLeverage
  · rw [if_neg count, if_pos leverage]
    decide
  rw [if_neg count, if_neg leverage, if_neg riskBudget.not_ge, if_neg margin.not_ge,
    if_neg riskQuantity.not_ge, evaluated]
  dsimp only
  rw [if_neg materialized]
  exact List.mem_cons_self

/-- **Sizing is sound and maximal.** A selected quantity is executable, its legs are the split that was
judged, and no larger multiple of the step stays within the budgets; where sizing refuses for another
reason than the count or the facts, no quantity is executable. -/
theorem sizing_sound_and_maximal (request : CapacitySizingRequest) :
    (∀ selection, (selectCapacityCandidate request).selected = some selection →
      request.Executable selection.quantity ∧
        selection.tp1Quantity = request.tp1Share selection.quantity ∧
        selection.runnerQuantity = selection.quantity - selection.tp1Quantity ∧
        ∀ larger, OnGrid request.quantityStep larger → selection.quantity < larger →
          ¬ request.WithinBudgets larger) ∧
    ((selectCapacityCandidate request).status ∉
        ([.selected, .countExhausted, .invalidFacts] : List CapacitySizingStatus) →
      ∀ quantity, ¬ request.Executable quantity) := by
  refine ⟨fun selection selected => ?_, fun refused quantity executable => ?_⟩
  · have executable := executable_of_selected selected
    obtain ⟨evaluated, -⟩ := selected_eq_some selected
    obtain ⟨largest, -, -, tp1, runner, -⟩ := evaluateCandidate_eq_ok evaluated
    refine ⟨executable, tp1, runner, fun larger grid above within => ?_⟩
    have fits := (withinBudgets_iff (executable.positive.trans above) grid).mp within
    exact absurd (largest ▸ above) (not_lt.mpr fits)
  · exact refused (status_of_executable executable)

end CapacitySizingRequest

/-- An account of 1000 that risks four per cent on a long entry at 100 with its stop at 90, with a step
of one unit. -/
def sampleSizing : CapacitySizingRequest where
  totalWalletBalance := 1000
  totalMarginBalance := 1000
  totalInitialMargin := 0
  currentReservedMargin := 0
  grossRiskAtStop := 0
  directionalRiskAtStop := 0
  availableMargin := 1000
  activeTicketCount := 0
  maxConcurrentTickets := 3
  maxTicketStopRiskFraction := 4 / 100
  maxGrossStopRiskFraction := 1 / 10
  maxTicketInitialMarginFraction := 2 / 10
  maxGrossInitialMarginUtilization := 1 / 2
  directionalStopRiskLimitFraction := 1 / 10
  minMaterializationRatio := 1 / 2
  permittedMaxLeverage := 5
  configuredLeverage := 5
  entryReferencePrice := 100
  initialStopPrice := 90
  takeProfitPrice := 120
  quantityStep := 1
  minQuantity := 1
  minNotional := 50
  tp1QuantityFraction := 1 / 2
  nonnegative := by decide +kernel
  positive := by decide +kernel
  fractions := by decide +kernel
  tp1Fraction := by decide +kernel
  counts := by decide
  stopDiffers := by decide +kernel

example : (selectCapacityCandidate sampleSizing).selected.map
    (fun selection => (selection.quantity, selection.tp1Quantity)) = some (4, 2) := by
  decide +kernel

end TradingKernel
