/-
**`maintain_ticket_lifecycle`: one protected Ticket against current venue and market facts.**

`planMaintenance` is the decision: an exit before TP1, the fill of TP1 with the runner's break-even
floor, a move of the runner's stop, an exit of the runner, or nothing.
`maintainTicketLifecycle` records it through the reducer. What a plan says about the aggregate and
the facts it was made from is `Planned`.
-/

import TradingKernel.Application.NextEvent
import TradingKernel.Domain.ExitPolicy

namespace TradingKernel

open Text Guard

/-! ### The request -/

structure TicketLifecycleFacts where
  positionQuantity : ℚ
  tp1FilledQuantity : ℚ
  tp1AverageFillPrice : Option ℚ
  allocatedEntryFeeQuote : ℚ
  exitTakerFeeRate : ℚ
  priceTick : ℚ
  marketFacts : Option LifecycleMarketFacts
  observedAtMs : ℤ
  nonnegative : 0 ≤ positionQuantity ∧ 0 ≤ tp1FilledQuantity ∧ 0 ≤ allocatedEntryFeeQuote
  tickPositive : 0 < priceTick
  observed : 0 < observedAtMs
  feeInRange : 0 ≤ exitTakerFeeRate ∧ exitTakerFeeRate < 1
  tp1Priced : if 0 < tp1FilledQuantity then ∃ price ∈ tp1AverageFillPrice, 0 < price
    else tp1AverageFillPrice = none

structure LifecycleMaintenanceRequest where
  ticketId : NonBlankText
  facts : TicketLifecycleFacts
  nowMs : ℤ
  afterFacts : facts.observedAtMs ≤ nowMs

inductive LifecycleMaintenanceStatus where
  | noChange
  | breakEvenRequested
  | runnerMoveRequested
  | exitRequested
  deriving DecidableEq, Repr

/-! ### The decision -/

/-- What is to be recorded of the Ticket. -/
inductive LifecyclePlan where
  | noChange
  | takeProfitFilled (filledQty averageFillPrice runnerFloorPrice : ℚ)
  | runnerStopRequested (stopPrice : ℚ) (sourceWatermarkMs : ℤ)
  | exitRequested (reason : String)
  deriving DecidableEq, Repr

namespace LifecyclePlan

def status : LifecyclePlan → LifecycleMaintenanceStatus
  | noChange => .noChange
  | takeProfitFilled _ _ _ => .breakEvenRequested
  | runnerStopRequested _ _ => .runnerMoveRequested
  | exitRequested _ => .exitRequested

/-- The fact of the recorded event, where there is one. -/
def fact : LifecyclePlan → Option PlainFact
  | noChange => none
  | takeProfitFilled filled price floor => some ⟨.takeProfitFilled ⟨filled, price, floor⟩, rfl⟩
  | runnerStopRequested stop watermark => some ⟨.runnerStopRequested stop watermark, rfl⟩
  | exitRequested reason => some ⟨.exitRequested reason, rfl⟩

end LifecyclePlan

/-- What a decision of the exit policy asks to record. -/
def ExitDecision.plan : ExitDecision → LifecyclePlan
  | .noChange _ _ => .noChange
  | .moveStop _ watermark stop => .runnerStopRequested stop watermark
  | .exit reason _ => .exitRequested reason

section Plan

variable (profile : LifecycleExitProfile) (aggregate : TradeAggregate)
  (facts : TicketLifecycleFacts)

/-- Nothing of TP1 is filled: the position may still have to be left. -/
def planBeforeTp1 : Except Raised LifecyclePlan := do
  refuse (facts.positionQuantity ≠ aggregate.positionQty)
    (.valueError "pre-TP1 venue quantity differs from Ticket projection")
  if profile.preTp1Guards = [] ∧ profile.timeStop.isNone then return .noChange
  else match facts.marketFacts with
    | none => return .noChange
    | some marketFacts => do
        let decision ← (evaluateProfilePreTp1Exit profile marketFacts facts.observedAtMs
          aggregate.ticket.preTp1ReclaimPrice aggregate.ticket.exposureSessionEndMs).mapError
            Raised.valueError
        return decision.plan

/-- The costs that the runner's floor has to cover. -/
def floorFacts (runnerQuantity averageFillPrice : ℚ) : BreakEvenFacts where
  side := profile.positionSide.value
  entryAveragePrice := averageFillPrice
  runnerQuantity := runnerQuantity
  allocatedEntryFeeQuote := facts.allocatedEntryFeeQuote
  exitTakerFeeRate := facts.exitTakerFeeRate
  priceTick := facts.priceTick
  slippageBufferTicks := profile.breakEvenFloor.slippageBufferTicks

/-- TP1 is filled: the runner gets its break-even floor. -/
def planAfterTp1 : Except Raised LifecyclePlan := do
  refuse (facts.tp1FilledQuantity ≠ aggregate.tp1TargetQty)
    (.valueError "partial TP1 fill is outside the registered exit policy")
  let runnerQuantity := aggregate.positionQty - aggregate.tp1TargetQty
  refuse (runnerQuantity ≤ 0 ∨ facts.positionQuantity ≠ runnerQuantity)
    (.valueError "TP1 venue facts contradict the frozen Ticket")
  let averageFillPrice ← demand aggregate.averageFillPrice
    (.valueError "TP1 venue facts contradict the frozen Ticket")
  let tp1Price ← demand facts.tp1AverageFillPrice
    (.valueError "TP1 venue facts contradict the frozen Ticket")
  let floor ← ((floorFacts profile facts runnerQuantity
    averageFillPrice).calculateCostAdjustedBreakEven).mapError Raised.valueError
  return .takeProfitFilled aggregate.tp1TargetQty tp1Price floor

/-- The runner is protected: its stop may move, or it is left. -/
def planRunner : Except Raised LifecyclePlan := do
  refuse (facts.positionQuantity ≠ aggregate.positionQty)
    (.valueError "runner venue quantity differs from Ticket projection")
  match facts.marketFacts with
  | none => return .noChange
  | some marketFacts => do
      let currentStop ← demand aggregate.activeStopPrice
        (.valueError "runner protection lacks its active and floor prices")
      let floor ← demand aggregate.breakEvenFloorPrice
        (.valueError "runner protection lacks its active and floor prices")
      let decision ← (evaluateProfileRunnerExit profile currentStop floor facts.priceTick
        (aggregate.runnerStopWatermarkMs.getD 0) marketFacts).mapError Raised.valueError
      return decision.plan

def planMaintenance : Except Raised LifecyclePlan :=
  if aggregate.status = .positionProtected then
    if facts.tp1FilledQuantity = 0 then planBeforeTp1 profile aggregate facts
    else planAfterTp1 profile aggregate facts
  else if aggregate.status = .runnerProtected then planRunner profile aggregate facts
  else return .noChange

end Plan

/-! ### The use case -/

/-- The result status, and the event that was recorded with its reduction. -/
structure MaintenanceOutcome where
  status : LifecycleMaintenanceStatus
  recorded : Option (TicketEvent × Reduction) := none

/-- The planned event, where there is one, reduced and recorded. -/
def recordMaintenance (aggregate : TradeAggregate) (plan : LifecyclePlan) (nowMs : ℤ) :
    Except Raised MaintenanceOutcome :=
  match plan.fact with
  | none => return ⟨plan.status, none⟩
  | some fact => do
      let recorded ← reduceNext aggregate fact nowMs
      return ⟨plan.status, some recorded⟩

/-- The use case on the stored aggregate and on the profile frozen into its Ticket. -/
def maintainTicketLifecycle (stored : Option TradeAggregate)
    (frozen : TradeAggregate → Option LifecycleExitProfile) (request : LifecycleMaintenanceRequest) :
    Except Raised MaintenanceOutcome := do
  let aggregate ← demand stored (.valueError "lifecycle Ticket does not exist")
  let profile ← demand (frozen aggregate) (.valueError "Ticket has no exact frozen ExitProfile")
  refuse (profile.positionSide ≠ aggregate.identity.nettingDomain.positionSide)
    (.valueError "ExitProfile side differs from Ticket Netting Domain")
  let plan ← planMaintenance profile aggregate request.facts
  recordMaintenance aggregate plan request.nowMs

/-! ### What a plan says -/

section Planned

variable {profile : LifecycleExitProfile} {aggregate : TradeAggregate} {facts : TicketLifecycleFacts}
  {plan : LifecyclePlan}

/-- Before TP1 nothing is planned but an exit. -/
theorem planBeforeTp1_cases (planned : planBeforeTp1 profile aggregate facts = .ok plan) :
    plan = .noChange ∨ ∃ reason ∈ profileExitReasons, plan = .exitRequested reason := by
  obtain ⟨-, planned⟩ := refuse_bind_eq_ok.mp planned
  by_cases bare : profile.preTp1Guards = [] ∧ profile.timeStop.isNone
  · rw [if_pos bare, pure_eq_ok] at planned
    exact .inl planned
  rw [if_neg bare] at planned
  cases market : facts.marketFacts with
  | none =>
    rw [market] at planned
    exact .inl (pure_eq_ok.mp planned)
  | some marketFacts =>
    rw [market] at planned
    obtain ⟨decision, evaluated, planned⟩ := bind_eq_ok.mp planned
    rw [pure_eq_ok] at planned
    rw [mapError_eq_ok] at evaluated
    rw [planned]
    obtain ⟨reason, watermark, rfl⟩ | ⟨reason, listed, watermark, rfl⟩ :=
      evaluateProfilePreTp1Exit_cases evaluated
    · exact .inl rfl
    · exact .inr ⟨reason, listed, rfl⟩

/-- The fill of TP1 that a plan records: the whole target, with a floor on the tick grid that is not
on the losing side of the entry price. -/
structure PlannedTakeProfit (profile : LifecycleExitProfile) (aggregate : TradeAggregate) (tick : ℚ)
    (filled price floor : ℚ) : Prop where
  status : aggregate.status = .positionProtected
  target : filled = aggregate.tp1TargetQty
  runner : filled < aggregate.positionQty
  priced : 0 < price
  grid : OnGrid tick floor
  floored : ∃ average, aggregate.averageFillPrice = some average ∧
    profile.positionSide.NotBehind average floor

/-- The move of the runner's stop that a plan records. -/
structure PlannedMove (profile : LifecycleExitProfile) (aggregate : TradeAggregate) (tick : ℚ)
    (stop : ℚ) (watermark : ℤ) : Prop where
  status : aggregate.status = .runnerProtected
  timed : 0 < watermark
  moves : ∃ active floor, aggregate.activeStopPrice = some active ∧
    aggregate.breakEvenFloorPrice = some floor ∧
    RunnerMove profile active floor tick (aggregate.runnerStopWatermarkMs.getD 0) watermark stop

/-- What a plan is, by the status it was made in. -/
inductive Planned (profile : LifecycleExitProfile) (aggregate : TradeAggregate) (tick : ℚ) :
    LifecyclePlan → Prop
  | nothing : Planned profile aggregate tick .noChange
  | takeProfit {filled price floor}
      (records : PlannedTakeProfit profile aggregate tick filled price floor) :
      Planned profile aggregate tick (.takeProfitFilled filled price floor)
  | move {stop watermark} (records : PlannedMove profile aggregate tick stop watermark) :
      Planned profile aggregate tick (.runnerStopRequested stop watermark)
  | exit {reason} (listed : reason ∈ profileExitReasons)
      (status : aggregate.status ∈ [.positionProtected, .runnerProtected]) :
      Planned profile aggregate tick (.exitRequested reason)

theorem Planned.of_planAfterTp1 (status : aggregate.status = .positionProtected)
    (sold : facts.tp1FilledQuantity ≠ 0) (planned : planAfterTp1 profile aggregate facts = .ok plan) :
    Planned profile aggregate facts.priceTick plan := by
  obtain ⟨whole, planned⟩ := refuse_bind_eq_ok.mp planned
  obtain ⟨quantities, planned⟩ := refuse_bind_eq_ok.mp planned
  obtain ⟨average, filledAt, planned⟩ := demand_bind_eq_ok.mp planned
  obtain ⟨price, soldAt, planned⟩ := demand_bind_eq_ok.mp planned
  obtain ⟨floor, calculated, planned⟩ := bind_eq_ok.mp planned
  rw [mapError_eq_ok] at calculated
  rw [pure_eq_ok] at planned
  rw [planned]
  have positive : 0 < facts.tp1FilledQuantity :=
    lt_of_le_of_ne facts.nonnegative.2.1 (Ne.symm sold)
  have priced := facts.tp1Priced
  rw [if_pos positive, soldAt] at priced
  obtain ⟨_, ⟨⟩, pricePositive⟩ := priced
  have runner : aggregate.tp1TargetQty < aggregate.positionQty :=
    sub_pos.mp (not_le.mp (not_or.mp quantities).1)
  have named : (floorFacts profile facts (aggregate.positionQty - aggregate.tp1TargetQty)
      average).side = profile.positionSide.value := rfl
  obtain ⟨grid, floored⟩ := floor_of_calculated named calculated
  exact .takeProfit ⟨status, rfl, runner, pricePositive, grid, average, filledAt, floored⟩

theorem Planned.of_planRunner (status : aggregate.status = .runnerProtected)
    (planned : planRunner profile aggregate facts = .ok plan) :
    Planned profile aggregate facts.priceTick plan := by
  obtain ⟨-, planned⟩ := refuse_bind_eq_ok.mp planned
  cases market : facts.marketFacts with
  | none =>
    rw [market] at planned
    rw [pure_eq_ok.mp planned]
    exact .nothing
  | some marketFacts =>
    rw [market] at planned
    obtain ⟨active, stopped, planned⟩ := demand_bind_eq_ok.mp planned
    obtain ⟨floor, floored, planned⟩ := demand_bind_eq_ok.mp planned
    obtain ⟨decision, evaluated, planned⟩ := bind_eq_ok.mp planned
    rw [mapError_eq_ok] at evaluated
    rw [pure_eq_ok] at planned
    rw [planned]
    cases decision with
    | noChange reason watermark => exact .nothing
    | exit reason watermark =>
      refine .exit (evaluateProfileRunnerExit_exit evaluated) ?_
      rw [status]
      decide
    | moveStop reason watermark stop =>
      obtain ⟨rfl, moves⟩ := evaluateProfileRunnerExit_moveStop evaluated
      exact .move ⟨status, marketFacts.timed.1, active, floor, stopped, floored, moves⟩

/-- **What is planned.** -/
theorem Planned.of_planMaintenance (planned : planMaintenance profile aggregate facts = .ok plan) :
    Planned profile aggregate facts.priceTick plan := by
  unfold planMaintenance at planned
  by_cases protected_ : aggregate.status = .positionProtected
  · rw [if_pos protected_] at planned
    by_cases unsold : facts.tp1FilledQuantity = 0
    · rw [if_pos unsold] at planned
      obtain rfl | ⟨reason, listed, rfl⟩ := planBeforeTp1_cases planned
      · exact .nothing
      · refine .exit listed ?_
        rw [protected_]
        decide
    · rw [if_neg unsold] at planned
      exact of_planAfterTp1 protected_ unsold planned
  rw [if_neg protected_] at planned
  by_cases runner : aggregate.status = .runnerProtected
  · rw [if_pos runner] at planned
    exact of_planRunner runner planned
  · rw [if_neg runner] at planned
    rw [pure_eq_ok.mp planned]
    exact .nothing

end Planned

end TradingKernel
