/-
**`drain_strategy_entry_vacuum_once`: the ENTRY of one Ticket, withdrawn by a draining vacuum.**

A command that has not been dispatched is superseded, and one in flight is waited for. An accepted
order is cancelled, and once it is gone from the venue its final fill decides: nothing ends the
Ticket, a full fill is protected, and a part is retained behind a stop or flattened
(`planVacuumTicketDrain`). `Kernel.drainEntryVacuum` is one such step, committed.
-/

import TradingKernel.Application.DispatchCommand
import TradingKernel.Application.ReconcileTicket

namespace TradingKernel

open Text Guard

/-! ### The exit legs of a partial fill -/

structure TakeProfitSplit where
  tp1Quantity : ℚ
  runnerQuantity : ℚ
  positive : 0 < tp1Quantity ∧ 0 < runnerQuantity

def roundToStep (value step : ℚ) : ℚ := (value / step).floor * step

/-- TP1's share of a quantity, rounded down to the step, and the runner that remains. -/
def splitTp1Quantity (totalQuantity quantityStep quantityFraction : ℚ) :
    Except Raised TakeProfitSplit := do
  refuse (totalQuantity ≤ 0 ∨ quantityStep ≤ 0)
    (.valueError "quantity and quantity step must be positive")
  refuse (¬ (totalQuantity / quantityStep).isInt = true)
    (.valueError "total quantity must be aligned to the quantity step")
  refuse (¬ (0 < quantityFraction ∧ quantityFraction < 1))
    (.valueError "TP1 quantity fraction must be in (0, 1)")
  let tp1Quantity := roundToStep (totalQuantity * quantityFraction) quantityStep
  if positive : 0 < tp1Quantity ∧ 0 < totalQuantity - tp1Quantity then
    return ⟨tp1Quantity, totalQuantity - tp1Quantity, positive⟩
  else .error (.valueError "TP1 and runner quantities must both be positive")

/-- A split has its whole aligned, TP1 rounded down, and the rest as its runner. -/
theorem splitTp1Quantity_eq_ok {total step fraction : ℚ} {split : TakeProfitSplit}
    (returned : splitTp1Quantity total step fraction = .ok split) :
    0 < step ∧ (total / step).isInt = true ∧
      split.tp1Quantity = roundToStep (total * fraction) step ∧
      split.runnerQuantity = total - split.tp1Quantity := by
  unfold splitTp1Quantity at returned
  simp only [refuse_bind_eq_ok, not_or, not_le, not_not] at returned
  obtain ⟨⟨-, step⟩, aligned, -, returned⟩ := returned
  split_ifs at returned with positive
  obtain rfl := pure_eq_ok.mp returned
  exact ⟨step, aligned, rfl, rfl⟩

/-! ### The plan -/

/-- What a step is planned from; the exit policy is known where it is needed. -/
structure VacuumTicketDrainFacts where
  aggregate : TradeAggregate
  entryVacuumId : NonBlankText
  nowMs : ℤ
  positionSnapshot : Option PositionSnapshot
  quantityStep : Option ℚ
  tp1QuantityFraction : Option ℚ

/-- The fact to record, with its time, and the reason of the plan. -/
structure VacuumTicketDrainPlan where
  event : Option (PlainFact × ℤ) := none
  reasonCode : String

/-- The price of a snapshot fits its quantity. -/
theorem PositionSnapshot.priceMatches (snapshot : PositionSnapshot) :
    snapshot.quantity = 0 ↔ snapshot.averageEntryPrice = none := by
  constructor
  · exact fun flat => (snapshot.flatUnpriced flat).1
  · intro unpriced
    by_contra exposed
    obtain ⟨price, priced, -⟩ :=
      snapshot.openPriced (lt_of_le_of_ne snapshot.quantityNonneg (Ne.symm exposed))
    rw [unpriced] at priced
    simp at priced

theorem PositionSnapshot.pricePositive (snapshot : PositionSnapshot) :
    ∀ price ∈ snapshot.averageEntryPrice, 0 < price := by
  intro price priced
  have isOpen : snapshot.quantity ≠ 0 := fun flat => by
    rw [(snapshot.flatUnpriced flat).1] at priced
    simp at priced
  obtain ⟨other, same, positive⟩ :=
    snapshot.openPriced (lt_of_le_of_ne snapshot.quantityNonneg (Ne.symm isOpen))
  rw [Option.mem_def, same] at priced
  exact Option.some.inj priced ▸ positive

/-- An ENTRY order that is still open is cancelled, unless its cancel is waited for or nothing is
left to cancel. -/
def planOpenEntry (facts : VacuumTicketDrainFacts) (snapshot : PositionSnapshot)
    (entryOrderId : String) : Except Raised VacuumTicketDrainPlan :=
  if facts.aggregate.status = .entryVacuumCancelPending then
    return ⟨none, "WAITING_CANCEL_ORDER_ABSENCE"⟩
  else if facts.aggregate.ticket.quantity ≤ snapshot.quantity then
    return ⟨none, "FULL_FILL_WITH_OPEN_ENTRY_ORDER"⟩
  else if named : ¬ Blank entryOrderId then
    return ⟨some (⟨.entryVacuumCancelRequested {
      entryVacuumId := facts.entryVacuumId
      exchangeOrderId := entryOrderId
      observedQty := snapshot.quantity
      averageFillPrice := snapshot.averageEntryPrice
      identities := ⟨facts.entryVacuumId.not_blank, named⟩
      observedNonneg := snapshot.quantityNonneg
      priceMatches := snapshot.priceMatches
      pricePositive := snapshot.pricePositive }, rfl⟩, facts.nowMs),
      "VACUUM_ENTRY_CANCEL_REQUIRED"⟩
  else .error (.valueError "Vacuum ENTRY cancel requires exact identities")

/-- An ENTRY order that is gone: its final fill is recorded. -/
def planAbsentEntry (facts : VacuumTicketDrainFacts) (snapshot : PositionSnapshot)
    (entryOrderId : String) : Except Raised VacuumTicketDrainPlan :=
  if named : ¬ Blank entryOrderId then
    return ⟨some (⟨.entryVacuumOrderAbsenceConfirmed {
      entryVacuumId := facts.entryVacuumId
      exchangeOrderId := entryOrderId
      finalFilledQty := snapshot.quantity
      averageFillPrice := snapshot.averageEntryPrice
      identities := ⟨facts.entryVacuumId.not_blank, named⟩
      filledNonneg := snapshot.quantityNonneg
      priceMatches := snapshot.priceMatches
      pricePositive := snapshot.pricePositive }, rfl⟩, facts.nowMs),
      "VACUUM_ENTRY_ORDER_ABSENT"⟩
  else .error (.valueError "Vacuum order absence requires exact identities")

/-- The statuses of an ENTRY order that may be open at the venue. -/
def openEntryStatuses : List AggregateStatus :=
  [.entryAccepted, .entryVacuumCancelPending, .entryVacuumCancelRejected]

def planEntryOrder (facts : VacuumTicketDrainFacts) : Except Raised VacuumTicketDrainPlan :=
  match facts.positionSnapshot with
  | none => return ⟨none, "POSITION_FACTS_REQUIRED"⟩
  | some snapshot => do
      let entryOrderId ← demand facts.aggregate.entryExchangeOrderId
        (.valueError "Vacuum ENTRY drain lacks exchange order identity")
      if snapshot.openOrders.any fun order => order.exchangeOrderId.text = entryOrderId then
        planOpenEntry facts snapshot entryOrderId
      else planAbsentEntry facts snapshot entryOrderId

/-- A cancelled ENTRY without a fill: the Ticket ends, unless the snapshot contradicts that. -/
def planUnfilled (facts : VacuumTicketDrainFacts) : Except Raised VacuumTicketDrainPlan :=
  match facts.positionSnapshot with
  | none => return ⟨none, "POSITION_FACTS_REQUIRED"⟩
  | some snapshot =>
      if 0 < snapshot.quantity ∨ snapshot.openOrders ≠ [] then
        return ⟨none, "VACUUM_POST_ABSENCE_CONTRADICTION"⟩
      else return ⟨some (⟨.entryVacuumAbsenceConfirmed facts.entryVacuumId, rfl⟩,
        snapshot.observedAtMs), "VACUUM_ZERO_FILL_CONFIRMED"⟩

/-- A part that keeps two exit legs within its risk, with the refusals of its validator. -/
def planRetained (facts : VacuumTicketDrainFacts) (averageFillPrice quantityStep : ℚ)
    (split : TakeProfitSplit) (risk : PostFillRiskDecision) :
    Except Raised VacuumTicketDrainPlan :=
  let ticket := facts.aggregate.ticket
  let filled := facts.aggregate.positionQty
  if positive : 0 < ticket.quantity ∧ 0 < filled ∧ 0 < averageFillPrice ∧ 0 < quantityStep ∧
      0 < split.tp1Quantity ∧ 0 < split.runnerQuantity then
    if smaller : filled < ticket.quantity then
      if aligned : (filled / quantityStep).isInt = true then
        if conserved : split.tp1Quantity + split.runnerQuantity = filled then
          if riskNonneg : 0 ≤ risk.actualStopRisk then
            return ⟨some (⟨.vacuumPartialRetained {
              entryVacuumId := facts.entryVacuumId
              selectionAuthorityId := ticket.selectionAuthorityId.map NonBlankText.text
              requestedQty := ticket.quantity
              finalFilledQty := filled
              averageFillPrice := averageFillPrice
              quantityStep := quantityStep
              effectiveTp1Qty := split.tp1Quantity
              effectiveRunnerQty := split.runnerQuantity
              postFillRisk := risk
              identities := ⟨facts.entryVacuumId.not_blank, by
                intro authority known
                obtain ⟨id, -, rfl⟩ := Option.mem_map.mp known
                exact id.not_blank⟩
              positive := positive
              smaller := smaller
              aligned := aligned
              conserved := conserved
              riskNonneg := riskNonneg }, rfl⟩, facts.nowMs), "VACUUM_PARTIAL_RETAINED"⟩
          else .error (.valueError "retained partial stop risk cannot be negative")
        else .error (.valueError "retained partial TP1 and runner must conserve quantity")
      else .error (.valueError "retained partial must align to certified quantity step")
    else .error (.valueError "retained partial must be smaller than requested quantity")
  else .error (.valueError "retained partial quantities and price must be positive")

/-- Any other part is flattened. -/
def planFlatten (facts : VacuumTicketDrainFacts) (averageFillPrice : ℚ) (reason : String) :
    Except Raised VacuumTicketDrainPlan :=
  let filled := facts.aggregate.positionQty
  if given : ¬ Blank reason ∧ 0 < filled ∧ 0 < averageFillPrice then
    return ⟨some (⟨.vacuumPartialFlattenRequired {
      entryVacuumId := facts.entryVacuumId
      finalFilledQty := filled
      averageFillPrice := averageFillPrice
      reason := reason
      identities := ⟨facts.entryVacuumId.not_blank, given.1⟩
      positive := given.2 }, rfl⟩, facts.nowMs), reason⟩
  else .error (.valueError "Vacuum partial flatten requires exact positive facts")

def planPartial (facts : VacuumTicketDrainFacts) (averageFillPrice : ℚ)
    (risk : PostFillRiskDecision) : Except Raised VacuumTicketDrainPlan :=
  match facts.quantityStep, facts.tp1QuantityFraction with
  | some quantityStep, some fraction =>
      match splitTp1Quantity facts.aggregate.positionQty quantityStep fraction with
      | .ok split =>
          if risk.disposition = .normal then
            planRetained facts averageFillPrice quantityStep split risk
          else planFlatten facts averageFillPrice ("vacuum_partial_" ++ risk.status.value)
      | .error _ => planFlatten facts averageFillPrice "vacuum_partial_two_leg_unavailable"
  | _, _ => return ⟨none, "EXIT_POLICY_FACTS_REQUIRED"⟩

/-- A cancelled ENTRY that filled: in full it is protected, in part it is retained or flattened. -/
def planFilled (facts : VacuumTicketDrainFacts) : Except Raised VacuumTicketDrainPlan := do
  let averageFillPrice ← demand facts.aggregate.averageFillPrice
    (.valueError "Vacuum filled quantity requires average fill price")
  let risk ← assessFill facts.aggregate facts.aggregate.positionQty averageFillPrice
  if facts.aggregate.positionQty = facts.aggregate.ticket.quantity then
    return ⟨some (⟨.entryFilled {
      filledQty := facts.aggregate.positionQty
      averageFillPrice := averageFillPrice
      postFillRisk := risk
      venueReportedLiquidationPrice := none
      positionObservedAtMs := facts.nowMs }, rfl⟩, facts.nowMs),
      "VACUUM_FULL_FILL_MATERIALIZED"⟩
  else planPartial facts averageFillPrice risk

def planVacuumTicketDrain (facts : VacuumTicketDrainFacts) :
    Except Raised VacuumTicketDrainPlan := do
  refuse (∃ snapshot ∈ facts.positionSnapshot,
      snapshot.nettingDomain ≠ facts.aggregate.identity.nettingDomain)
    (.valueError "Vacuum position snapshot Netting Domain mismatch")
  if facts.aggregate.status ∈ openEntryStatuses then planEntryOrder facts
  else if facts.aggregate.status ≠ .entryVacuumCancelled then
    return ⟨none, "WAITING_EXISTING_LIFECYCLE"⟩
  else if facts.aggregate.positionQty = 0 then planUnfilled facts
  else planFilled facts

/-! ### The use case -/

/-- What is read for one step: the snapshot, the time of the latest recorded position, and the step
and fraction of the exit policy. -/
structure VacuumReading where
  positionSnapshot : Option PositionSnapshot
  priorObservedAtMs : Option ℤ
  exitPolicy : Option (ℚ × ℚ)

/-- The first of the greatest elements. -/
def firstMax {α : Type} (less : α → α → Bool) : List α → Option α
  | [] => none
  | first :: rest =>
      some (rest.foldl (fun best next => if less best next then next else best) first)

def isEntryMutation (command : ExchangeCommand) : Bool :=
  command.kind ∈ [.setLeverage, .entry] ∧
    command.status ∈ [.prepared, .claimed, .outcomeUnknown]

/-- The ENTRY or leverage command that is not settled, the latest if there were several. -/
def currentEntryMutation (commands : List ExchangeCommand) : Option ExchangeCommand :=
  firstMax (fun best next => best.createdAtMs < next.createdAtMs ∨
    best.createdAtMs = next.createdAtMs ∧ best.generation < next.generation)
    (commands.filter isEntryMutation)

def isVacuumCancel (entryVacuumId : NonBlankText) (command : ExchangeCommand) : Bool :=
  match command.payload with
  | .cancel payload => command.kind = .cancelOrder ∧ payload.purpose = .selectionVacuumEntry ∧
      payload.entryVacuumId = some entryVacuumId
  | _ => false

def latestVacuumCancel (commands : List ExchangeCommand) (entryVacuumId : NonBlankText) :
    Option ExchangeCommand :=
  firstMax (fun best next => best.generation < next.generation)
    (commands.filter (isVacuumCancel entryVacuumId))

/-- The cancel of the vacuum has not been dispatched, or its outcome is unknown. -/
def awaitsVacuumCancel (commands : List ExchangeCommand) (entryVacuumId : NonBlankText) : Prop :=
  ∀ cancel ∈ latestVacuumCancel commands entryVacuumId,
    cancel.status ∈ [.prepared, .claimed, .outcomeUnknown]

instance (commands : List ExchangeCommand) (entryVacuumId : NonBlankText) :
    Decidable (awaitsVacuumCancel commands entryVacuumId) := by
  delta awaitsVacuumCancel
  cases latestVacuumCancel commands entryVacuumId <;> simp only [Option.mem_def, reduceCtorEq,
    Option.some.injEq, forall_eq', false_imp_iff, implies_true] <;> exact inferInstance

/-- The snapshot of a cancelled ENTRY is older than what is recorded, or than the request. -/
def StaleSnapshot (reading : VacuumReading) (nowMs : ℤ) : Prop :=
  ∃ snapshot ∈ reading.positionSnapshot,
    (∀ prior ∈ reading.priorObservedAtMs, snapshot.observedAtMs ≤ prior) ∨
      snapshot.observedAtMs < nowMs

instance (reading : VacuumReading) (nowMs : ℤ) : Decidable (StaleSnapshot reading nowMs) :=
  inferInstanceAs (Decidable (∃ snapshot ∈ reading.positionSnapshot, _ ∨ _))

/-- The snapshot shows a position or an order of an ENTRY that was found unfilled. -/
def Contradicts (reading : VacuumReading) : Prop :=
  ∃ snapshot ∈ reading.positionSnapshot, 0 < snapshot.quantity ∨ snapshot.openOrders ≠ []

instance (reading : VacuumReading) : Decidable (Contradicts reading) :=
  inferInstanceAs (Decidable (∃ snapshot ∈ reading.positionSnapshot, _ ∨ _))

namespace Kernel

variable (kernel : Kernel)

/-- The first commands of a Ticket: superseded if not dispatched, else waited for. -/
def supersedePreDispatch (entryVacuumId : NonBlankText) (nowMs : ℤ) : Except Raised Kernel :=
  match currentEntryMutation kernel.commands.listForTicket with
  | none => return kernel
  | some command =>
      if command.status = .prepared then do
        let commands ← kernel.commands.markPreparedSuperseded ⟨command.kind, command.generation⟩
          nowMs
        kernel.commitResult ⟨.entryVacuumSuperseded {
          entryVacuumId := entryVacuumId
          commandId := command.commandId
          identities := ⟨entryVacuumId.not_blank, command.commandId.not_blank⟩ }, rfl⟩ nowMs
          commands
      else return kernel

/-- The planned event, committed. -/
def recordVacuumPlan (plan : VacuumTicketDrainPlan) : Except Raised Kernel :=
  match plan.event with
  | none => return kernel
  | some (fact, occurredAtMs) => kernel.commitResult fact occurredAtMs kernel.commands

def drainCancelled (entryVacuumId : NonBlankText) (nowMs : ℤ) (reading : VacuumReading) :
    Except Raised Kernel :=
  let aggregate := kernel.aggregate
  let whole := aggregate.positionQty = 0 ∨ aggregate.positionQty = aggregate.ticket.quantity
  if ¬ whole ∧ reading.exitPolicy = none then return kernel
  else if aggregate.positionQty = 0 ∧ StaleSnapshot reading nowMs then return kernel
  else if aggregate.positionQty = 0 ∧
      "vacuum_post_absence_contradiction" ∈ kernel.openIncidents then return kernel
  else if aggregate.positionQty = 0 ∧ Contradicts reading then
    return { kernel with
      openIncidents := "vacuum_post_absence_contradiction" :: kernel.openIncidents }
  else do
    let policy := if whole then none else reading.exitPolicy
    let plan ← planVacuumTicketDrain {
      aggregate := aggregate
      entryVacuumId := entryVacuumId
      nowMs := nowMs
      positionSnapshot := reading.positionSnapshot
      quantityStep := policy.map Prod.fst
      tp1QuantityFraction := policy.map Prod.snd }
    kernel.recordVacuumPlan plan

/-- One step of a draining vacuum on one of its Tickets. -/
def drainEntryVacuum (entryVacuumId : NonBlankText) (nowMs : ℤ) (reading : VacuumReading) :
    Except Raised Kernel := do
  refuse (nowMs ≤ 0) (.valueError "Vacuum drain time must be positive")
  let aggregate := kernel.aggregate
  if aggregate.status ∈ [.leveragePending, .leverageConfirmed, .entryPending] then
    kernel.supersedePreDispatch entryVacuumId nowMs
  else if aggregate.status ∈
      [.leverageOutcomeUnknown, .entryOutcomeUnknown, .entryVacuumCancelOutcomeUnknown] then
    return kernel
  else if aggregate.status = .entryVacuumCancelPending ∧
      awaitsVacuumCancel kernel.commands.listForTicket entryVacuumId then
    return kernel
  else if aggregate.status = .entryVacuumCancelled then
    kernel.drainCancelled entryVacuumId nowMs reading
  else do
    let plan ← planVacuumTicketDrain {
      aggregate := aggregate
      entryVacuumId := entryVacuumId
      nowMs := nowMs
      positionSnapshot := reading.positionSnapshot
      quantityStep := none
      tp1QuantityFraction := none }
    kernel.recordVacuumPlan plan

end Kernel

/-! ### What a step records -/

/-- What a snapshot makes a step record of an aggregate. -/
inductive Drains (aggregate : TradeAggregate) (entryVacuumId : NonBlankText)
    (snapshot : Option PositionSnapshot) : TicketFact → Prop
  | cancel (fact : EntryVacuumCancelRequested)
      (status : aggregate.status ∈ [.entryAccepted, .entryVacuumCancelRejected])
      (vacuum : fact.entryVacuumId = entryVacuumId) :
      Drains aggregate entryVacuumId snapshot (.entryVacuumCancelRequested fact)
  | orderGone (fact : EntryVacuumOrderAbsenceConfirmed) (seen : PositionSnapshot)
      (status : aggregate.status ∈ openEntryStatuses) (read : snapshot = some seen)
      (vacuum : fact.entryVacuumId = entryVacuumId) (filled : fact.finalFilledQty = seen.quantity)
      (absent : ∀ order ∈ seen.openOrders,
        some order.exchangeOrderId.text ≠ aggregate.entryExchangeOrderId) :
      Drains aggregate entryVacuumId snapshot (.entryVacuumOrderAbsenceConfirmed fact)
  | unfilled (seen : PositionSnapshot) (status : aggregate.status = .entryVacuumCancelled)
      (read : snapshot = some seen) (flat : seen.quantity = 0) (empty : seen.openOrders = []) :
      Drains aggregate entryVacuumId snapshot (.entryVacuumAbsenceConfirmed entryVacuumId)
  | whole (fact : EntryFilled) (status : aggregate.status = .entryVacuumCancelled) :
      Drains aggregate entryVacuumId snapshot (.entryFilled fact)
  | retained (fact : VacuumPartialRetained) (status : aggregate.status = .entryVacuumCancelled) :
      Drains aggregate entryVacuumId snapshot (.vacuumPartialRetained fact)
  | flattened (fact : VacuumPartialFlattenRequired)
      (status : aggregate.status = .entryVacuumCancelled) :
      Drains aggregate entryVacuumId snapshot (.vacuumPartialFlattenRequired fact)

section Recorded

variable {facts : VacuumTicketDrainFacts} {plan : VacuumTicketDrainPlan} {fact : PlainFact}
  {occurredAtMs : ℤ}

theorem Drains.of_planEntryOrder (status : facts.aggregate.status ∈ openEntryStatuses)
    (planned : planEntryOrder facts = .ok plan) (records : plan.event = some (fact, occurredAtMs)) :
    Drains facts.aggregate facts.entryVacuumId facts.positionSnapshot fact.val := by
  unfold planEntryOrder at planned
  split at planned
  · obtain rfl := pure_eq_ok.mp planned
    simp at records
  · rename_i snapshot read
    obtain ⟨entryOrderId, held, planned⟩ := demand_bind_eq_ok.mp planned
    split_ifs at planned with listed
    · unfold planOpenEntry at planned
      split_ifs at planned with pending whole
      · obtain rfl := pure_eq_ok.mp planned
        simp at records
      · obtain rfl := pure_eq_ok.mp planned
        simp at records
      · obtain rfl := pure_eq_ok.mp planned
        obtain ⟨rfl, -⟩ := Prod.mk.inj (Option.some.inj records)
        refine .cancel _ ?_ rfl
        simpa [openEntryStatuses, pending] using status
    · unfold planAbsentEntry at planned
      split_ifs at planned
      obtain rfl := pure_eq_ok.mp planned
      obtain ⟨rfl, -⟩ := Prod.mk.inj (Option.some.inj records)
      refine .orderGone _ snapshot status read rfl rfl fun order member same => listed ?_
      rw [held, Option.some.injEq] at same
      exact List.any_eq_true.mpr ⟨order, member, by simpa using same⟩

theorem Drains.of_planFilled (status : facts.aggregate.status = .entryVacuumCancelled)
    (planned : planFilled facts = .ok plan) (records : plan.event = some (fact, occurredAtMs)) :
    Drains facts.aggregate facts.entryVacuumId facts.positionSnapshot fact.val := by
  have flattens {price : ℚ} {reason : String} (planned : planFlatten facts price reason = .ok plan) :
      Drains facts.aggregate facts.entryVacuumId facts.positionSnapshot fact.val := by
    unfold planFlatten at planned
    dsimp only at planned
    split_ifs at planned
    obtain rfl := pure_eq_ok.mp planned
    obtain ⟨rfl, -⟩ := Prod.mk.inj (Option.some.inj records)
    exact .flattened _ status
  obtain ⟨price, -, planned⟩ := demand_bind_eq_ok.mp planned
  obtain ⟨risk, -, planned⟩ := bind_eq_ok.mp planned
  split_ifs at planned
  · obtain rfl := pure_eq_ok.mp planned
    obtain ⟨rfl, -⟩ := Prod.mk.inj (Option.some.inj records)
    exact .whole _ status
  · unfold planPartial at planned
    split at planned
    · split at planned
      · split_ifs at planned
        · unfold planRetained at planned
          dsimp only at planned
          split_ifs at planned
          obtain rfl := pure_eq_ok.mp planned
          obtain ⟨rfl, -⟩ := Prod.mk.inj (Option.some.inj records)
          exact .retained _ status
        · exact flattens planned
      · exact flattens planned
    · obtain rfl := pure_eq_ok.mp planned
      simp at records

/-- **What the plan of a step records.** -/
theorem Drains.of_plan (planned : planVacuumTicketDrain facts = .ok plan)
    (records : plan.event = some (fact, occurredAtMs)) :
    Drains facts.aggregate facts.entryVacuumId facts.positionSnapshot fact.val := by
  obtain ⟨-, planned⟩ := refuse_bind_eq_ok.mp planned
  split_ifs at planned with entry cancelled empty
  · exact of_planEntryOrder entry planned records
  · obtain rfl := pure_eq_ok.mp planned
    simp at records
  · rw [ne_eq, not_not] at cancelled
    unfold planUnfilled at planned
    split at planned
    · obtain rfl := pure_eq_ok.mp planned
      simp at records
    · rename_i snapshot read
      split_ifs at planned with contradicts
      · obtain rfl := pure_eq_ok.mp planned
        simp at records
      · obtain rfl := pure_eq_ok.mp planned
        obtain ⟨rfl, -⟩ := Prod.mk.inj (Option.some.inj records)
        rw [not_or, not_lt, not_not] at contradicts
        exact .unfilled snapshot cancelled read
          (le_antisymm contradicts.1 snapshot.quantityNonneg) contradicts.2
  · rw [ne_eq, not_not] at cancelled
    exact of_planFilled cancelled planned records

variable {kernel next : Kernel} {entryVacuumId : NonBlankText} {nowMs : ℤ} {reading : VacuumReading}

/-- What a step leaves: nothing new but an incident, a superseded first command, or the planned
event. -/
inductive Drained (kernel : Kernel) (entryVacuumId : NonBlankText) (nowMs : ℤ)
    (reading : VacuumReading) (next : Kernel) : Prop
  | waits (same : ∃ incidents, next = { kernel with
      openIncidents := incidents ++ kernel.openIncidents })
  | supersedes (command : ExchangeCommand) (commands : CommandTable)
      (listed : command ∈ kernel.commands.listForTicket) (mutation : isEntryMutation command = true)
      (prepared : command.status = .prepared)
      (updates : kernel.commands.markPreparedSuperseded ⟨command.kind, command.generation⟩ nowMs =
        .ok commands)
      (committed : kernel.commitResult ⟨.entryVacuumSuperseded {
        entryVacuumId := entryVacuumId
        commandId := command.commandId
        identities := ⟨entryVacuumId.not_blank, command.commandId.not_blank⟩ }, rfl⟩ nowMs
        commands = .ok next)
  | records (fact : PlainFact) (occurredAtMs : ℤ)
      (drains : Drains kernel.aggregate entryVacuumId reading.positionSnapshot fact.val)
      (dispatched : kernel.aggregate.status = .entryVacuumCancelPending →
        ¬ awaitsVacuumCancel kernel.commands.listForTicket entryVacuumId)
      (committed : kernel.commitResult fact occurredAtMs kernel.commands = .ok next)

theorem Drained.same : Drained kernel entryVacuumId nowMs reading kernel :=
  .waits ⟨[], rfl⟩

theorem mem_of_firstMax {α : Type} {less : α → α → Bool} {items : List α} {best : α}
    (found : firstMax less items = some best) : best ∈ items := by
  cases items with
  | nil => simp [firstMax] at found
  | cons first rest =>
    rw [firstMax, Option.some.injEq] at found
    subst found
    have kept : ∀ (others : List α) (start : α), others.foldl
        (fun best next => if less best next then next else best) start ∈ start :: others := by
      intro others
      induction others with
      | nil => simp
      | cons next others ih =>
        intro start
        rw [List.foldl_cons]
        split_ifs
        · exact List.mem_cons_of_mem _ (ih next)
        · rcases List.mem_cons.mp (ih start) with is | among
          · exact List.mem_cons.mpr (.inl is)
          · exact List.mem_cons_of_mem _ (List.mem_cons_of_mem _ among)
    exact kept rest first

/-- A plan of the step, recorded. -/
theorem Drained.of_plan {facts : VacuumTicketDrainFacts} {plan : VacuumTicketDrainPlan}
    (aggregate : facts.aggregate = kernel.aggregate) (vacuum : facts.entryVacuumId = entryVacuumId)
    (read : facts.positionSnapshot = reading.positionSnapshot)
    (dispatched : kernel.aggregate.status = .entryVacuumCancelPending →
      ¬ awaitsVacuumCancel kernel.commands.listForTicket entryVacuumId)
    (planned : planVacuumTicketDrain facts = .ok plan)
    (recorded : kernel.recordVacuumPlan plan = .ok next) :
    Drained kernel entryVacuumId nowMs reading next := by
  unfold Kernel.recordVacuumPlan at recorded
  split at recorded
  · obtain rfl := pure_eq_ok.mp recorded
    exact .same
  · rename_i fact occurredAtMs records
    have drains := Drains.of_plan planned records
    rw [aggregate, vacuum, read] at drains
    exact .records fact occurredAtMs drains dispatched recorded

/-- **What a step of a draining vacuum leaves.** -/
theorem Drained.of_drainEntryVacuum
    (returned : kernel.drainEntryVacuum entryVacuumId nowMs reading = .ok next) :
    Drained kernel entryVacuumId nowMs reading next := by
  obtain ⟨-, returned⟩ := refuse_bind_eq_ok.mp returned
  dsimp only at returned
  split_ifs at returned with early unknown waiting cancelled
  · unfold Kernel.supersedePreDispatch at returned
    split at returned
    · obtain rfl := pure_eq_ok.mp returned
      exact .same
    · rename_i command current
      split_ifs at returned with prepared
      · obtain ⟨commands, updates, committed⟩ := bind_eq_ok.mp returned
        have listed := List.mem_filter.mp (mem_of_firstMax current)
        exact .supersedes command commands listed.1 listed.2 prepared updates committed
      · obtain rfl := pure_eq_ok.mp returned
        exact .same
  · obtain rfl := pure_eq_ok.mp returned
    exact .same
  · obtain rfl := pure_eq_ok.mp returned
    exact .same
  · have dispatched : kernel.aggregate.status = .entryVacuumCancelPending →
        ¬ awaitsVacuumCancel kernel.commands.listForTicket entryVacuumId :=
      fun pending => absurd (cancelled.symm.trans pending) (by decide)
    unfold Kernel.drainCancelled at returned
    dsimp only at returned
    split_ifs at returned
    all_goals first
      | (obtain rfl := pure_eq_ok.mp returned
         first
         | exact .same
         | exact .waits ⟨["vacuum_post_absence_contradiction"], rfl⟩)
      | (obtain ⟨plan, planned, recorded⟩ := bind_eq_ok.mp returned
         exact .of_plan rfl rfl rfl dispatched planned recorded)
  · obtain ⟨plan, planned, recorded⟩ := bind_eq_ok.mp returned
    exact .of_plan rfl rfl rfl (fun pending => fun awaits => waiting ⟨pending, awaits⟩) planned
      recorded

end Recorded

end TradingKernel
