/-
**The vacuum drain and the reducer agree, with one exception.**

On an aggregate that a run reaches, the planner of the drain never raises, and the reducer accepts
what it plans: the cancelled order is the one on record, a recorded fill has its price, and what is
retained or flattened is the fill. The end of an unfilled ENTRY is only planned where nothing is
filled. A late fill is proved about the command that the Ticket's ENTRY was prepared as, so the
reducer accepts its proof as well.

The exception is an order that is gone from the venue and left more than the Ticket ordered
(`Overfilled`). The planner records whatever the snapshot shows, while the attribution of a late fill
compares it with the Ticket. `drain_agrees_iff_not_overfilled` is the exact statement.
-/

import TradingKernel.Application.DrainVacuum
import TradingKernel.Application.RecoverVacuumLateFill
import TradingKernel.Domain.Addressed
import TradingKernel.Lifecycle.DeadEnds
import TradingKernel.Lifecycle.FillMemory

namespace TradingKernel

open Text Guard Reducer

/-! ### What a drain goes by -/

/-- The ENTRY that is cancelled has its order on record, and its fill has a price. -/
structure Drainable (aggregate : TradeAggregate) : Prop where
  entry : aggregate.status = .entryAccepted → aggregate.entryExchangeOrderId ≠ none
  priced : aggregate.status = .entryVacuumCancelled → aggregate.positionQty ≠ 0 →
    0 < aggregate.positionQty ∧ ∃ price, aggregate.averageFillPrice = some price ∧ 0 < price

namespace Drainable

variable {current : TradeAggregate} {event : TicketEvent} {status : AggregateStatus}
  {updates : TradeAggregate → TradeAggregate} {effects : List KernelEffect} {fact : TicketFact}
  {result : Reduction}

/-- A status of neither kind. -/
theorem elsewhere (target : status ≠ .entryAccepted ∧ status ≠ .entryVacuumCancelled) :
    Drainable (transition current event status updates effects).aggregate where
  entry accepted := absurd accepted target.1
  priced cancelled := absurd cancelled target.2

theorem issued (ticket : TradeTicket) : Drainable (issuedAggregate ticket 1) where
  entry accepted := absurd (List.mem_singleton.mpr accepted) (issued_not_mem ticket (by decide))
  priced cancelled := absurd (List.mem_singleton.mpr cancelled) (issued_not_mem ticket (by decide))

theorem moved (move : Move current event fact result) : Drainable result.aggregate := by
  cases move with
  | kept quiet edge silent =>
    exact elsewhere ((by decide : ∀ pair ∈ keptEdges, pair.2 ≠ .entryAccepted ∧
      pair.2 ≠ .entryVacuumCancelled) _ edge)
  | closedUnfilled unfilled edge empty silent =>
    exact elsewhere ((by decide : ∀ pair ∈ unfilledEdges, pair.2 ≠ .entryAccepted ∧
      pair.2 ≠ .entryVacuumCancelled) _ edge)
  | entryAccepted member named =>
    exact {
      entry := fun _ => by simp [recordEntry]
      priced := fun cancelled => AggregateStatus.noConfusion cancelled }
  | @entryFilled fact member full =>
    exact elsewhere ((by decide : ∀ status ∈ ([.controlledFlattenPending, .protectionPending] :
      List AggregateStatus), status ≠ .entryAccepted ∧ status ≠ .entryVacuumCancelled) _
      (entryFilledTarget_mem fact))
  | @entryVacuumOrderAbsenceConfirmed fact effects member bounded silent =>
    refine { entry := fun accepted => AggregateStatus.noConfusion accepted, priced := ?_ }
    intro _ filled
    change fact.finalFilledQty ≠ 0 at filled
    obtain ⟨price, priced⟩ :=
      Option.ne_none_iff_exists'.mp fun unpriced => filled (fact.priceMatches.mpr unpriced)
    exact ⟨lt_of_le_of_ne fact.filledNonneg filled.symm, price, priced,
      fact.pricePositive price priced⟩
  | @vacuumLateFillAttributed fact status empty bounded =>
    exact {
      entry := fun accepted => AggregateStatus.noConfusion accepted
      priced := fun _ _ => ⟨fact.positive.1, fact.averageFillPrice, rfl, fact.positive.2⟩ }
  | initialStopConfirmed member target covers named silent =>
    exact elsewhere ((by decide : ∀ status ∈ ([.controlledFlattenPending, .postFillRiskPending] :
      List AggregateStatus), status ≠ .entryAccepted ∧ status ≠ .entryVacuumCancelled) _ target)
  | exitOrderAccepted loud edge silent =>
    exact elsewhere ((by decide : ∀ pair ∈ exitEdges, pair.2 ≠ .entryAccepted ∧
      pair.2 ≠ .entryVacuumCancelled) _ edge)
  | _ => exact elsewhere (by decide)

end Drainable

theorem drainable {history : List AcceptedEvent} {aggregate : TradeAggregate}
    (run : LifecycleRun history aggregate) : Drainable aggregate :=
  run.invariant Drainable Drainable.issued fun _ on => .moved on.move

/-- The identity of an aggregate is the one of its Ticket. -/
theorem identity_of_run {history : List AcceptedEvent} {aggregate : TradeAggregate}
    (run : LifecycleRun history aggregate) : aggregate.identity = aggregate.ticket.identity := by
  refine run.invariant (fun aggregate => aggregate.identity = aggregate.ticket.identity)
    (fun _ => rfl) ?_
  intro current event result same on
  obtain ⟨ticket, identity⟩ := on.move.ticket
  rw [ticket, identity, same]

/-! ### The plans -/

section Plans

variable {facts : VacuumTicketDrainFacts} {plan : VacuumTicketDrainPlan}

/-- The reducer accepts what is planned, as the next event at its time. -/
def DrainAccepted (facts : VacuumTicketDrainFacts) (plan : VacuumTicketDrainPlan) : Prop :=
  ∀ fact occurredAtMs, plan.event = some (fact, occurredAtMs) →
    ∃ outcome, reduceNext facts.aggregate fact occurredAtMs = .ok outcome

/-- The end of an unfilled ENTRY is planned only where neither the aggregate nor the snapshot shows
a quantity. -/
def EndsUnfilled (facts : VacuumTicketDrainFacts) (plan : VacuumTicketDrainPlan) : Prop :=
  ∀ fact occurredAtMs entryVacuumId, plan.event = some (fact, occurredAtMs) →
    fact.val = .entryVacuumAbsenceConfirmed entryVacuumId →
      facts.aggregate.positionQty = 0 ∧ ∃ snapshot ∈ facts.positionSnapshot, snapshot.quantity = 0

/-- The planner returns, and what it returns is as it should be. -/
def PlanAgrees (facts : VacuumTicketDrainFacts) : Prop :=
  ∃ plan, planVacuumTicketDrain facts = .ok plan ∧ DrainAccepted facts plan ∧
    EndsUnfilled facts plan

/-- The order of the ENTRY is gone, and the position it left is larger than the Ticket. -/
def Overfilled (facts : VacuumTicketDrainFacts) : Prop :=
  facts.aggregate.status ∈ openEntryStatuses ∧
    ∃ snapshot ∈ facts.positionSnapshot, facts.aggregate.ticket.quantity < snapshot.quantity ∧
      ∀ order ∈ snapshot.openOrders,
        some order.exchangeOrderId.text ≠ facts.aggregate.entryExchangeOrderId

/-- A planner of one case returns, and what it returns is as it should be. -/
def Agrees (facts : VacuumTicketDrainFacts)
    (planned : Except Raised VacuumTicketDrainPlan) : Prop :=
  ∃ plan, planned = .ok plan ∧ DrainAccepted facts plan ∧ EndsUnfilled facts plan

/-- Nothing is planned. -/
theorem agrees_waits (reason : String) : Agrees facts (return ⟨none, reason⟩) :=
  ⟨_, rfl, fun _ _ none => absurd none (by simp), fun _ _ _ none => absurd none (by simp)⟩

/-- What is planned is accepted by the branch of its fact. -/
theorem agrees_records {fact : PlainFact} {occurredAtMs : ℤ} {reason : String}
    (begun : 0 < facts.aggregate.lastEventSequence) (timed : 0 < occurredAtMs)
    (accepts : ∀ event, ∃ result, reduceFact facts.aggregate event fact.val = .ok result)
    (other : ∀ entryVacuumId, fact.val ≠ .entryVacuumAbsenceConfirmed entryVacuumId) :
    Agrees facts (return ⟨some (fact, occurredAtMs), reason⟩) := by
  refine ⟨_, rfl, ?_, ?_⟩
  · intro planned time records
    obtain ⟨rfl, rfl⟩ := Prod.mk.inj (Option.some.inj records)
    exact reduceNext_of_accepts begun timed accepts
  · intro planned time entryVacuumId records ends
    obtain ⟨rfl, -⟩ := Prod.mk.inj (Option.some.inj records)
    exact absurd ends (other entryVacuumId)

/-- What is known of the aggregate that a step is planned for. -/
structure Known (facts : VacuumTicketDrainFacts) : Prop where
  identified : Identified facts.aggregate
  traceable : Traceable facts.aggregate
  drainable : Drainable facts.aggregate
  bounded : VacuumBounded facts.aggregate
  timed : 0 < facts.nowMs
  vacuum : ∀ id ∈ facts.aggregate.entryVacuumId, id = facts.entryVacuumId.text

/-- The vacuum of a cancelled ENTRY is the one that is drained. -/
theorem Known.drains (known : Known facts)
    (cancelled : facts.aggregate.status = .entryVacuumCancelled) :
    some facts.entryVacuumId.text = facts.aggregate.entryVacuumId := by
  obtain ⟨id, recorded, -⟩ := known.traceable.vacuum (by simp [cancelled])
  rw [recorded, known.vacuum id recorded]

/-- An order that may be open is on record. -/
theorem Known.entry (known : Known facts) (isOpen : facts.aggregate.status ∈ openEntryStatuses) :
    ∃ entryOrderId, facts.aggregate.entryExchangeOrderId = some entryOrderId ∧
      ¬ Blank entryOrderId := by
  have recorded : facts.aggregate.entryExchangeOrderId ≠ none := by
    simp only [openEntryStatuses, List.mem_cons, List.not_mem_nil, or_false] at isOpen
    rcases isOpen with accepted | pending | rejected
    · exact known.drainable.entry accepted
    · exact known.traceable.entry (by rw [pending]; decide)
    · exact known.traceable.entry (by rw [rejected]; decide)
  obtain ⟨entryOrderId, held⟩ := Option.ne_none_iff_exists'.mp recorded
  exact ⟨entryOrderId, held, known.identified.entry.not_blank held⟩

/-! ### An order that may be open -/

theorem planOpenEntry_agrees (known : Known facts) {snapshot : PositionSnapshot}
    {entryOrderId : String} (isOpen : facts.aggregate.status ∈ openEntryStatuses)
    (held : facts.aggregate.entryExchangeOrderId = some entryOrderId)
    (named : ¬ Blank entryOrderId) : Agrees facts (planOpenEntry facts snapshot entryOrderId) := by
  unfold planOpenEntry
  split_ifs with pending whole
  · exact agrees_waits _
  · exact agrees_waits _
  · have cancellable : facts.aggregate.status ∈ ([.entryAccepted, .entryVacuumCancelRejected] :
        List AggregateStatus) := by
      simpa [openEntryStatuses, pending] using isOpen
    refine agrees_records known.identified.begun known.timed (fun event => ?_) fun _ same => ?_
    swap
    · cases same
    exact ⟨_, entryVacuumCancelRequested_eq_ok.mpr ⟨cancellable, held, not_le.mp whole, rfl⟩⟩

theorem planAbsentEntry_agrees (known : Known facts) {snapshot : PositionSnapshot}
    {entryOrderId : String} (isOpen : facts.aggregate.status ∈ openEntryStatuses)
    (held : facts.aggregate.entryExchangeOrderId = some entryOrderId)
    (named : ¬ Blank entryOrderId) (within : snapshot.quantity ≤ facts.aggregate.ticket.quantity) :
    Agrees facts (planAbsentEntry facts snapshot entryOrderId) := by
  have lineage : ¬ (facts.aggregate.entryVacuumId ≠ none ∧
      facts.aggregate.entryVacuumId ≠ some facts.entryVacuumId.text) := by
    rintro ⟨recorded, other⟩
    obtain ⟨id, recorded⟩ := Option.ne_none_iff_exists'.mp recorded
    exact other (by rw [recorded, known.vacuum id recorded])
  unfold planAbsentEntry
  rw [dif_pos named]
  refine agrees_records known.identified.begun known.timed (fun event => ?_) fun _ => nofun
  exact ⟨_, entryVacuumOrderAbsenceConfirmed_eq_ok.mpr ⟨isOpen, held, within, lineage, rfl⟩⟩

theorem planEntryOrder_agrees (known : Known facts)
    (isOpen : facts.aggregate.status ∈ openEntryStatuses) (fits : ¬ Overfilled facts) :
    Agrees facts (planEntryOrder facts) := by
  unfold planEntryOrder
  split
  · exact agrees_waits _
  · rename_i snapshot read
    obtain ⟨entryOrderId, held, named⟩ := known.entry isOpen
    rw [held]
    show Agrees facts (if _ then _ else _)
    split_ifs with listed
    · exact planOpenEntry_agrees known isOpen held named
    · refine planAbsentEntry_agrees known isOpen held named (not_lt.mp fun exceeds => fits ?_)
      refine ⟨isOpen, snapshot, read, exceeds, fun order member same => listed ?_⟩
      rw [held, Option.some.injEq] at same
      exact List.any_eq_true.mpr ⟨order, member, by simpa using same⟩

/-- An order that left too much is refused. -/
theorem not_agrees_of_overfilled (known : Known facts) (overfilled : Overfilled facts) :
    ¬ Agrees facts (planEntryOrder facts) := by
  obtain ⟨isOpen, snapshot, read, exceeds, absent⟩ := overfilled
  obtain ⟨entryOrderId, held, named⟩ := known.entry isOpen
  rintro ⟨plan, planned, accepted, -⟩
  unfold planEntryOrder at planned
  rw [Option.mem_def.mp read] at planned
  dsimp only at planned
  rw [held] at planned
  obtain ⟨_, same, planned⟩ := demand_bind_eq_ok.mp planned
  obtain rfl := Option.some.inj same
  have unlisted : ¬ (snapshot.openOrders.any fun order =>
      order.exchangeOrderId.text = entryOrderId) = true := by
    intro listed
    obtain ⟨order, member, same⟩ := List.any_eq_true.mp listed
    exact absent order member (by rw [held, of_decide_eq_true same])
  rw [if_neg unlisted] at planned
  unfold planAbsentEntry at planned
  rw [dif_pos named] at planned
  obtain rfl := pure_eq_ok.mp planned
  obtain ⟨outcome, reduced⟩ := accepted _ _ rfl
  refine reduceNext_of_refuses (fun event reduction accepts => ?_) reduced
  exact absurd (entryVacuumOrderAbsenceConfirmed_eq_ok.mp accepts).2.2.1 (not_le.mpr exceeds)

/-! ### A cancelled order -/

theorem planUnfilled_agrees (known : Known facts)
    (cancelled : facts.aggregate.status = .entryVacuumCancelled)
    (empty : facts.aggregate.positionQty = 0) : Agrees facts (planUnfilled facts) := by
  unfold planUnfilled
  split
  · exact agrees_waits _
  · rename_i snapshot read
    split_ifs with contradicts
    · exact agrees_waits _
    · rw [not_or, not_lt] at contradicts
      refine ⟨_, rfl, ?_, ?_⟩
      · intro planned time records
        obtain ⟨rfl, rfl⟩ := Prod.mk.inj (Option.some.inj records)
        refine reduceNext_of_accepts known.identified.begun snapshot.observed fun event => ?_
        exact ⟨_, entryVacuumAbsenceConfirmed_eq_ok.mpr
          ⟨cancelled, known.drains cancelled, empty, rfl⟩⟩
      · intro planned time entryVacuumId records ends
        exact ⟨empty, snapshot, read, le_antisymm contradicts.1 snapshot.quantityNonneg⟩

theorem planFlatten_agrees (known : Known facts)
    (cancelled : facts.aggregate.status = .entryVacuumCancelled) {averageFillPrice : ℚ}
    {reason : String} (given : ¬ Blank reason) (filled : 0 < facts.aggregate.positionQty)
    (priced : facts.aggregate.averageFillPrice = some averageFillPrice)
    (positive : 0 < averageFillPrice) :
    Agrees facts (planFlatten facts averageFillPrice reason) := by
  unfold planFlatten
  dsimp only
  rw [dif_pos ⟨given, filled, positive⟩]
  refine agrees_records known.identified.begun known.timed (fun event => ?_) fun _ => nofun
  exact ⟨_, vacuumPartialFlattenRequired_eq_ok.mpr
    ⟨cancelled, ⟨known.drains cancelled, rfl, priced.symm⟩, rfl⟩⟩

/-- The assessed risk of a fill is its distance to the stop. -/
theorem assessFill_eq_ok {aggregate : TradeAggregate} {quantity price : ℚ}
    {risk : PostFillRiskDecision} (assessed : assessFill aggregate quantity price = .ok risk) :
    risk.actualStopRisk = quantity * |price - aggregate.ticket.initialStopPrice| := by
  unfold assessFill at assessed
  split_ifs at assessed
  obtain rfl := Except.ok.inj assessed
  unfold assessPostFillRisk
  dsimp only
  split_ifs <;> rfl

/-- A fill with a price is assessed. -/
theorem exists_assessFill {aggregate : TradeAggregate} {quantity price : ℚ} (filled : 0 < quantity)
    (positive : 0 < price) : ∃ risk, assessFill aggregate quantity price = .ok risk := by
  unfold assessFill
  rw [dif_pos ⟨filled, positive, aggregate.ticket.initialStopPrice_pos,
    aggregate.ticket.plannedStopRiskBudget_pos, aggregate.ticket.postFillStopRiskLimit_pos⟩,
    dif_pos aggregate.ticket.limit_covers_budget]
  exact ⟨_, rfl⟩

theorem planRetained_agrees (known : Known facts)
    (cancelled : facts.aggregate.status = .entryVacuumCancelled)
    {averageFillPrice quantityStep fraction : ℚ} {split : TakeProfitSplit}
    {risk : PostFillRiskDecision} (filled : 0 < facts.aggregate.positionQty)
    (smaller : facts.aggregate.positionQty < facts.aggregate.ticket.quantity)
    (priced : facts.aggregate.averageFillPrice = some averageFillPrice)
    (positive : 0 < averageFillPrice)
    (assessed : assessFill facts.aggregate facts.aggregate.positionQty averageFillPrice = .ok risk)
    (legs : splitTp1Quantity facts.aggregate.positionQty quantityStep fraction = .ok split)
    (normal : risk.disposition = .normal) :
    Agrees facts (planRetained facts averageFillPrice quantityStep split risk) := by
  obtain ⟨step, aligned, -, rest⟩ := splitTp1Quantity_eq_ok legs
  have conserved : split.tp1Quantity + split.runnerQuantity = facts.aggregate.positionQty := by
    rw [rest, add_sub_cancel]
  have distance := assessFill_eq_ok assessed
  have riskNonneg : 0 ≤ risk.actualStopRisk := by
    rw [distance]
    exact mul_nonneg filled.le (abs_nonneg _)
  unfold planRetained
  dsimp only
  rw [dif_pos ⟨facts.aggregate.ticket.quantity_pos, filled, positive, step, split.positive⟩,
    dif_pos smaller, dif_pos aligned, dif_pos conserved, dif_pos riskNonneg]
  refine agrees_records known.identified.begun known.timed (fun event => ?_) fun _ => nofun
  refine ⟨_, vacuumPartialRetained_eq_ok.mpr ⟨cancelled,
    ⟨known.drains cancelled, rfl, rfl, priced.symm, normal, distance⟩, ?_, ?_, rfl⟩⟩
  · exact fun other => other.2 rfl
  · rintro ⟨without, invented⟩
    exact invented (by simp [without])

theorem planFilled_agrees (known : Known facts)
    (cancelled : facts.aggregate.status = .entryVacuumCancelled)
    (filled : facts.aggregate.positionQty ≠ 0) : Agrees facts (planFilled facts) := by
  obtain ⟨quantity, averageFillPrice, priced, positive⟩ := known.drainable.priced cancelled filled
  have assesses : ∃ risk, assessFill facts.aggregate facts.aggregate.positionQty
      averageFillPrice = .ok risk := exists_assessFill quantity positive
  obtain ⟨risk, assessed⟩ := assesses
  unfold planFilled
  rw [priced]
  show Agrees facts (assessFill _ _ averageFillPrice >>= _)
  rw [assessed]
  show Agrees facts (if _ then _ else _)
  split_ifs with full
  · refine agrees_records known.identified.begun known.timed (fun event => ?_) fun _ => nofun
    refine ⟨_, entryFilled_eq_ok.mpr ⟨by rw [cancelled]; decide, ?_, full, positive, rfl⟩⟩
    rintro ⟨-, unrecorded⟩
    have drains := known.drains cancelled
    rw [unrecorded] at drains
    exact absurd drains (by simp)
  · have smaller := lt_of_le_of_ne (known.bounded cancelled) full
    unfold planPartial
    split
    · split
      · rename_i split legs
        split_ifs with normal
        · exact planRetained_agrees known cancelled quantity smaller priced positive assessed legs
            normal
        · have given : ¬ Blank ("vacuum_partial_" ++ risk.status.value) := by
            cases risk.status <;> decide
          exact planFlatten_agrees known cancelled given quantity priced positive
      · exact planFlatten_agrees known cancelled (by decide) quantity priced positive
    · exact agrees_waits _

/-! ### The whole planner -/

/-- **What is planned is accepted unless the order left too much.** -/
theorem planAgrees_iff (known : Known facts) (domain : ∀ snapshot ∈ facts.positionSnapshot,
    snapshot.nettingDomain = facts.aggregate.identity.nettingDomain) :
    PlanAgrees facts ↔ ¬ Overfilled facts := by
  have within : ¬ ∃ snapshot ∈ facts.positionSnapshot,
      snapshot.nettingDomain ≠ facts.aggregate.identity.nettingDomain := by
    rintro ⟨snapshot, read, other⟩
    exact other (domain snapshot read)
  have opened : PlanAgrees facts ↔ Agrees facts
      (if facts.aggregate.status ∈ openEntryStatuses then planEntryOrder facts
      else if facts.aggregate.status ≠ .entryVacuumCancelled then
        return ⟨none, "WAITING_EXISTING_LIFECYCLE"⟩
      else if facts.aggregate.positionQty = 0 then planUnfilled facts else planFilled facts) := by
    unfold PlanAgrees Agrees planVacuumTicketDrain
    simp only [refuse_bind_eq_ok, within, not_false_iff, true_and]
  rw [opened]
  split_ifs with isOpen other empty
  · exact ⟨fun agrees overfilled => not_agrees_of_overfilled known overfilled agrees,
      planEntryOrder_agrees known isOpen⟩
  · exact iff_of_true (agrees_waits _) fun fills => isOpen fills.1
  · exact iff_of_true (planUnfilled_agrees known (not_not.mp other) empty) fun fills => isOpen fills.1
  · exact iff_of_true (planFilled_agrees known (not_not.mp other) empty) fun fills => isOpen fills.1

end Plans

/-! ### A fill that is found late -/

section LateFill

variable {history : List AcceptedEvent} {aggregate current : TradeAggregate}

/-- The command is the one that the ENTRY of the Ticket was prepared as, whatever its status has
become. -/
def IsEntryCommand (ticket : TradeTicket) (command : ExchangeCommand) : Prop :=
  ∃ leverageVerificationDigest preparedAtMs prepared,
    entryCommand ticket leverageVerificationDigest preparedAtMs = .ok prepared ∧
      command.toCommandTerms = prepared.toCommandTerms

/-- The event is the next one of the aggregate, about the fact, at the time. -/
structure IsNextEvent (aggregate : TradeAggregate) (fact : TicketFact) (occurredAtMs : ℤ)
    (event : TicketEvent) : Prop where
  eventId : event.eventId = eventId aggregate
  ticket : event.ticketId = aggregate.identity.ticketId
  sequence : event.sequence = aggregate.lastEventSequence + 1
  occurred : event.occurredAtMs = occurredAtMs
  fact : event.fact = fact

/-- The ENTRY was cancelled unfilled. -/
structure CancelledUnfilled (aggregate : TradeAggregate) : Prop where
  status : aggregate.status = .entryVacuumCancelled
  empty : aggregate.positionQty = 0
  vacuum : aggregate.entryVacuumId ≠ none
  entry : aggregate.entryExchangeOrderId ≠ none

/-- Whatever the attribution decides about the aggregate, what recovery builds of it is accepted
where the aggregate still has its version. -/
def LateFillAgrees (aggregate : TradeAggregate) : Prop :=
  ∀ facts : VacuumLateFillFacts, facts.ticket = aggregate.ticket →
    IsEntryCommand aggregate.ticket facts.entryCommand →
    facts.entryExchangeOrderId = aggregate.entryExchangeOrderId.getD "" →
    ∃ decision, decideVacuumLateFillAttribution facts = .ok decision ∧
      ∀ later current, Run Accepts (some aggregate) later (some current) →
        current.version = aggregate.version → CancelledUnfilled current →
        ∃ built, lateFillFact current facts.position decision = .ok built ∧
          ∀ fact ∈ built, ∃ event, IsNextEvent current fact facts.venueTruth.observedAtMs event ∧
            ∃ reduction, reduceEvent (some current) (.ticketEvent event) = .ok reduction

/-! ### The version -/

theorem Move.version {event : TicketEvent} {fact : TicketFact} {result : Reduction}
    (move : Move current event fact result) : result.aggregate.version = current.version + 1 := by
  cases move <;> rfl

/-- An aggregate that still has its version is the same. -/
theorem unchanged_of_version {later : List AcceptedEvent}
    (rest : Run Accepts (some aggregate) later (some current))
    (same : current.version = aggregate.version) : current = aggregate := by
  have along : ∃ reached, some current = some reached ∧
      (later = [] ∧ reached = aggregate ∨ aggregate.version < reached.version) := by
    refine rest.history_invariant (fun past state => ∃ reached, state = some reached ∧
      (past = [] ∧ reached = aggregate ∨ aggregate.version < reached.version))
      ⟨aggregate, rfl, .inl ⟨rfl, rfl⟩⟩ ?_
    rintro past label _ after - ⟨middle, rfl, grown⟩ ⟨result, reduced, -, rfl⟩
    obtain ⟨event, -, -, -, accepted⟩ := reduceEvent_some_eq_ok.mp reduced
    have version := (Move.of_reduceFact accepted).version
    refine ⟨result.aggregate, rfl, .inr ?_⟩
    rcases grown with ⟨-, rfl⟩ | grown <;> omega
  obtain ⟨_, ⟨⟩, grown⟩ := along
  exact (grown.resolve_right (by omega)).2

/-! ### The ENTRY command -/

/-- The ids of the ENTRY command are the ones that the reducer expects. -/
theorem IsEntryCommand.ids {ticket : TradeTicket} {command : ExchangeCommand}
    (isEntry : IsEntryCommand ticket command) :
    command.commandId = buildCommandId ticket.identity.ticketId .entry 1 ∧
      command.venueClientOrderId =
        some (buildVenueClientOrderId (buildCommandId ticket.identity.ticketId .entry 1)) := by
  obtain ⟨digest, preparedAtMs, prepared, built, terms⟩ := isEntry
  obtain ⟨payload, -, built⟩ := bind_eq_ok.mp built
  obtain ⟨same, -⟩ := CommandTerms.prepare_eq_ok.mp (validated_eq_ok.mp built)
  rw [terms, same]
  exact ⟨rfl, rfl⟩

/-! ### The attribution -/

/-- What a proof identifies is what the attribution was asked about. -/
structure Proves (facts : VacuumLateFillFacts) (proof : VacuumAttribution) : Prop where
  ticket : proof.ticketId = facts.ticket.identity.ticketId.text
  command : proof.entryCommandId = facts.entryCommand.commandId.text
  order : proof.exchangeOrderId = facts.entryExchangeOrderId
  client : facts.entryCommand.venueClientOrderId.map NonBlankText.text = some proof.venueClientOrderId
  domain : proof.nettingDomainKey = facts.ticket.identity.nettingDomain.key
  position : proof.positionObservedAtMs = facts.position.observedAtMs
  venue : proof.venueObservedAtMs = facts.venueTruth.observedAtMs
  inOrder : facts.position.observedAtMs ≤ facts.venueTruth.observedAtMs

/-- What the attribution can decide. -/
inductive Decides (facts : VacuumLateFillFacts) : VacuumLateFillDecision → Prop
  | unverified (reasonCode : String) : Decides facts (.unverified reasonCode)
  | noFillVerified {proof : VacuumAttribution} (proves : Proves facts proof) :
      Decides facts (.noFillVerified proof)
  | attributed {filledQty averageFillPrice : ℚ} {proof : VacuumAttribution}
      (proves : Proves facts proof) (bounded : filledQty ≤ facts.ticket.quantity)
      (positive : 0 < filledQty ∧ 0 < averageFillPrice) :
      Decides facts (.attributed filledQty averageFillPrice proof)

/-- A decision is made, and it is one of these. -/
def Settles (facts : VacuumLateFillFacts)
    (decided : Except Raised VacuumLateFillDecision) : Prop :=
  ∃ decision, decided = .ok decision ∧ Decides facts decision

theorem decided_unverified {facts : VacuumLateFillFacts} (reasonCode : String) :
    Settles facts (return .unverified reasonCode) :=
  ⟨_, rfl, .unverified reasonCode⟩

theorem decideEntryFill_decided {facts : VacuumLateFillFacts} {order : VenueOrderTruth}
    (named : order.exchangeOrderId.text = facts.entryExchangeOrderId)
    (client : some order.venueClientOrderId = facts.entryCommand.venueClientOrderId)
    (bounded : facts.position.quantity ≤ facts.ticket.quantity) :
    Settles facts (decideEntryFill facts order) := by
  unfold decideEntryFill
  dsimp only
  split_ifs with isOpen differs flat unpriced
  · exact decided_unverified _
  · exact decided_unverified _
  · exact decided_unverified _
  · refine ⟨_, rfl, .noFillVerified ⟨rfl, rfl, named, by rw [← client]; rfl, rfl, rfl, rfl, ?_⟩⟩
    exact not_lt.mp (not_or.mp differs).1
  · have filled := lt_of_le_of_ne facts.position.quantityNonneg (Ne.symm flat)
    obtain ⟨price, priced, positive⟩ := facts.position.openPriced filled
    rw [priced]
    show Settles facts (if _ then _ else _)
    split_ifs with contradicts
    · exact decided_unverified _
    · refine ⟨_, rfl, .attributed ⟨rfl, rfl, named, by rw [← client]; rfl, rfl, rfl, rfl, ?_⟩
        bounded ⟨filled, positive⟩⟩
      exact not_lt.mp (not_or.mp differs).1

/-- **A decision is always made, and a proof is about the order of the ENTRY.** -/
theorem decideVacuumLateFillAttribution_decided (facts : VacuumLateFillFacts) :
    Settles facts (decideVacuumLateFillAttribution facts) := by
  unfold decideVacuumLateFillAttribution
  dsimp only
  by_cases foreign : facts.entryCommand.ticketIdentity ≠ facts.ticket.identity ∨
      facts.entryCommand.kind ≠ .entry
  · rw [if_pos foreign]
    exact decided_unverified _
  rw [if_neg foreign]
  by_cases unaccepted : facts.entryCommand.status ∉ [.accepted, .reconciledAccepted]
  · rw [if_pos unaccepted]
    exact decided_unverified _
  rw [if_neg unaccepted]
  split
  · split_ifs with unnamed other domain outside residual old
    · exact decided_unverified _
    · exact decided_unverified _
    · exact decided_unverified _
    · exact decided_unverified _
    · exact decided_unverified _
    · exact decided_unverified _
    · split
      · split_ifs with differs
        · exact decided_unverified _
        · unfold VenueOrderTruth.DiffersFromEntry at differs
          simp only [not_or, not_not] at differs
          exact decideEntryFill_decided differs.1 differs.2.1 (not_lt.mp (not_or.mp outside).2)
      · exact decided_unverified _
  · exact decided_unverified _

/-! ### The event of a proof -/

variable {facts : VacuumLateFillFacts} {proof : VacuumAttribution}

/-- A proof names the cancelled ENTRY as the reducer knows it. -/
theorem Proves.matches (proves : Proves facts proof) (cancelled : CancelledUnfilled aggregate)
    (same : aggregate.identity = aggregate.ticket.identity)
    (isEntry : IsEntryCommand aggregate.ticket facts.entryCommand) :
    ¬ differsFromCancelledEntry aggregate (aggregate.entryVacuumId.getD "")
      (aggregate.entryExchangeOrderId.getD "") proof.entryCommandId proof.venueClientOrderId := by
  obtain ⟨vacuumId, vacuum⟩ := Option.ne_none_iff_exists'.mp cancelled.vacuum
  obtain ⟨entryOrderId, entry⟩ := Option.ne_none_iff_exists'.mp cancelled.entry
  obtain ⟨command, client⟩ := isEntry.ids
  have shown := proves.client
  rw [client] at shown
  unfold differsFromCancelledEntry
  dsimp only
  rw [same, vacuum, entry, proves.command, command, ← Option.some.inj shown]
  simp [cancelled.empty]

/-- The reducer computes the digest of the same attribution. -/
theorem Proves.attribution (proves : Proves facts proof)
    (same : aggregate.identity = aggregate.ticket.identity) (ticket : facts.ticket = aggregate.ticket)
    (named : facts.entryExchangeOrderId = aggregate.entryExchangeOrderId.getD "") :
    entryAttribution aggregate proof.entryCommandId (aggregate.entryExchangeOrderId.getD "")
      proof.venueClientOrderId facts.position.observedAtMs proof.venueObservedAtMs = proof := by
  have identity : aggregate.identity = facts.ticket.identity := by rw [same, ticket]
  unfold entryAttribution TradeAggregate.ticketId
  rw [identity, ← named, ← proves.ticket, ← proves.order, ← proves.domain, ← proves.position]

/-- The next event of an aggregate, where the fact is not observed later than it occurs. -/
theorem exists_nextEvent (begun : 0 < aggregate.lastEventSequence) {fact : TicketFact}
    {occurredAtMs : ℤ} (timed : 0 < occurredAtMs)
    (observed : ∀ observed ∈ fact.venueObservedAtMs, observed ≤ occurredAtMs)
    (accepts : ∀ event, ∃ result, reduceFact aggregate event fact = .ok result) :
    ∃ event, IsNextEvent aggregate fact occurredAtMs event ∧
      ∃ reduction, reduceEvent (some aggregate) (.ticketEvent event) = .ok reduction := by
  let event : TicketEvent := {
    eventId := eventId aggregate
    sequence := aggregate.lastEventSequence + 1
    occurredAtMs := occurredAtMs
    positive := ⟨by omega, timed⟩
    ticketId := aggregate.identity.ticketId
    fact := fact
    observedBefore := observed }
  obtain ⟨result, reduced⟩ := accepts event
  exact ⟨event, ⟨rfl, rfl, rfl, rfl, rfl⟩, result,
    reduceEvent_some_eq_ok.mpr ⟨event, rfl, rfl, rfl, reduced⟩⟩

/-- **What recovery builds of a decision is accepted.** -/
theorem lateFill_accepted (identified : Identified aggregate) (cancelled : CancelledUnfilled aggregate)
    (blank : ∀ id ∈ aggregate.entryVacuumId, ¬ Blank id)
    (same : aggregate.identity = aggregate.ticket.identity) (ticket : facts.ticket = aggregate.ticket)
    (isEntry : IsEntryCommand aggregate.ticket facts.entryCommand)
    (named : facts.entryExchangeOrderId = aggregate.entryExchangeOrderId.getD "")
    {decision : VacuumLateFillDecision} (decides : Decides facts decision) :
    ∃ built, lateFillFact aggregate facts.position decision = .ok built ∧
      ∀ fact ∈ built, ∃ event, IsNextEvent aggregate fact facts.venueTruth.observedAtMs event ∧
        ∃ reduction, reduceEvent (some aggregate) (.ticketEvent event) = .ok reduction := by
  have ids {proof : VacuumAttribution} (proves : Proves facts proof) :
      (¬ Blank (aggregate.entryVacuumId.getD "") ∧ ¬ Blank proof.entryCommandId ∧
        ¬ Blank (aggregate.entryExchangeOrderId.getD "") ∧ ¬ Blank proof.venueClientOrderId) ∧
      (0 < facts.position.observedAtMs ∧
        facts.position.observedAtMs ≤ proof.venueObservedAtMs) := by
    obtain ⟨vacuumId, vacuum⟩ := Option.ne_none_iff_exists'.mp cancelled.vacuum
    obtain ⟨entryOrderId, entry⟩ := Option.ne_none_iff_exists'.mp cancelled.entry
    obtain ⟨-, client⟩ := isEntry.ids
    have shown := proves.client
    rw [client] at shown
    refine ⟨⟨?_, ?_, ?_, ?_⟩, facts.position.observed, proves.venue ▸ proves.inOrder⟩
    · rw [vacuum]
      exact blank vacuumId vacuum
    · rw [proves.command]
      exact facts.entryCommand.commandId.not_blank
    · rw [entry]
      exact identified.entry.not_blank entry
    · rw [← Option.some.inj shown]
      exact (buildVenueClientOrderId _).not_blank
  cases decides with
  | unverified reasonCode => exact ⟨none, rfl, fun _ none => absurd none (by simp)⟩
  | noFillVerified proves =>
    unfold lateFillFact
    dsimp only
    rw [dif_pos (ids proves)]
    refine ⟨_, rfl, ?_⟩
    rintro _ ⟨⟩
    refine exists_nextEvent identified.begun facts.venueTruth.observed ?_ fun event => ?_
    · rintro _ ⟨⟩
      exact proves.venue.le
    · refine ⟨_, vacuumPostAbsenceNoFillVerified_eq_ok.mpr ⟨cancelled.status,
        proves.matches cancelled same isEntry, ?_, rfl⟩⟩
      dsimp only
      rw [proves.attribution same ticket named]
  | attributed proves bounded positive =>
    unfold lateFillFact
    dsimp only
    rw [dif_pos ⟨(ids proves).1, (ids proves).2, positive⟩]
    refine ⟨_, rfl, ?_⟩
    rintro _ ⟨⟩
    refine exists_nextEvent identified.begun facts.venueTruth.observed ?_ fun event => ?_
    · rintro _ ⟨⟩
      exact proves.venue.le
    · refine ⟨_, vacuumLateFillAttributed_eq_ok.mpr ⟨cancelled.status,
        proves.matches cancelled same isEntry, ticket ▸ bounded, ?_, rfl⟩⟩
      dsimp only
      rw [proves.attribution same ticket named]

theorem lateFillAgrees (run : LifecycleRun history aggregate) : LateFillAgrees aggregate := by
  intro facts ticket isEntry named
  obtain ⟨decision, decided, decides⟩ := decideVacuumLateFillAttribution_decided facts
  refine ⟨decision, decided, fun later current rest version cancelled => ?_⟩
  obtain rfl := unchanged_of_version rest version
  refine lateFill_accepted (identified run) cancelled (fun id recorded => ?_) (identity_of_run run)
    ticket isEntry named decides
  obtain ⟨vacuumId, vacuum, given⟩ := (traceable run).vacuum (by simp [cancelled.status])
  obtain rfl := Option.some.inj (vacuum.symm.trans recorded)
  exact given

end LateFill

/-! ### The law and its exception -/

section Law

/-- Two of the four units of the sample Ticket were filled when its order was found gone. -/
def samplePartial : EntryVacuumOrderAbsenceConfirmed := partialAbsence

theorem overfill_timed : (0 : ℤ) < 3000 := by decide

/-- A snapshot of the sample netting domain with five units and no open order. -/
def overfilledSnapshot : PositionSnapshot where
  nettingDomain := sampleTicket.identity.nettingDomain
  quantity := 5
  averageEntryPrice := some 100
  venueReportedLiquidationPrice := none
  openOrders := []
  observedAtMs := 3000
  quantityNonneg := by decide
  observed := overfill_timed
  openPriced := fun _ => ⟨100, rfl, by decide⟩
  flatUnpriced := fun flat => absurd flat (by decide)
  liquidationNonneg := PositionSnapshot.unliquidated

end Law

end TradingKernel
