/-
**The reconciliation planner and the reducer agree, with one exception.**

Both keep a table of statuses. On an aggregate that a run reaches, whatever the planner decides is
accepted by the branch of the reducer it is meant for: the stop of an open position is known, the ids
are real, and a failed cancel names its order. The exception is a flat position whose stress
assessment is pending: the planner takes it for an external flat, and the reducer does not.
`reconcile_returns_iff` is the exact statement.
-/

import TradingKernel.Application.ReconcileTicket
import TradingKernel.Lifecycle.Coverage
import TradingKernel.Lifecycle.OrderNames

namespace TradingKernel

open Text Guard Reducer

section Plans

variable {view : ReconcileView} {aggregate : TradeAggregate} {snapshot : PositionSnapshot}
  {plan : ReconcilePlan}

/-- The reducer accepts what the plan records, in every event. -/
def PlanAccepted (aggregate : TradeAggregate) (plan : ReconcilePlan) : Prop :=
  ∀ fact ∈ plan.fact, ∀ event, ∃ reduction, reduceFact aggregate event fact.val = .ok reduction

theorem planAccepted_none {status : ReconcileTicketStatus} :
    PlanAccepted aggregate ⟨status, none⟩ := fun _ none => absurd none (by simp)

theorem planAccepted_some {status : ReconcileTicketStatus} {fact : PlainFact} :
    PlanAccepted aggregate ⟨status, some fact⟩ ↔
      ∀ event, ∃ reduction, reduceFact aggregate event fact.val = .ok reduction := by
  constructor
  · exact fun accepted => accepted fact rfl
  · rintro accepted _ ⟨⟩
    exact accepted

/-! ### From plans to the use case -/

/-- An accepted plan is recorded. -/
theorem records_of_plan (snapshot : PositionSnapshot) (begun : 0 < aggregate.lastEventSequence)
    (accepted : PlanAccepted aggregate plan) :
    ∃ outcome, recordPlan aggregate snapshot plan = .ok outcome := by
  unfold recordPlan
  cases records : plan.fact with
  | none => exact ⟨_, rfl⟩
  | some fact =>
    obtain ⟨recorded, reduced⟩ :=
      reduceNext_of_accepts begun snapshot.observed (accepted fact records)
    exact ⟨_, bind_eq_ok.mpr ⟨recorded, reduced, rfl⟩⟩

/-- The use case returns what a plan records. -/
theorem returns_of_plan (domain : snapshot.nettingDomain = aggregate.identity.nettingDomain)
    (begun : 0 < aggregate.lastEventSequence)
    (planned : ∃ plan, planReconcile view aggregate snapshot = .ok plan ∧
      PlanAccepted aggregate plan) :
    ∃ outcome, reconcileTicket view aggregate snapshot = .ok outcome := by
  simp only [reconcileTicket, refuse_bind_eq_ok, domain, ne_eq, not_true_eq_false,
    not_false_iff, true_and]
  split_ifs with late
  · exact ⟨_, rfl⟩
  · obtain ⟨plan, planned, accepted⟩ := planned
    obtain ⟨outcome, recorded⟩ := records_of_plan snapshot begun accepted
    exact ⟨outcome, bind_eq_ok.mpr ⟨plan, planned, recorded⟩⟩

/-! ### The plans of the single statuses -/

theorem planEntryAccepted_accepted (status : aggregate.status = .entryAccepted) :
    ∃ plan, planEntryAccepted aggregate snapshot = .ok plan ∧ PlanAccepted aggregate plan := by
  have awaiting : aggregate.status ∈ ([.entryPending, .leverageConfirmed, .entryAccepted] :
      List AggregateStatus) := by
    rw [status]
    decide
  unfold planEntryAccepted
  split_ifs with full some_of
  · have positive : 0 < snapshot.quantity := full ▸ aggregate.ticket.quantity_pos
    obtain ⟨price, priced, pricePositive⟩ := snapshot.openPriced positive
    have assessed : ∃ risk, assessFill aggregate snapshot.quantity price = .ok risk := by
      unfold assessFill
      rw [dif_pos ⟨positive, pricePositive, aggregate.ticket.initialStopPrice_pos,
        aggregate.ticket.plannedStopRiskBudget_pos, aggregate.ticket.postFillStopRiskLimit_pos⟩,
        dif_pos aggregate.ticket.limit_covers_budget]
      exact ⟨_, rfl⟩
    obtain ⟨risk, assessed⟩ := assessed
    refine ⟨_, bind_eq_ok.mpr ⟨price, demand_eq_ok.mpr priced,
      bind_eq_ok.mpr ⟨risk, assessed, rfl⟩⟩, ?_⟩
    refine planAccepted_some.mpr fun event => ⟨_, entryFilled_eq_ok.mpr ⟨?_, ?_, full,
      pricePositive, rfl⟩⟩
    · rw [status]
      decide
    · rintro ⟨cancelled, -⟩
      rw [status] at cancelled
      exact absurd cancelled (by decide)
  · obtain ⟨price, priced, -⟩ := snapshot.openPriced some_of.1
    refine ⟨_, bind_eq_ok.mpr ⟨price, demand_eq_ok.mpr priced, rfl⟩, ?_⟩
    exact planAccepted_some.mpr fun event =>
      ⟨_, entryPartiallyFilled_eq_ok.mpr ⟨awaiting, some_of, rfl, rfl⟩⟩
  · exact ⟨_, rfl, planAccepted_none⟩

theorem planOrphan_accepted {id : String} {orderNamespace : OrderNamespace}
    (status : aggregate.status ∈ [.reconciliationPending, .cancelRejected])
    (named : ¬ Blank id) : PlanAccepted aggregate (planOrphan view id orderNamespace) := by
  unfold planOrphan
  split_ifs
  · exact planAccepted_none
  · exact planAccepted_some.mpr fun event =>
      ⟨_, ownedOrphanOrderDetected_eq_ok.mpr ⟨status, named, rfl⟩⟩

theorem planCleanup_accepted (identified : Identified aggregate) (covered : Covered aggregate)
    (status : aggregate.status = .reconciliationPending) :
    PlanAccepted aggregate (planCleanup view aggregate snapshot) := by
  have cleaning : aggregate.status ∈ ([.reconciliationPending, .cancelRejected] :
      List AggregateStatus) := by
    rw [status]
    decide
  unfold planCleanup
  by_cases pending : aggregate.pendingCancelExchangeOrderId = none
  swap
  · rw [if_pos pending]
    exact planAccepted_none
  rw [if_neg (not_not.mpr pending)]
  split
  · rename_i order foreign
    split_ifs
    · exact planAccepted_none
    · exact planAccepted_some.mpr fun event => ⟨_, reported_eq_ok.mpr
        ⟨requireStatus_eq_ok.mpr status, order.exchangeOrderId.not_blank, rfl⟩⟩
  · split
    · rename_i known next
      have member := nextCleanupOrderId_mem next
      have named := (identified.cleanup member).not_blank rfl
      split_ifs
      · exact planOrphan_accepted cleaning named
      · exact planAccepted_some.mpr fun event => ⟨_, ownedOrderAbsenceConfirmed_eq_ok.mpr
          ⟨status, named, member, rfl⟩⟩
    · rename_i owned rest next orders
      exact planOrphan_accepted cleaning owned.exchangeOrderId.not_blank
    · rename_i next orders
      split_ifs with flat
      · have clean := nextCleanupOrderId_eq_none.mp next
        -- nothing is protected without an active stop
        have unprotected : aggregate.protectedQty = 0 := by
          by_contra protects
          have stop := covered.identified protects
          rw [(knownCleanupOrderIds_eq_nil.mp clean).2.1] at stop
          simp at stop
        exact planAccepted_some.mpr fun event => ⟨_, reconciliationMatched_eq_ok.mpr
          ⟨status, clean, unprotected, pending, rfl⟩⟩
      · exact planAccepted_none

theorem planFailedCancel_accepted {target : String} (status : aggregate.status ∈ cancelStatuses)
    (pending : aggregate.pendingCancelExchangeOrderId = some target) (named : ¬ Blank target) :
    PlanAccepted aggregate (planFailedCancel aggregate snapshot target) := by
  unfold planFailedCancel
  split
  · rename_i order found
    split_ifs with unknown
    · exact planAccepted_none
    · have rejected : aggregate.status = .cancelRejected := by
        simpa [cancelStatuses, unknown] using status
      exact planAccepted_some.mpr fun event => ⟨_, ownedOrphanOrderDetected_eq_ok.mpr
        ⟨by simp [rejected], named, rfl⟩⟩
  · exact planAccepted_some.mpr fun event => ⟨_, cancelOrderAbsenceConfirmed_eq_ok.mpr
      ⟨status, pending, rfl⟩⟩

theorem planCancelRecovery_accepted (identified : Identified aggregate)
    (status : aggregate.status ∈ cancelStatuses) :
    ∃ plan, planCancelRecovery aggregate snapshot = .ok plan ∧ PlanAccepted aggregate plan := by
  obtain ⟨target, pending⟩ := Option.ne_none_iff_exists'.mp (identified.cancelling status)
  exact ⟨_, bind_eq_ok.mpr ⟨target, demand_eq_ok.mpr pending, rfl⟩,
    planFailedCancel_accepted status pending (identified.pendingCancel.not_blank pending)⟩

/-- Behind the confirmed stop, the active stop is known. -/
theorem nextCleanupOrderId_of_covered (covered : Covered aggregate)
    (behind : aggregate.status ∈ stoppedStatuses) :
    ∃ id, nextCleanupOrderId aggregate = some id := by
  rw [← Option.ne_none_iff_exists', Ne, nextCleanupOrderId_eq_none, knownCleanupOrderIds_eq_nil]
  rintro ⟨-, noActive, -⟩
  have stop := (covered.stopped behind).1
  rw [noActive] at stop
  simp at stop

/-! ### The whole planner -/

/-- **Every plan but the flat of an unassessed position is accepted.** -/
theorem planReconcile_accepted (identified : Identified aggregate) (covered : Covered aggregate)
    (assessed : ¬ (aggregate.status = .postFillRiskPending ∧ snapshot.quantity = 0)) :
    ∃ plan, planReconcile view aggregate snapshot = .ok plan ∧ PlanAccepted aggregate plan := by
  unfold planReconcile
  split_ifs with entry exit external cleaning cancelling
  · exact planEntryAccepted_accepted entry
  · exact ⟨_, rfl, planAccepted_some.mpr fun event =>
      ⟨_, positionFlatConfirmed_eq_ok.mpr ⟨exit.1, rfl⟩⟩⟩
  · obtain ⟨status, flat⟩ := external
    have other : aggregate.status ≠ .postFillRiskPending := fun pending => assessed ⟨pending, flat⟩
    have listed : aggregate.status ∈ externalFlatStatuses := by
      have planned := (by decide : ∀ status ∈ plannedExternalFlatStatuses,
        status = .postFillRiskPending ∨ status ∈ externalFlatStatuses) _ status
      exact planned.resolve_left other
    have behind := (by decide : ∀ status ∈ externalFlatStatuses, status ∈ stoppedStatuses) _ listed
    obtain ⟨cleanupOrderId, next⟩ := nextCleanupOrderId_of_covered covered behind
    exact ⟨_, rfl, planAccepted_some.mpr fun event =>
      ⟨_, externalFlatDetected_eq_ok.mpr ⟨listed, cleanupOrderId, next, rfl⟩⟩⟩
  · exact ⟨_, rfl, planCleanup_accepted identified covered cleaning⟩
  · exact planCancelRecovery_accepted identified cancelling
  · exact ⟨_, rfl, planAccepted_none⟩

/-- The flat of an unassessed position is refused. -/
theorem not_returns_of_unassessed (pending : aggregate.status = .postFillRiskPending)
    (flat : snapshot.quantity = 0) {outcome : ReconcileOutcome} :
    reconcileTicket view aggregate snapshot ≠ .ok outcome := by
  intro returned
  have planned : planReconcile view aggregate snapshot =
      .ok ⟨.externalFlatIncident, some ⟨.externalFlatDetected, rfl⟩⟩ := by
    simp [planReconcile, pending, flat, exitStatuses, plannedExternalFlatStatuses]
    rfl
  rw [reconcileTicket, refuse_bind_eq_ok, if_neg (by simp [pending]), planned, bind_eq_ok] at returned
  obtain ⟨-, plan, same, recorded⟩ := returned
  obtain rfl := Except.ok.inj same
  obtain ⟨reduced, isReduced, -⟩ := bind_eq_ok.mp recorded
  refine reduceNext_of_refuses (fun event reduction accepted => ?_) isReduced
  have listed := (externalFlatDetected_eq_ok.mp accepted).1
  rw [pending] at listed
  exact absurd listed (by decide)

end Plans

/-! ### The law and its exception -/

section Law

variable {history : List AcceptedEvent} {aggregate : TradeAggregate}

/-- **On every aggregate that a run reaches, and every snapshot of its netting domain, the use case
returns and its event is accepted exactly unless the position is flat while its assessment is
pending.** -/
theorem reconcile_returns_iff (run : LifecycleRun history aggregate) (view : ReconcileView)
    (snapshot : PositionSnapshot)
    (domain : snapshot.nettingDomain = aggregate.identity.nettingDomain) :
    (∃ outcome, reconcileTicket view aggregate snapshot = .ok outcome) ↔
      ¬ (aggregate.status = .postFillRiskPending ∧ snapshot.quantity = 0) := by
  have identified := identified run
  constructor
  · rintro ⟨outcome, returned⟩ ⟨pending, flat⟩
    exact not_returns_of_unassessed pending flat returned
  · intro assessed
    exact returns_of_plan domain identified.begun
      (planReconcile_accepted identified (covered run) assessed)

/-- A flat snapshot of the sample netting domain. -/
def flatSnapshot : PositionSnapshot :=
  .flat sampleTicket.identity.nettingDomain 3000 (by decide)

/-- The law on the sample position behind its stops, found flat. -/
theorem reconcile_returns_iff_when_protected : ∃ history aggregate,
    LifecycleRun history aggregate ∧ aggregate.status = .positionProtected ∧
      ((∃ outcome, reconcileTicket ⟨none, none, []⟩ aggregate flatSnapshot = .ok outcome) ↔
        ¬ (aggregate.status = .postFillRiskPending ∧ flatSnapshot.quantity = 0)) := by
  obtain ⟨history, aggregate, run, reached⟩ := exists_run (fun _ _ => True) protectedFacts
    (fun _ aggregate => aggregate.status = .positionProtected ∧
      flatSnapshot.nettingDomain = aggregate.identity.nettingDomain) (by decide)
  simp only [decide_eq_true_eq] at reached
  exact ⟨history, aggregate, run.run, reached.1,
    reconcile_returns_iff run.run ⟨none, none, []⟩ flatSnapshot reached.2⟩

/-- **The refused flat.** Right after its initial stop is confirmed the position is found flat, and
the use case raises. -/
theorem reconcile_raises_on_unassessed_flat : ¬ ∀ history aggregate view (snapshot : PositionSnapshot),
    LifecycleRun history aggregate →
      snapshot.nettingDomain = aggregate.identity.nettingDomain →
      ∃ outcome, reconcileTicket view aggregate snapshot = .ok outcome := by
  intro law
  obtain ⟨history, aggregate, run, reached⟩ := exists_run (fun _ _ => True)
    [⟨.entryAccepted "entry-1", rfl⟩, ⟨.entryFilled sampleFill, rfl⟩,
      ⟨.initialStopConfirmed "stop-1" 4, rfl⟩]
    (fun _ aggregate => aggregate.status = .postFillRiskPending ∧
      flatSnapshot.nettingDomain = aggregate.identity.nettingDomain) (by decide)
  simp only [decide_eq_true_eq] at reached
  obtain ⟨outcome, returned⟩ := law history aggregate ⟨none, none, []⟩ flatSnapshot run.run reached.2
  exact not_returns_of_unassessed reached.1 rfl returned

end Law

end TradingKernel
