/-
**Where a Ticket can no longer close.**

From every aggregate that a run reaches, with one exception, accepted events lead to an end: each
status has a fact that leads towards the exit, the exit leads to the cleanup, and the cleanup ends
with the review (`closes`). The exception are the partial fills: a refused cancel of the remainder
is followed by no event at all, and without the ENTRY's order id no cancel of the remainder can be
reported (`Stuck`).
-/

import TradingKernel.Domain.Sources
import TradingKernel.Lifecycle.PlannerAgreement

namespace TradingKernel

open Text Guard Reducer

/-! ### Ends -/

/-- The statuses of a Ticket that has ended. -/
def endedStatuses : List AggregateStatus :=
  [.leverageRejected, .entryRejected, .entryReconciledAbsent, .terminal]

/-- Accepted events lead to an end. -/
def Closes (aggregate : TradeAggregate) : Prop :=
  ∃ later final, Run Accepts (some aggregate) later (some final) ∧ final.status ∈ endedStatuses

/-- A partial fill whose remainder was not cancelled, or cannot be. -/
def Stuck (aggregate : TradeAggregate) : Prop :=
  aggregate.status = .partialFillCancelRejected ∨
    aggregate.status = .partialFillIncident ∧ aggregate.entryExchangeOrderId = none

/-! ### Stuck aggregates -/

section Stuck

variable {current : TradeAggregate} {event : TicketEvent} {fact : TicketFact} {result : Reduction}

/-- Every report about a partial fill names the ENTRY's order. -/
theorem entry_of_partial (reduced : reduceFact current event fact = .ok result)
    (incident : current.status = .partialFillIncident) :
    ∃ id, current.entryExchangeOrderId = some id := by
  have source := source_mem reduced
  rw [incident] at source
  cases fact with
  | entryRemainderCancelConfirmed id =>
    exact ⟨id, (entryRemainderCancelConfirmed_eq_ok.mp reduced).2.1⟩
  | entryRemainderCancelRejected id reason => exact ⟨id, (reported_held reduced).2⟩
  | entryRemainderCancelOutcomeUnknown id reason => exact ⟨id, (reported_held reduced).2⟩
  | _ => simp [TicketFact.sources, externalFlatStatuses] at source

/-- No fact is accepted after a refused cancel of the remainder. -/
theorem not_reduced_of_refused (refused : current.status = .partialFillCancelRejected) :
    reduceFact current event fact ≠ .ok result := by
  intro reduced
  have source := source_mem reduced
  rw [refused] at source
  cases fact <;> simp [TicketFact.sources, externalFlatStatuses] at source

theorem not_reduced_of_stuck (stuck : Stuck current) :
    reduceFact current event fact ≠ .ok result := by
  rcases stuck with refused | ⟨incident, unnamed⟩
  · exact not_reduced_of_refused refused
  · intro reduced
    obtain ⟨id, named⟩ := entry_of_partial reduced incident
    simp [unnamed] at named

/-- A stuck Ticket does not close. -/
theorem not_closes_of_stuck (stuck : Stuck current) : ¬ Closes current := by
  rintro ⟨later, final, run, ended⟩
  cases later with
  | nil =>
    obtain rfl := Option.some.inj (Run.nil_iff.mp run)
    rcases stuck with refused | ⟨incident, -⟩
    · rw [refused] at ended
      exact absurd ended (by decide)
    · rw [incident] at ended
      exact absurd ended (by decide)
  | cons label labels =>
    obtain ⟨_, ⟨reduction, accepts, -⟩, -⟩ := Run.cons_iff.mp run
    obtain ⟨event, -, -, -, reduced⟩ := reduceEvent_some_eq_ok.mp accepts
    exact not_reduced_of_stuck stuck reduced

end Stuck

/-! ### What the closing events need -/

/-- The statuses of an entry order that is being cancelled for a vacuum. -/
def vacuumCancelStatuses : List AggregateStatus :=
  [.entryVacuumCancelPending, .entryVacuumCancelRejected, .entryVacuumCancelOutcomeUnknown]

/-- The statuses in which the ENTRY's order id is compared with. -/
def enteredStatuses : List AggregateStatus :=
  .partialFillCancelOutcomeUnknown :: vacuumCancelStatuses

/-- What a cancel of the ENTRY goes by is on record. -/
structure Traceable (aggregate : TradeAggregate) : Prop where
  entry : aggregate.status ∈ enteredStatuses → aggregate.entryExchangeOrderId ≠ none
  cancel : aggregate.status ∈ vacuumCancelStatuses → aggregate.pendingCancelExchangeOrderId ≠ none
  vacuum : aggregate.status ∈ AggregateStatus.entryVacuumCancelled :: vacuumCancelStatuses →
    ∃ vacuumId, aggregate.entryVacuumId = some vacuumId ∧ ¬ Blank vacuumId

namespace Traceable

variable {current : TradeAggregate} {event : TicketEvent} {status : AggregateStatus}
  {updates : TradeAggregate → TradeAggregate} {effects : List KernelEffect} {result : Reduction}

/-- A status in which no cancel of the ENTRY is under way. -/
theorem elsewhere (entered : status ∉ enteredStatuses) (other : status ≠ .entryVacuumCancelled) :
    Traceable (transition current event status updates effects).aggregate where
  entry isEntered := absurd isEntered entered
  cancel cancels := absurd (List.mem_cons_of_mem _ cancels) entered
  vacuum isVacuum := by
    rcases List.mem_cons.mp isVacuum with cancelled | cancels
    · exact absurd cancelled other
    · exact absurd (List.mem_cons_of_mem _ cancels) entered

theorem issued (ticket : TradeTicket) : Traceable (issuedAggregate ticket 1) where
  entry entered := absurd entered (issued_not_mem ticket (by decide))
  cancel cancels := absurd cancels (issued_not_mem ticket (by decide))
  vacuum isVacuum := absurd isVacuum (issued_not_mem ticket (by decide))

/-- An edge that leaves everything but the status alone. -/
theorem alongEdge (traceable : Traceable current) (edge : (current.status, status) ∈ keptEdges)
    (partial_ : current.status = .partialFillIncident → current.entryExchangeOrderId ≠ none) :
    Traceable (transition current event status unchanged effects).aggregate where
  entry entered := by
    have before := (by decide : ∀ pair ∈ keptEdges, pair.2 ∈ enteredStatuses →
      pair.1 ∈ enteredStatuses ∨ pair.1 = .partialFillIncident) _ edge entered
    exact before.elim traceable.entry partial_
  cancel cancels := by
    have before := (by decide : ∀ pair ∈ keptEdges, pair.2 ∈ vacuumCancelStatuses →
      pair.1 ∈ vacuumCancelStatuses) _ edge cancels
    exact traceable.cancel before
  vacuum isVacuum := by
    have before := (by decide : ∀ pair ∈ keptEdges,
      pair.2 ∈ AggregateStatus.entryVacuumCancelled :: vacuumCancelStatuses →
      pair.1 ∈ AggregateStatus.entryVacuumCancelled :: vacuumCancelStatuses) _ edge isVacuum
    exact traceable.vacuum before

theorem moved (traceable : Traceable current) (on : AcceptedOn current event result) :
    Traceable result.aggregate := by
  have partial_ : current.status = .partialFillIncident → current.entryExchangeOrderId ≠ none := by
    intro incident
    obtain ⟨id, named⟩ := entry_of_partial on.reduced incident
    simp [named]
  have move := on.move
  generalize event.fact = fact at move
  cases move with
  | kept quiet edge silent cancelling => exact traceable.alongEdge edge partial_
  | closedUnfilled unfilled edge empty silent =>
    have target := (by decide : ∀ pair ∈ unfilledEdges, pair.2 ∉ enteredStatuses ∧
      pair.2 ≠ .entryVacuumCancelled) _ edge
    exact elsewhere target.1 target.2
  | @entryFilled fact member full =>
    have target := (by decide : ∀ status ∈ ([.controlledFlattenPending, .protectionPending] :
      List AggregateStatus), status ∉ enteredStatuses ∧ status ≠ .entryVacuumCancelled) _
      (entryFilledTarget_mem fact)
    exact elsewhere target.1 target.2
  | @entryVacuumCancelRequested fact effects member unfinished silent held =>
    exact {
      entry := fun _ => by simp [held]
      cancel := fun _ => by simp
      vacuum := fun _ => ⟨fact.entryVacuumId, rfl, fact.identities.1⟩ }
  | @entryVacuumOrderAbsenceConfirmed fact effects member bounded silent =>
    exact {
      entry := fun entered => absurd entered
        (show AggregateStatus.entryVacuumCancelled ∉ enteredStatuses by decide)
      cancel := fun cancels => absurd cancels
        (show AggregateStatus.entryVacuumCancelled ∉ vacuumCancelStatuses by decide)
      vacuum := fun _ => ⟨fact.entryVacuumId, rfl, fact.identities.1⟩ }
  | vacuumLateFillAttributed status empty bounded =>
    exact {
      entry := fun entered => absurd entered
        (show AggregateStatus.entryVacuumCancelled ∉ enteredStatuses by decide)
      cancel := fun cancels => absurd cancels
        (show AggregateStatus.entryVacuumCancelled ∉ vacuumCancelStatuses by decide)
      vacuum := fun _ => traceable.vacuum (by simp [status]) }
  | initialStopConfirmed member target covers named silent =>
    have calm := (by decide : ∀ status ∈ ([.controlledFlattenPending, .postFillRiskPending] :
      List AggregateStatus), status ∉ enteredStatuses ∧ status ≠ .entryVacuumCancelled) _ target
    exact elsewhere calm.1 calm.2
  | exitOrderAccepted loud edge silent =>
    have target := (by decide : ∀ pair ∈ exitEdges, pair.2 ∉ enteredStatuses ∧
      pair.2 ≠ .entryVacuumCancelled) _ edge
    exact elsewhere target.1 target.2
  | _ => exact elsewhere (by decide) (by decide)

end Traceable

theorem traceable {history : List AcceptedEvent} {aggregate : TradeAggregate}
    (run : LifecycleRun history aggregate) : Traceable aggregate :=
  run.invariant Traceable Traceable.issued fun traceable on => traceable.moved on

/-! ### Towards an end -/

section Closing

variable {history : List AcceptedEvent} {current : TradeAggregate}

/-- The next event on a lifecycle, about a fact. -/
def eventAfter (current : TradeAggregate) (begun : 0 < current.lastEventSequence)
    (fact : PlainFact) : TicketEvent where
  eventId := named "event"
  sequence := current.lastEventSequence + 1
  occurredAtMs := 1
  positive := ⟨by omega, one_pos⟩
  ticketId := current.identity.ticketId
  fact := fact.val
  observedBefore := by simp [fact.property]

/-- **The rule for closing.** An accepted fact leads to an aggregate that closes. -/
theorem Closes.step (run : LifecycleRun history current) (fact : PlainFact)
    (After : TradeAggregate → Prop)
    (accepts : ∀ event, ∃ result, reduceFact current event fact.val = .ok result ∧
      After result.aggregate)
    (closes : ∀ history next, LifecycleRun history next → After next → Closes next) :
    Closes current := by
  let event := eventAfter current (identified run).begun fact
  obtain ⟨result, reduced, after⟩ := accepts event
  have on : AcceptedOn current event result := ⟨rfl, rfl, reduced⟩
  obtain ⟨later, final, rest, ended⟩ := closes _ _ (run.snoc on.accepts) after
  exact ⟨_, final, Run.cons_iff.mpr ⟨_, on.accepts, rest⟩, ended⟩

theorem closes_of_ended (ended : current.status ∈ endedStatuses) : Closes current :=
  ⟨[], current, .nil, ended⟩

/-! ### The review and the settlement -/

theorem closes_of_reviewPending (run : LifecycleRun history current)
    (status : current.status = .reviewPending) : Closes current :=
  Closes.step run ⟨.reviewRecorded "review", rfl⟩ (fun next => next.status = .terminal)
    (fun _ => ⟨_, reviewRecorded_eq_ok.mpr ⟨status, by decide, rfl⟩, rfl⟩)
    (fun _ _ _ terminal => closes_of_ended (by simp [terminal, endedStatuses]))

theorem closes_of_settlementPending (run : LifecycleRun history current)
    (status : current.status = .settlementPending) : Closes current :=
  Closes.step run ⟨.budgetSettled, rfl⟩ (fun next => next.status = .reviewPending)
    (fun _ => ⟨_, budgetSettled_eq_ok.mpr ⟨status, rfl⟩, rfl⟩)
    (fun _ _ run reviewing => closes_of_reviewPending run reviewing)

/-! ### The cleanup -/

/-- A closed position with no cancel pending. -/
structure Cleaning (current : TradeAggregate) : Prop where
  status : current.status = .reconciliationPending
  settled : current.pendingCancelExchangeOrderId = none

theorem closes_of_clean (run : LifecycleRun history current) (cleaning : Cleaning current)
    (clean : knownCleanupOrderIds current = []) : Closes current := by
  -- nothing is protected without an active stop
  have unprotected : current.protectedQty = 0 := by
    by_contra protects
    have stop := (covered run).identified protects
    rw [(knownCleanupOrderIds_eq_nil.mp clean).2.1] at stop
    simp at stop
  exact Closes.step run ⟨.reconciliationMatched none, rfl⟩
    (fun next => next.status = .settlementPending)
    (fun _ => ⟨_, reconciliationMatched_eq_ok.mpr
      ⟨cleaning.status, clean, unprotected, cleaning.settled, rfl⟩, rfl⟩)
    (fun _ _ run settling => closes_of_settlementPending run settling)

/-- The aggregate holds no more orders to clean up than another one without an order. -/
structure Forgets (id : String) (current next : TradeAggregate) : Prop where
  cleaning : Cleaning next
  tp1 : next.tp1ExchangeOrderId = forget id current.tp1ExchangeOrderId
  active : next.activeStopExchangeOrderId = forget id current.activeStopExchangeOrderId
  initial : next.initialStopExchangeOrderId = forget id current.initialStopExchangeOrderId

/-- A known order that is found absent is no longer held. -/
theorem closes_of_known (run : LifecycleRun history current) (cleaning : Cleaning current)
    {id : String} (known : id ∈ knownCleanupOrderIds current)
    (closes : ∀ history next, LifecycleRun history next → Forgets id current next →
      Closes next) : Closes current := by
  have named := ((identified run).cleanup known).not_blank rfl
  exact Closes.step run ⟨.ownedOrderAbsenceConfirmed id, rfl⟩ (Forgets id current)
    (fun _ => ⟨_, ownedOrderAbsenceConfirmed_eq_ok.mpr ⟨cleaning.status, named, known, rfl⟩,
      ⟨rfl, rfl⟩, rfl, rfl, rfl⟩) closes

theorem forget_self (id : String) : forget id (some id) = none := if_pos rfl

theorem forget_none (id : String) : forget id none = none := if_neg (by simp)

/-- The known orders are found absent one after the other: the initial stop at last, the active stop
before it, and TP1 first. -/
theorem closes_of_stopped (run : LifecycleRun history current) (cleaning : Cleaning current)
    (noTp1 : current.tp1ExchangeOrderId = none)
    (noActive : current.activeStopExchangeOrderId = none) : Closes current := by
  cases initial : current.initialStopExchangeOrderId with
  | none =>
    exact closes_of_clean run cleaning
      (knownCleanupOrderIds_eq_nil.mpr ⟨noTp1, noActive, initial⟩)
  | some id =>
    refine closes_of_known run cleaning (mem_knownCleanupOrderIds.mpr (.inr (.inr initial))) ?_
    intro history next run forgets
    refine closes_of_clean run forgets.cleaning (knownCleanupOrderIds_eq_nil.mpr ⟨?_, ?_, ?_⟩)
    · rw [forgets.tp1, noTp1, forget_none]
    · rw [forgets.active, noActive, forget_none]
    · rw [forgets.initial, initial, forget_self]

theorem closes_of_untaken (run : LifecycleRun history current) (cleaning : Cleaning current)
    (noTp1 : current.tp1ExchangeOrderId = none) : Closes current := by
  cases active : current.activeStopExchangeOrderId with
  | none => exact closes_of_stopped run cleaning noTp1 active
  | some id =>
    refine closes_of_known run cleaning (mem_knownCleanupOrderIds.mpr (.inr (.inl active))) ?_
    intro history next run forgets
    refine closes_of_stopped run forgets.cleaning ?_ ?_
    · rw [forgets.tp1, noTp1, forget_none]
    · rw [forgets.active, active, forget_self]

theorem closes_of_cleaning (run : LifecycleRun history current) (cleaning : Cleaning current) :
    Closes current := by
  cases tp1 : current.tp1ExchangeOrderId with
  | none => exact closes_of_untaken run cleaning tp1
  | some id =>
    refine closes_of_known run cleaning (mem_knownCleanupOrderIds.mpr (.inl tp1)) ?_
    intro history next run forgets
    refine closes_of_untaken run forgets.cleaning ?_
    rw [forgets.tp1, tp1, forget_self]

theorem closes_of_reconciliationPending (run : LifecycleRun history current)
    (status : current.status = .reconciliationPending) : Closes current := by
  cases pending : current.pendingCancelExchangeOrderId with
  | none => exact closes_of_cleaning run ⟨status, pending⟩
  | some id =>
    have named := (identified run).pendingCancel.not_blank pending
    exact Closes.step run ⟨.ownedOrphanCancelConfirmed id, rfl⟩ Cleaning
      (fun _ => ⟨_, ownedOrphanCancelConfirmed_eq_ok.mpr ⟨status, named, pending, rfl⟩, rfl, rfl⟩)
      (fun _ _ run cleaning => closes_of_cleaning run cleaning)

theorem closes_of_failedCancel (run : LifecycleRun history current)
    (status : current.status ∈ cancelStatuses) : Closes current := by
  obtain ⟨id, pending⟩ := Option.ne_none_iff_exists'.mp ((identified run).cancelling status)
  exact Closes.step run ⟨.cancelOrderAbsenceConfirmed id, rfl⟩ Cleaning
    (fun _ => ⟨_, cancelOrderAbsenceConfirmed_eq_ok.mpr ⟨status, pending, rfl⟩, rfl, rfl⟩)
    (fun _ _ run cleaning => closes_of_cleaning run cleaning)

/-! ### The exit -/

theorem closes_of_exit (run : LifecycleRun history current)
    (status : current.status ∈ exitStatuses) : Closes current :=
  Closes.step run ⟨.positionFlatConfirmed, rfl⟩ (fun next => next.status = .reconciliationPending)
    (fun _ => ⟨_, positionFlatConfirmed_eq_ok.mpr ⟨status, rfl⟩, rfl⟩)
    (fun _ _ run reconciling => closes_of_reconciliationPending run reconciling)

/-- A fact that leads to an exit. -/
theorem closes_of_exiting (run : LifecycleRun history current) (fact : PlainFact)
    (accepts : ∀ event, ∃ result, reduceFact current event fact.val = .ok result ∧
      result.aggregate.status ∈ exitStatuses) : Closes current :=
  Closes.step run fact (fun next => next.status ∈ exitStatuses) accepts
    (fun _ _ run exiting => closes_of_exit run exiting)

/-- A position behind a stop is found flat. -/
theorem closes_of_externalFlat (run : LifecycleRun history current)
    (status : current.status ∈ externalFlatStatuses) : Closes current := by
  have behind := (by decide : ∀ status ∈ externalFlatStatuses, status ∈ stoppedStatuses) _ status
  obtain ⟨cleanupOrderId, next⟩ := nextCleanupOrderId_of_covered (covered run) behind
  exact Closes.step run ⟨.externalFlatDetected, rfl⟩
    (fun next => next.status = .reconciliationPending)
    (fun _ => ⟨_, externalFlatDetected_eq_ok.mpr ⟨status, cleanupOrderId, next, rfl⟩, rfl⟩)
    (fun _ _ run reconciling => closes_of_reconciliationPending run reconciling)

/-! ### The position -/

/-- A stop that is missing leads to an exit or a flatten. -/
theorem initialStopMissing_exits (event : TicketEvent) (first : List KernelEffect)
    (partialKind kind : String) :
    (initialStopMissing current event first partialKind kind).aggregate.status ∈ exitStatuses := by
  unfold initialStopMissing
  split_ifs
  · exact (by decide : AggregateStatus.controlledFlattenPending ∈ exitStatuses)
  · exact (by decide : AggregateStatus.exitPending ∈ exitStatuses)

theorem closes_of_protectionPending (run : LifecycleRun history current)
    (status : current.status = .protectionPending) : Closes current :=
  closes_of_exiting run ⟨.initialStopRejected "rejected", rfl⟩ fun event =>
    ⟨_, initialStopRejected_eq_ok.mpr ⟨status, by decide, rfl⟩,
      initialStopMissing_exits event _ _ _⟩

theorem closes_of_unknownStop (run : LifecycleRun history current)
    (status : current.status = .initialStopOutcomeUnknown) : Closes current :=
  closes_of_exiting run ⟨.initialStopAbsenceConfirmed "command", rfl⟩ fun event =>
    ⟨_, absenceConfirmed_eq_ok.mpr ⟨status, by decide, rfl⟩,
      initialStopMissing_exits event _ _ _⟩

theorem closes_of_postFillRiskPending (run : LifecycleRun history current)
    (status : current.status = .postFillRiskPending) : Closes current :=
  Closes.step run ⟨.takeProfitConfirmed "tp-1" current.tp1TargetQty, rfl⟩
    (fun next => next.status = .positionProtected)
    (fun _ => ⟨_, takeProfitConfirmed_eq_ok.mpr ⟨by simp [status], by decide, rfl, rfl⟩, rfl⟩)
    (fun _ _ run isProtected => closes_of_externalFlat run (by simp [isProtected, externalFlatStatuses]))

/-! ### The ENTRY -/

/-- A fact that ends a Ticket without a position. -/
theorem closes_of_ending (run : LifecycleRun history current) (fact : PlainFact)
    (accepts : ∀ event, ∃ result, reduceFact current event fact.val = .ok result ∧
      result.aggregate.status ∈ endedStatuses) : Closes current :=
  Closes.step run fact (fun next => next.status ∈ endedStatuses) accepts
    (fun _ _ _ ended => closes_of_ended ended)

theorem closes_of_leverage (run : LifecycleRun history current)
    (status : current.status ∈ [.leveragePending, .leverageOutcomeUnknown]) : Closes current :=
  closes_of_ending run ⟨.leverageRejected (named "rejected"), rfl⟩ fun _ =>
    ⟨_, leverageRejected_eq_ok.mpr ⟨status, rfl⟩,
      (by decide : AggregateStatus.leverageRejected ∈ endedStatuses)⟩

theorem closes_of_unsentEntry (run : LifecycleRun history current)
    (status : current.status ∈ [.entryPending, .leverageConfirmed]) : Closes current :=
  closes_of_ending run ⟨.entryRejected "rejected", rfl⟩ fun _ =>
    ⟨_, entryRejected_eq_ok.mpr ⟨status, rfl⟩,
      (by decide : AggregateStatus.entryRejected ∈ endedStatuses)⟩

theorem closes_of_unknownEntry (run : LifecycleRun history current)
    (status : current.status = .entryOutcomeUnknown) : Closes current :=
  closes_of_ending run ⟨.entryAbsenceConfirmed "command", rfl⟩ fun _ =>
    ⟨_, absenceConfirmed_eq_ok.mpr ⟨status, by decide, rfl⟩,
      (by decide : AggregateStatus.entryReconciledAbsent ∈ endedStatuses)⟩

/-- A full fill behind an invalid stop price, which is flattened at once. -/
def flattenedFill (ticket : TradeTicket) : EntryFilled where
  filledQty := ticket.quantity
  averageFillPrice := 1
  postFillRisk := ⟨.protectionDirectionInvalid, .flattenImmediately, 0⟩
  venueReportedLiquidationPrice := none
  positionObservedAtMs := 1

theorem closes_of_fillable (run : LifecycleRun history current)
    (status : current.status ∈ [.entryAccepted, .entryVacuumCancelled]) : Closes current := by
  refine closes_of_exiting run ⟨.entryFilled (flattenedFill current.ticket), rfl⟩ fun _ =>
    ⟨_, entryFilled_eq_ok.mpr ⟨?_, ?_, rfl, one_pos, rfl⟩,
      (by decide : AggregateStatus.controlledFlattenPending ∈ exitStatuses)⟩
  · exact (by decide : ∀ status ∈ ([.entryAccepted, .entryVacuumCancelled] :
      List AggregateStatus), status ∈ ([.entryPending, .leverageConfirmed, .entryAccepted,
        .entryVacuumCancelled] : List AggregateStatus)) _ status
  · rintro ⟨cancelled, unnamed⟩
    obtain ⟨vacuumId, held, -⟩ := (traceable run).vacuum (by simp [cancelled])
    simp [held] at unnamed

theorem closes_of_remainder (run : LifecycleRun history current)
    (status : current.status ∈ [.partialFillIncident, .partialFillCancelOutcomeUnknown])
    {id : String} (held : current.entryExchangeOrderId = some id) : Closes current :=
  closes_of_exiting run ⟨.entryRemainderCancelConfirmed id, rfl⟩ fun _ =>
    ⟨_, entryRemainderCancelConfirmed_eq_ok.mpr ⟨status, held, rfl⟩,
      (by decide : AggregateStatus.controlledFlattenPending ∈ exitStatuses)⟩

/-! ### The vacuum -/

theorem closes_of_vacuumCancel (run : LifecycleRun history current)
    (status : current.status ∈ [.entryVacuumCancelPending, .entryVacuumCancelRejected]) :
    Closes current := by
  have cancelling := (by decide : ∀ status ∈ ([.entryVacuumCancelPending,
    .entryVacuumCancelRejected] : List AggregateStatus), status ∈ vacuumCancelStatuses) _ status
  have traceable := traceable run
  obtain ⟨vacuumId, held, vacuumNamed⟩ := traceable.vacuum (List.mem_cons_of_mem _ cancelling)
  obtain ⟨id, entry⟩ := Option.ne_none_iff_exists'.mp
    (traceable.entry (List.mem_cons_of_mem _ cancelling))
  have named := (identified run).entry.not_blank entry
  refine Closes.step run ⟨.entryVacuumOrderAbsenceConfirmed {
      entryVacuumId := vacuumId
      exchangeOrderId := id
      finalFilledQty := 0
      averageFillPrice := none
      identities := ⟨vacuumNamed, named⟩
      filledNonneg := le_rfl
      priceMatches := by simp
      pricePositive := by simp }, rfl⟩
    (fun next => next.status = .entryVacuumCancelled)
    (fun _ => ⟨_, entryVacuumOrderAbsenceConfirmed_eq_ok.mpr
      ⟨List.mem_cons_of_mem _ status, entry, current.ticket.quantity_pos.le, ?_, rfl⟩, rfl⟩)
    (fun _ _ run cancelled => closes_of_fillable run (by simp [cancelled]))
  rw [held]
  simp

theorem closes_of_unknownVacuumCancel (run : LifecycleRun history current)
    (status : current.status = .entryVacuumCancelOutcomeUnknown) : Closes current := by
  obtain ⟨id, pending⟩ := Option.ne_none_iff_exists'.mp
    ((traceable run).cancel (by simp [status, vacuumCancelStatuses]))
  exact Closes.step run ⟨.entryVacuumCancelConfirmed id, rfl⟩
    (fun next => next.status = .entryVacuumCancelPending)
    (fun _ => ⟨_, entryVacuumCancelConfirmed_eq_ok.mpr ⟨by simp [status], pending, rfl⟩, rfl⟩)
    (fun _ _ run cancelling => closes_of_vacuumCancel run (by simp [cancelling]))

/-! ### The law -/

/-- Everything that is not stuck closes: one lemma for each group of statuses. -/
theorem closes_of_not_stuck (run : LifecycleRun history current) (free : ¬ Stuck current) :
    Closes current := by
  cases status : current.status with
  | leveragePending | leverageOutcomeUnknown => exact closes_of_leverage run (by simp [status])
  | leverageConfirmed | entryPending => exact closes_of_unsentEntry run (by simp [status])
  | entryOutcomeUnknown => exact closes_of_unknownEntry run status
  | entryAccepted | entryVacuumCancelled => exact closes_of_fillable run (by simp [status])
  | entryVacuumCancelPending | entryVacuumCancelRejected =>
    exact closes_of_vacuumCancel run (by simp [status])
  | entryVacuumCancelOutcomeUnknown => exact closes_of_unknownVacuumCancel run status
  | partialFillIncident =>
    obtain ⟨id, held⟩ := Option.ne_none_iff_exists'.mp fun unnamed =>
      free (.inr ⟨status, unnamed⟩)
    exact closes_of_remainder run (by simp [status]) held
  | partialFillCancelRejected => exact absurd (.inl status) free
  | partialFillCancelOutcomeUnknown =>
    obtain ⟨id, held⟩ := Option.ne_none_iff_exists'.mp
      ((traceable run).entry (by simp [status, enteredStatuses]))
    exact closes_of_remainder run (by simp [status]) held
  | protectionPending => exact closes_of_protectionPending run status
  | initialStopOutcomeUnknown => exact closes_of_unknownStop run status
  | postFillRiskPending => exact closes_of_postFillRiskPending run status
  | reconciliationPending => exact closes_of_reconciliationPending run status
  | cancelRejected | cancelOutcomeUnknown =>
    exact closes_of_failedCancel run (by simp [status, cancelStatuses])
  | settlementPending => exact closes_of_settlementPending run status
  | reviewPending => exact closes_of_reviewPending run status
  | exitPending | exitAccepted | exitRejected | exitOutcomeUnknown | controlledFlattenPending
  | controlledFlattenAccepted | controlledFlattenRejected | controlledFlattenOutcomeUnknown =>
    exact closes_of_exit run (by simp [status, exitStatuses])
  | leverageRejected | entryRejected | entryReconciledAbsent | terminal =>
    exact closes_of_ended (by simp [status, endedStatuses])
  | _ => exact closes_of_externalFlat run (by simp [status, externalFlatStatuses])

/-- **No Ticket is a dead end**, unless it is stuck after a partial fill. -/
theorem closes_iff (run : LifecycleRun history current) : Closes current ↔ ¬ Stuck current :=
  ⟨fun closes stuck => not_closes_of_stuck stuck closes, closes_of_not_stuck run⟩

/-- The law on a protected position. -/
theorem closes_iff_when_protected : ∃ history aggregate, LifecycleRun history aggregate ∧
    aggregate.status = .positionProtected ∧ Closes aggregate := by
  obtain ⟨history, aggregate, run, reached⟩ := exists_run (fun _ _ => True) protectedFacts
    (fun _ aggregate => aggregate.status = .positionProtected) (by decide)
  have isProtected : aggregate.status = .positionProtected := by simpa using reached
  refine ⟨history, aggregate, run.run, isProtected, (closes_iff run.run).mpr ?_⟩
  simp [Stuck, isProtected]

/-- A partial fill whose remainder the venue refuses to cancel. -/
def refusedRemainderFacts : List PlainFact :=
  [entryAcceptedFact, ⟨.entryPartiallyFilled 1 4 100, rfl⟩,
    ⟨.entryRemainderCancelRejected "entry-1" "unknown order", rfl⟩]

/-- A refused cancel of the remainder is a dead end. -/
theorem refused_remainder_is_dead_end : ¬ ∀ history aggregate, LifecycleRun history aggregate →
    Closes aggregate := by
  intro closes
  obtain ⟨history, aggregate, run, reached⟩ := exists_run (fun _ _ => True) refusedRemainderFacts
    (fun _ aggregate => aggregate.status = .partialFillCancelRejected) (by decide)
  have refused : aggregate.status = .partialFillCancelRejected := by simpa using reached
  exact not_closes_of_stuck (.inl refused) (closes history aggregate run.run)

end Closing

end TradingKernel
