/-
**What becomes of a cleanup cancel while it is in flight.**

Reconciliation cancels one order at a time and keeps its id in `pendingCancelExchangeOrderId`. Every
result of a cancel is compared with that id; evidence about an open or an absent order is not. So
the id survives an event exactly when the evidence the event brings is about the order in the slot
(`kept_iff_aboutPending`), and along a run exactly when that is so of every event
(`cancels_remembered_iff_evidence_about_pending`). Absence of the stop while TP1 is being cancelled
empties the slot, though nothing was said about TP1 (`absence_of_stop_forgets_cancel_of_tp1`).
-/

import TradingKernel.Lifecycle.OutcomeIncidents

namespace TradingKernel

open Text Guard Reducer

/-! ### The slot and the events that name an order -/

/-- The exchange order id that an event carries. -/
def TicketFact.exchangeOrderId? : TicketFact → Option String
  | .entryAccepted id | .entryRemainderCancelConfirmed id | .entryRemainderCancelRejected id _
  | .entryRemainderCancelOutcomeUnknown id _ | .entryVacuumCancelConfirmed id
  | .entryVacuumCancelRejected id _ | .entryVacuumCancelOutcomeUnknown id _
  | .initialStopConfirmed id _ | .takeProfitConfirmed id _ | .exitAccepted id
  | .controlledFlattenAccepted id | .ownedOrphanOrderDetected id _
  | .ownedOrderAbsenceConfirmed id | .unownedOrderDetected id | .protectionCancelConfirmed id
  | .protectionCancelRejected id _ | .protectionCancelOutcomeUnknown id _
  | .protectionCancelAbsenceConfirmed id | .ownedOrphanCancelConfirmed id
  | .cancelOrderRejected id _ | .cancelOrderOutcomeUnknown id _
  | .cancelOrderAbsenceConfirmed id | .cancelOrderStillOpenConfirmed id => some id
  | .entryVacuumCancelRequested fact => some fact.exchangeOrderId
  | .entryVacuumOrderAbsenceConfirmed fact => some fact.exchangeOrderId
  | .vacuumLateFillAttributed fact => some fact.exchangeOrderId
  | .vacuumPostAbsenceNoFillVerified fact => some fact.exchangeOrderId
  | .protectionReplacementConfirmed fact => some fact.exchangeOrderId
  | _ => none

/-- A cleanup cancel in flight before the event is in flight after it, unless the event carries the
id of its order. -/
def KeepsPending (current : TradeAggregate) (fact : TicketFact) (next : TradeAggregate) : Prop :=
  current.status ∈ cleaningStatuses → ∀ order, current.pendingCancelExchangeOrderId = some order →
    next.pendingCancelExchangeOrderId = some order ∨ fact.exchangeOrderId? = some order

/-- No event of the history forgets a cleanup cancel in flight. -/
def CancelsRemembered (history : List AcceptedEvent) : Prop :=
  ∀ before entry later fact current next, history = before ++ [entry] ++ later →
    entry.fact? = some fact → LifecycleRun before current →
      LifecycleRun (before ++ [entry]) next → KeepsPending current fact next

/-- Evidence of an open or an absent order is about the order whose cancel is in flight, where there
is one. -/
def AboutPending (current : TradeAggregate) (event : TicketEvent) : Prop :=
  ∀ order ∈ current.pendingCancelExchangeOrderId,
    match event.fact with
    | .ownedOrphanOrderDetected other _ => other = order ∨ strip other = order
    | .ownedOrderAbsenceConfirmed other => other = order
    | _ => True

def aboutPending (current : TradeAggregate) (event : TicketEvent) : Bool :=
  current.pendingCancelExchangeOrderId.all fun order =>
    match event.fact with
    | .ownedOrphanOrderDetected other _ => other = order ∨ strip other = order
    | .ownedOrderAbsenceConfirmed other => other = order
    | _ => true

theorem aboutPending_iff (current : TradeAggregate) (event : TicketEvent) :
    aboutPending current event = true ↔ AboutPending current event := by
  unfold aboutPending AboutPending
  rw [Option.all_eq_true]
  refine forall₂_congr fun order _ => ?_
  split <;> simp

instance (current : TradeAggregate) (event : TicketEvent) :
    Decidable (AboutPending current event) :=
  decidable_of_iff _ (aboutPending_iff current event)

/-! ### One event -/

section Step

variable {current : TradeAggregate} {event : TicketEvent} {fact : TicketFact} {result : Reduction}
  {next : TradeAggregate}

/-- The slot is as it was. -/
theorem KeepsPending.same
    (same : next.pendingCancelExchangeOrderId = current.pendingCancelExchangeOrderId) :
    KeepsPending current fact next :=
  fun _ _ pending => .inl (same.trans pending)

/-- The event arrives outside the cleanup. -/
theorem KeepsPending.elsewhere {sources : List AggregateStatus} (member : current.status ∈ sources)
    (outside : ∀ source ∈ sources, source ∉ cleaningStatuses) : KeepsPending current fact next :=
  fun cleaning => absurd cleaning (outside _ member)

/-- The event is about the order in the slot. -/
theorem KeepsPending.about {id : String} (carries : fact.exchangeOrderId? = some id)
    (held : current.pendingCancelExchangeOrderId = some id) : KeepsPending current fact next :=
  fun _ _ pending => .inr (carries.trans (held.symm.trans pending))

/-- The fact is evidence of an open or of an absent order. -/
def TicketFact.isOrderEvidence : TicketFact → Bool
  | .ownedOrphanOrderDetected _ _ | .ownedOrderAbsenceConfirmed _ => true
  | _ => false

/-- What clears the slot is evidence, or the result of the cancel of the order in it. -/
theorem keepsPending_of_cleared {id : String}
    (reduced : reduceFact current event fact = .ok result)
    (clears : fact = .ownedOrderAbsenceConfirmed id ∨ fact = .protectionCancelConfirmed id ∨
      fact = .ownedOrphanCancelConfirmed id ∨ fact = .cancelOrderAbsenceConfirmed id)
    (other : fact.isOrderEvidence = false) : KeepsPending current fact next := by
  rcases clears with rfl | rfl | rfl | rfl
  · simp [TicketFact.isOrderEvidence] at other
  · rcases protectionCancelConfirmed_eq_ok.mp reduced with ⟨old, -⟩ | ⟨-, held, -⟩
    · exact .elsewhere (List.mem_singleton.mpr old) (by decide)
    · exact .about rfl held
  · exact .about rfl (ownedOrphanCancelConfirmed_eq_ok.mp reduced).2.2.1
  · exact .about rfl (cancelOrderAbsenceConfirmed_eq_ok.mp reduced).2.1

/-- Any other fact keeps the cancel in flight, or carries its order. -/
theorem keepsPending_of_other (reduced : reduceFact current event fact = .ok result)
    (other : fact.isOrderEvidence = false) : KeepsPending current fact result.aggregate := by
  cases Move.of_reduceFact reduced with
  | entryVacuumCancelRequested member => exact .elsewhere member (by decide)
  | entryVacuumOrderAbsenceConfirmed member => exact .elsewhere member (by decide)
  | positionFlatConfirmed member => exact .elsewhere member (by decide)
  | externalFlatDetected member => exact .elsewhere member (by decide)
  | ownedOrphanOrderDetected => simp [TicketFact.isOrderEvidence] at other
  | cleared clears => exact keepsPending_of_cleared reduced clears other
  | _ => exact .same rfl

/-- **An accepted event keeps the cancel in flight if and only if the evidence it brings is about
the order being cancelled.** -/
theorem kept_iff_aboutPending (on : AcceptedOn current event result) :
    KeepsPending current event.fact result.aggregate ↔ AboutPending current event := by
  have reduced := on.reduced
  unfold AboutPending
  cases reports : event.fact with
  | ownedOrphanOrderDetected id orderNamespace =>
    rw [reports] at reduced
    obtain ⟨member, -, rfl⟩ := ownedOrphanOrderDetected_eq_ok.mp reduced
    have cleaning := (by decide : ∀ status ∈ ([.reconciliationPending, .cancelRejected] :
      List AggregateStatus), status ∈ cleaningStatuses) _ member
    constructor
    · intro keeps order held
      rcases keeps cleaning order held with kept | carries
      · exact .inr (Option.some.inj kept)
      · exact .inl (Option.some.inj carries)
    · intro about _ order held
      rcases about order held with rfl | same
      · exact .inr rfl
      · exact .inl (congrArg some same)
  | ownedOrderAbsenceConfirmed id =>
    rw [reports] at reduced
    obtain ⟨status, -, -, rfl⟩ := ownedOrderAbsenceConfirmed_eq_ok.mp reduced
    constructor
    · intro keeps order held
      rcases keeps (by rw [status]; decide) order held with kept | carries
      · simp [cleared, clearCleanupOrder] at kept
      · exact Option.some.inj carries
    · intro about _ order held
      exact .inr (congrArg some (about order held))
  | _ =>
    have keeps := keepsPending_of_other reduced (by rw [reports]; rfl)
    rw [reports] at keeps
    exact ⟨fun _ _ _ => trivial, fun _ => keeps⟩

end Step

/-! ### Runs -/

section Law

variable {history : List AcceptedEvent} {aggregate : TradeAggregate}

/-- **A cleanup cancel in flight is not forgotten along a run if and only if all evidence of open and
absent orders was about the order being cancelled.** -/
theorem cancels_remembered_iff_evidence_about_pending (run : LifecycleRun history aggregate) :
    CancelsRemembered history ↔ LifecycleRunIf AboutPending history aggregate := by
  constructor
  · intro remembers
    refine run.conditional fun before current event result later split begun on => ?_
    exact (kept_iff_aboutPending on).mp
      (remembers before _ later event.fact current _ split rfl begun (Run.snoc begun on.accepts))
  · rintro allowed before entry later fact current next rfl reports begun reached
    obtain ⟨since, through, -⟩ := allowed.through
    obtain ⟨middle, event, result, soFar, rfl, on, about, rfl⟩ :=
      through.snoc_ticketEvent (by simp [reports])
    obtain rfl := begun.unique soFar.run
    obtain rfl := reached.unique through.run
    rw [accepted_fact?, Option.some.injEq] at reports
    exact reports ▸ (kept_iff_aboutPending on).mpr about

/-- The law on a position found flat behind TP1 and its stop, cleaned up in turn. -/
theorem cancels_remembered_of_cleanup_in_turn : ∃ history aggregate,
    LifecycleRun history aggregate ∧ aggregate.status = .settlementPending ∧
      CancelsRemembered history := by
  obtain ⟨history, aggregate, run, reached⟩ := exists_run AboutPending
    (protectedFacts ++ [⟨.externalFlatDetected, rfl⟩, ⟨.protectionCancelConfirmed "tp-1", rfl⟩,
      ⟨.ownedOrderAbsenceConfirmed "stop-1", rfl⟩, ⟨.reconciliationMatched none, rfl⟩])
    (fun _ aggregate => aggregate.status = .settlementPending) (by decide)
  exact ⟨history, aggregate, run.run, by simpa using reached,
    (cancels_remembered_iff_evidence_about_pending run.run).mpr run⟩

/-- The stop is found absent, as the event after seven others on the sample Ticket. -/
def absentStop : TicketEvent := sampleEvent 7 ⟨.ownedOrderAbsenceConfirmed "stop-1", rfl⟩

/-- **The forgotten cancel.** TP1 is being cancelled when the stop is found absent: the slot is
empty afterwards, though nothing was said about TP1. -/
theorem absence_of_stop_forgets_cancel_of_tp1 : ¬ ∀ history aggregate,
    LifecycleRun history aggregate → CancelsRemembered history := by
  intro law
  obtain ⟨history, current, run, reached⟩ := exists_run (fun _ _ => True)
    (protectedFacts ++ [⟨.externalFlatDetected, rfl⟩])
    (fun _ current => current.status = .reconciliationPending ∧
      current.pendingCancelExchangeOrderId = some "tp-1" ∧
      "stop-1" ∈ knownCleanupOrderIds current ∧ absentStop.ticketId = current.identity.ticketId ∧
      current.lastEventSequence = 7) (by decide)
  simp only [decide_eq_true_eq] at reached
  obtain ⟨status, pending, known, ticket, sequence⟩ := reached
  have on : AcceptedOn current absentStop (cleared current absentStop "stop-1" []) :=
    { ticket := ticket
      sequence := by rw [sequence]; rfl
      reduced := ownedOrderAbsenceConfirmed_eq_ok.mpr ⟨status, by decide, known, rfl⟩ }
  have after := Run.snoc run.run on.accepts
  have keeps := law _ _ after history _ [] absentStop.fact current _ (by simp) rfl run.run after
  rcases keeps (by rw [status]; decide) "tp-1" pending with kept | carries
  · simp [cleared, clearCleanupOrder] at kept
  · exact absurd (Option.some.inj carries) (by decide)

end Law

end TradingKernel
