/-
**Runs of the lifecycle: every sequence of events the reducer accepts.**

A run starts with no Ticket, so its first event issues one; its history is the list of accepted
events, each with the effects it asked for. `LifecycleRunIf allowed` are the runs whose later events
all meet a condition on the aggregate they arrive at, and `LifecycleRunIf.induct` is the rule for
both kinds: what holds after the issue and is kept by every move holds along every run.
-/

import TradingKernel.Domain.Moves
import TradingKernel.Lib.Run

namespace TradingKernel

/-! ### Runs -/

/-- An accepted event, with the effects of its reduction. -/
structure AcceptedEvent where
  event : TradeEvent
  effects : List KernelEffect

/-- One event is accepted. -/
def Accepts (current : Option TradeAggregate) (accepted : AcceptedEvent)
    (next : Option TradeAggregate) : Prop :=
  ∃ result, reduceEvent current accepted.event = .ok result ∧ accepted.effects = result.effects ∧
    next = some result.aggregate

/-- The runs from no Ticket to a lifecycle, with their history. -/
def LifecycleRun (history : List AcceptedEvent) (aggregate : TradeAggregate) : Prop :=
  Run Accepts none history (some aggregate)

/-- One event is accepted, and it meets the condition if it arrives at a lifecycle. -/
def AcceptsIf (allowed : TradeAggregate → TicketEvent → Prop) (current : Option TradeAggregate)
    (accepted : AcceptedEvent) (next : Option TradeAggregate) : Prop :=
  Accepts current accepted next ∧
    ∀ aggregate ∈ current, ∀ event, accepted.event = .ticketEvent event → allowed aggregate event

/-- The runs whose events all meet a condition on the aggregate they arrive at. -/
def LifecycleRunIf (allowed : TradeAggregate → TicketEvent → Prop) (history : List AcceptedEvent)
    (aggregate : TradeAggregate) : Prop :=
  Run (AcceptsIf allowed) none history (some aggregate)

/-- The fact an accepted event reports, if it reports one. -/
def AcceptedEvent.fact? (accepted : AcceptedEvent) : Option TicketFact :=
  match accepted.event with
  | .ticketIssued _ _ => none
  | .ticketEvent event => some event.fact

/-- The history's entry for an event on a lifecycle. -/
def accepted (event : TicketEvent) (result : Reduction) : AcceptedEvent :=
  ⟨.ticketEvent event, result.effects⟩

/-- The history of a Ticket that has just been issued. -/
def issuedHistory (header : EventHeader) (ticket : TradeTicket) : List AcceptedEvent :=
  [⟨.ticketIssued header ticket, issuedEffects ticket⟩]

@[simp] theorem accepted_fact? (event : TicketEvent) (result : Reduction) :
    (accepted event result).fact? = some event.fact := rfl

/-- A lifecycle starts by waiting for the leverage change or for the ENTRY. -/
theorem issued_status (ticket : TradeTicket) (sequence : ℤ) :
    (issuedAggregate ticket sequence).status ∈ ([.leveragePending, .entryPending] :
      List AggregateStatus) := by
  show (if ticket.leverageChangeRequired then _ else _) ∈ _
  split_ifs <;> decide

/-- It starts in none of the statuses that are neither of the two. -/
theorem issued_not_mem (ticket : TradeTicket) {sequence : ℤ} {statuses : List AggregateStatus}
    (later : ∀ status ∈ ([.leveragePending, .entryPending] : List AggregateStatus),
      status ∉ statuses) :
    (issuedAggregate ticket sequence).status ∉ statuses :=
  later _ (issued_status ticket sequence)

/-- An event is accepted in one way. -/
theorem accepts_unique {state : Option TradeAggregate} {label : AcceptedEvent}
    {next other : Option TradeAggregate} (accepts : Accepts state label next)
    (again : Accepts state label other) : next = other := by
  obtain ⟨result, reduced, -, rfl⟩ := accepts
  obtain ⟨second, reducedAgain, -, rfl⟩ := again
  rw [Except.ok.inj (reduced.symm.trans reducedAgain)]

/-- A run is determined by its history. -/
theorem LifecycleRun.unique {history : List AcceptedEvent} {first second : TradeAggregate}
    (run : LifecycleRun history first) (other : LifecycleRun history second) : first = second := by
  refine Option.some.inj (Run.unique ?_ run other)
  exact fun accepts again => accepts_unique accepts again

/-! ### Induction over runs -/

section Induction

variable {allowed : TradeAggregate → TicketEvent → Prop} {history : List AcceptedEvent}
  {aggregate current : TradeAggregate} {event : TicketEvent} {result : Reduction}

/-- What the reducer checked of an event it accepted on a lifecycle. -/
structure AcceptedOn (current : TradeAggregate) (event : TicketEvent) (result : Reduction) :
    Prop where
  ticket : event.ticketId = current.identity.ticketId
  sequence : event.sequence = current.lastEventSequence + 1
  reduced : reduceFact current event event.fact = .ok result

theorem AcceptedOn.accepts (on : AcceptedOn current event result) :
    Accepts (some current) (accepted event result) (some result.aggregate) :=
  ⟨result, reduceEvent_some_eq_ok.mpr ⟨event, rfl, on.ticket, on.sequence, on.reduced⟩, rfl, rfl⟩

theorem AcceptedOn.move (on : AcceptedOn current event result) :
    Move current event event.fact result :=
  .of_reduceFact on.reduced

/-- **The rule for conditional runs.** A relation between history and aggregate that holds after
the issue, and is kept by every accepted event that meets the condition, holds along the run. -/
theorem LifecycleRunIf.induct (run : LifecycleRunIf allowed history aggregate)
    (Inv : List AcceptedEvent → TradeAggregate → Prop)
    (issued : ∀ header ticket, Inv (issuedHistory header ticket) (issuedAggregate ticket 1))
    (kept : ∀ {past current event result}, LifecycleRunIf allowed past current →
      Inv past current → AcceptedOn current event result → allowed current event →
      Inv (past ++ [accepted event result]) result.aggregate) :
    Inv history aggregate := by
  let holds : List AcceptedEvent → Option TradeAggregate → Prop := fun past state =>
    state.elim (past = []) (Inv past)
  have along : holds history (some aggregate) := by
    refine run.history_invariant holds rfl ?_
    rintro past label before after soFar inv ⟨⟨result, reduced, effects, rfl⟩, meets⟩
    cases before with
    | none =>
      obtain rfl : past = [] := inv
      obtain ⟨header, ticket, same, -, rfl⟩ := reduceEvent_none_eq_ok.mp reduced
      have entry : label = ⟨.ticketIssued header ticket, issuedEffects ticket⟩ := by
        cases label
        simp_all
      exact entry ▸ issued header ticket
    | some current =>
      obtain ⟨event, same, ticket, sequence, reduced⟩ := reduceEvent_some_eq_ok.mp reduced
      have entry : label = accepted event result := by
        cases label
        simp_all [accepted]
      exact entry ▸ kept soFar inv ⟨ticket, sequence, reduced⟩ (meets current rfl event same)
  exact along

/-- Every run is a run without a condition. -/
theorem LifecycleRun.unconditional (run : LifecycleRun history aggregate) :
    LifecycleRunIf (fun _ _ => True) history aggregate :=
  run.mono fun accepts => ⟨accepts, fun _ _ _ _ => trivial⟩

/-- A conditional run is a run. -/
theorem LifecycleRunIf.run (run : LifecycleRunIf allowed history aggregate) :
    LifecycleRun history aggregate :=
  run.mono fun accepts => accepts.1

/-- A run under a condition is a run under every weaker one. -/
theorem LifecycleRunIf.weaken {weaker : TradeAggregate → TicketEvent → Prop}
    (run : LifecycleRunIf allowed history aggregate)
    (implies : ∀ current event, allowed current event → weaker current event) :
    LifecycleRunIf weaker history aggregate :=
  run.mono fun accepts => ⟨accepts.1, fun current arrived event same =>
    implies current event (accepts.2 current arrived event same)⟩

/-- A run whose every event meets the condition, at the aggregate it arrived at. -/
theorem LifecycleRun.conditional (run : LifecycleRun history aggregate)
    (each : ∀ before current event result later,
      history = before ++ [accepted event result] ++ later → LifecycleRun before current →
        AcceptedOn current event result → allowed current event) :
    LifecycleRunIf allowed history aggregate := by
  have along : ∀ rest, history = history ++ rest →
      Run (AcceptsIf allowed) none history (some aggregate) := by
    refine run.history_invariant (fun past state => ∀ rest, history = past ++ rest →
      Run (AcceptsIf allowed) none past state) (fun _ _ => .nil) ?_
    intro past entry before after soFar conditional accepts rest split
    refine .snoc (conditional (entry :: rest) (by simpa using split)) ⟨accepts, ?_⟩
    rintro current ⟨⟩ event same
    obtain ⟨result, reduced, effects, -⟩ := accepts
    obtain ⟨other, equal, ticket, sequence, reduced⟩ := reduceEvent_some_eq_ok.mp reduced
    obtain rfl := TradeEvent.ticketEvent.inj (same.symm.trans equal)
    have whole : entry = accepted event result := by
      cases entry
      simp_all [accepted]
    exact each past current event result rest (whole ▸ split) soFar ⟨ticket, sequence, reduced⟩
  exact along [] (List.append_nil history).symm

/-- **The rule for all runs.** -/
theorem LifecycleRun.induct (run : LifecycleRun history aggregate)
    (Inv : List AcceptedEvent → TradeAggregate → Prop)
    (issued : ∀ header ticket, Inv (issuedHistory header ticket) (issuedAggregate ticket 1))
    (kept : ∀ {past current event result}, Inv past current →
      AcceptedOn current event result → Inv (past ++ [accepted event result]) result.aggregate) :
    Inv history aggregate :=
  run.unconditional.induct Inv issued fun _ inv on _ => kept inv on

/-- The rule for what only the aggregate shows. -/
theorem LifecycleRun.invariant (run : LifecycleRun history aggregate)
    (Inv : TradeAggregate → Prop) (issued : ∀ ticket, Inv (issuedAggregate ticket 1))
    (kept : ∀ {current event result}, Inv current → AcceptedOn current event result →
      Inv result.aggregate) :
    Inv aggregate :=
  run.induct (fun _ current => Inv current) (fun _ => issued) kept

/-- A run that has begun and its next event: the aggregate between them, and what was accepted. -/
theorem LifecycleRunIf.snoc_ticketEvent {entry : AcceptedEvent}
    (run : LifecycleRunIf allowed (history ++ [entry]) aggregate)
    (reports : entry.fact? ≠ none) : ∃ current event result,
      LifecycleRunIf allowed history current ∧ entry = accepted event result ∧
        AcceptedOn current event result ∧ allowed current event ∧
        aggregate = result.aggregate := by
  obtain ⟨middle, before, ⟨result, reduced, effects, same⟩, meets⟩ := Run.snoc_iff.mp run
  obtain rfl := Option.some.inj same
  cases middle with
  | none =>
    obtain ⟨header, ticket, issue, -⟩ := reduceEvent_none_eq_ok.mp reduced
    simp [AcceptedEvent.fact?, issue] at reports
  | some current =>
    obtain ⟨event, issue, ticket, sequence, reduced⟩ := reduceEvent_some_eq_ok.mp reduced
    have whole : entry = accepted event result := by
      cases entry
      simp_all [accepted]
    exact ⟨current, event, result, before, whole, ⟨ticket, sequence, reduced⟩,
      meets current rfl event issue, rfl⟩

/-- A run through an event: the run up to it, and the rest from the aggregate it left. -/
theorem LifecycleRunIf.through {before later : List AcceptedEvent} {entry : AcceptedEvent}
    (run : LifecycleRunIf allowed (before ++ [entry] ++ later) aggregate) :
    ∃ since, LifecycleRunIf allowed (before ++ [entry]) since ∧
      Run (AcceptsIf allowed) (some since) later (some aggregate) := by
  obtain ⟨middle, begun, rest⟩ := Run.append_iff.mp run
  obtain ⟨_, _, ⟨result, _, _, rfl⟩, _⟩ := Run.snoc_iff.mp begun
  exact ⟨result.aggregate, begun, rest⟩

/-- An entry of a run's history issued the Ticket, or was accepted on what the run had reached. -/
theorem LifecycleRun.at_entry (run : LifecycleRun history aggregate)
    {before later : List AcceptedEvent} {entry : AcceptedEvent}
    (split : history = before ++ [entry] ++ later) :
    (∃ header ticket, entry = ⟨.ticketIssued header ticket, issuedEffects ticket⟩) ∨
      ∃ current event result, LifecycleRun before current ∧ entry = accepted event result ∧
        AcceptedOn current event result := by
  subst split
  obtain ⟨_, begun, -⟩ := run.unconditional.through
  cases reports : entry.fact? with
  | none =>
    obtain ⟨middle, -, ⟨result, reduced, effects, -⟩, -⟩ := Run.snoc_iff.mp begun
    cases middle with
    | none =>
      obtain ⟨header, ticket, issue, -, rfl⟩ := reduceEvent_none_eq_ok.mp reduced
      refine .inl ⟨header, ticket, ?_⟩
      cases entry
      simp_all
    | some current =>
      obtain ⟨event, issue, -⟩ := reduceEvent_some_eq_ok.mp reduced
      simp [AcceptedEvent.fact?, issue] at reports
  | some fact =>
    obtain ⟨current, event, result, before_, same, on, -⟩ :=
      begun.snoc_ticketEvent (by simp [reports])
    exact .inr ⟨current, event, result, before_.run, same, on⟩

/-- Statuses that are only reached from each other: whoever is in one of them was in one of them
before. -/
theorem status_before {since : TradeAggregate} {later : List AcceptedEvent}
    {statuses : List AggregateStatus}
    (closed : ∀ edge ∈ Move.moveEdges, edge.2 ∈ statuses → edge.1 ∈ statuses)
    (rest : Run Accepts (some since) later (some aggregate))
    (member : aggregate.status ∈ statuses) : since.status ∈ statuses := by
  have along : ∃ reached, some aggregate = some reached ∧
      (reached.status ∈ statuses → since.status ∈ statuses) := by
    refine rest.invariant (fun state => ∃ reached, state = some reached ∧
      (reached.status ∈ statuses → since.status ∈ statuses)) ⟨since, rfl, id⟩ ?_
    rintro label _ after ⟨middle, rfl, back⟩ ⟨result, reduced, -, rfl⟩
    obtain ⟨event, -, -, -, accepted⟩ := reduceEvent_some_eq_ok.mp reduced
    refine ⟨result.aggregate, rfl, fun arrived => back ?_⟩
    exact (Move.of_reduceFact accepted).follows
      (fun edge => edge.2 ∈ statuses → edge.1 ∈ statuses) closed arrived
  obtain ⟨_, ⟨⟩, back⟩ := along
  exact back member

/-- **The rule for the rest of a run.** A relation between the events since some point and the
aggregate, that holds at that point and is kept by every accepted event that meets the condition,
holds along the rest of the run. -/
theorem LifecycleRunIf.induct_after {before : List AcceptedEvent} {since : TradeAggregate}
    {later : List AcceptedEvent} (begun : LifecycleRunIf allowed before since)
    (rest : Run (AcceptsIf allowed) (some since) later (some aggregate))
    (Inv : List AcceptedEvent → TradeAggregate → Prop) (start : Inv [] since)
    (kept : ∀ {past current event result}, LifecycleRunIf allowed (before ++ past) current →
      Inv past current → AcceptedOn current event result → allowed current event →
      Inv (past ++ [accepted event result]) result.aggregate) :
    Inv later aggregate := by
  have along : ∀ state, some aggregate = some state → Inv later state := by
    refine rest.history_invariant
      (fun past state => ∀ current, state = some current → Inv past current) ?_ ?_
    · rintro current ⟨⟩
      exact start
    · rintro past label middle after soFar inv ⟨⟨result, reduced, effects, rfl⟩, meets⟩ current ⟨⟩
      cases middle with
      | none =>
        exact absurd rfl (soFar.invariant (fun state => state ≠ none) (by simp) (by
          rintro label t u - ⟨⟨_, _, _, rfl⟩, _⟩
          simp))
      | some current =>
        have run : LifecycleRunIf allowed (before ++ past) current :=
          Run.append_iff.mpr ⟨_, begun, soFar⟩
        obtain ⟨event, same, ticket, sequence, reduced⟩ := reduceEvent_some_eq_ok.mp reduced
        have entry : label = accepted event result := by
          cases label
          simp_all [accepted]
        exact entry ▸ kept run (inv current rfl) ⟨ticket, sequence, reduced⟩
          (meets current rfl event same)
  exact along aggregate rfl

end Induction

end TradingKernel
