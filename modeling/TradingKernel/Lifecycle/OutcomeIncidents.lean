/-
**Incidents of unknown outcomes along a run.**

In every run whose events take their turns (`SettlesOutcome`), the opens and resolutions of a kind
alternate, what is resolved is open, and what is open is waited for or was overtaken by a flat position
(`outcome_incidents_balanced`). A late confirmation of the initial stop of an overrun leaves its incident
open (`initial_stop_incident_left_open`).
-/

import Mathlib.Data.List.Chain
import TradingKernel.Domain.IncidentTurns
import TradingKernel.Lifecycle.Replay

namespace TradingKernel

open Text Reducer

/-! ### Counting what is open -/

section Counting

variable {source target unknown : AggregateStatus} {effects first second : List KernelEffect}
  {kind : String} {n : ℕ}

/-- The number of open incidents of a kind, after one more mark. -/
def tally (kind : String) (n : ℕ) : IncidentMark → ℕ
  | .opened other => if other = kind then n + 1 else n
  | .resolved other => if other = kind then n - 1 else n
  | .closed => 0

theorem count_record (incidents : List String) (mark : IncidentMark) :
    (record incidents mark).count kind = tally kind (incidents.count kind) mark := by
  cases mark with
  | opened other => simp only [record, tally, List.count_cons, beq_iff_eq]; split_ifs <;> rfl
  | resolved other =>
    simp only [record, tally]
    split_ifs with same
    · rw [same, List.count_erase_self]
    · exact List.count_erase_of_ne (Ne.symm same)
  | closed => rfl

theorem count_foldl_record (marks : List IncidentMark) : ∀ incidents : List String,
    (marks.foldl record incidents).count kind = marks.foldl (tally kind) (incidents.count kind) := by
  induction marks with
  | nil => intro incidents; rfl
  | cons mark marks ih =>
    intro incidents
    rw [List.foldl_cons, List.foldl_cons, ih, count_record]

/-- Marks of other kinds do not count. -/
theorem tally_outcomeMarks (tracked : kind ∈ outcomeKinds) :
    (outcomeMarks effects).foldl (tally kind) n = (incidentMarks effects).foldl (tally kind) n := by
  unfold outcomeMarks
  generalize incidentMarks effects = marks
  induction marks generalizing n with
  | nil => rfl
  | cons mark marks ih =>
    rw [List.filter_cons, List.foldl_cons]
    split_ifs with listed
    · rw [List.foldl_cons, ih]
    · rw [ih]
      cases mark with
      | opened other | resolved other =>
        have differs : other ≠ kind := by
          rintro rfl
          simp [IncidentMark.kind?, tracked] at listed
        simp [tally, differs]
      | closed => simp [IncidentMark.kind?] at listed

/-- What is open after more effects. -/
theorem count_openAfter_append (tracked : kind ∈ outcomeKinds) :
    (openAfter (first ++ second)).count kind =
      (outcomeMarks second).foldl (tally kind) ((openAfter first).count kind) := by
  rw [tally_outcomeMarks tracked, openAfter, openAfter, count_foldl_record, count_foldl_record,
    incidentMarks, List.filterMap_append, List.foldl_append]
  rfl

theorem marksOf_eq (tracked : kind ∈ outcomeKinds) :
    marksOf kind effects = (outcomeMarks effects).filter fun mark => mark.kind? = some kind := by
  rw [marksOf, outcomeMarks, List.filter_filter]
  refine List.filter_congr fun mark _ => ?_
  by_cases same : mark.kind? = some kind
  · simp [same, tracked]
  · simp [same]

theorem marksOf_append : marksOf kind (first ++ second) = marksOf kind first ++ marksOf kind second := by
  simp [marksOf, incidentMarks]

/-- A turn marks the kind of the status that is left, and that of the one that is entered. -/
theorem marksOf_of_turn (turn : IncidentTurn source effects target)
    (incident : outcomeIncident unknown = some kind) :
    marksOf kind effects = (if source = unknown then [.resolved kind] else []) ++
      (if target = unknown then [.opened kind] else []) := by
  have left : outcomeIncident source = some kind ↔ source = unknown :=
    outcomeIncident_eq_some_iff incident
  have entered : outcomeIncident target = some kind ↔ target = unknown :=
    outcomeIncident_eq_some_iff incident
  rw [marksOf_eq (mem_outcomeKinds incident), turn, List.filter_append]
  congr 1
  · cases at_source : outcomeIncident source with
    | none => simp [← left, at_source]
    | some other => by_cases same : other = kind <;> simp [← left, at_source, same, IncidentMark.kind?]
  · cases at_target : outcomeIncident target with
    | none => simp [← entered, at_target]
    | some other =>
      by_cases same : other = kind <;> simp [← entered, at_target, same, IncidentMark.kind?]

theorem tally_of_turn (turn : IncidentTurn source effects target)
    (incident : outcomeIncident unknown = some kind) :
    (outcomeMarks effects).foldl (tally kind) n =
      (if source = unknown then n - 1 else n) + (if target = unknown then 1 else 0) := by
  have left : outcomeIncident source = some kind ↔ source = unknown :=
    outcomeIncident_eq_some_iff incident
  have entered : outcomeIncident target = some kind ↔ target = unknown :=
    outcomeIncident_eq_some_iff incident
  rw [turn, List.foldl_append]
  have first : ((outcomeIncident source).map IncidentMark.resolved).toList.foldl (tally kind) n =
      if source = unknown then n - 1 else n := by
    cases at_source : outcomeIncident source with
    | none => simp [← left, at_source]
    | some other => by_cases same : other = kind <;> simp [← left, at_source, same, tally]
  rw [first]
  cases at_target : outcomeIncident target with
  | none => simp [← entered, at_target]
  | some other => by_cases same : other = kind <;> simp [← entered, at_target, same, tally]

end Counting

/-! ### Alternation -/

section Alternation

variable {kind : String} {marks : List IncidentMark} {mark : IncidentMark}

theorem alternating_nil : Alternating kind [] :=
  ⟨List.isChain_nil, by simp⟩

/-- One more mark that differs from the last, and opens if it is the first. -/
theorem Alternating.snoc (turns : Alternating kind marks)
    (differs : ∀ last ∈ marks.getLast?, last ≠ mark)
    (first : marks = [] → mark = .opened kind) : Alternating kind (marks ++ [mark]) := by
  refine ⟨List.isChain_append.mpr ⟨turns.1, List.isChain_singleton _, ?_⟩, ?_⟩
  · intro last is_last next is_next
    obtain rfl : mark = next := by simpa using is_next
    exact differs last is_last
  · intro head is_head
    cases marks with
    | nil =>
      obtain rfl : mark = head := by simpa using is_head
      exact first rfl
    | cons other others => exact turns.2 head is_head

theorem Alternating.resolve (turns : Alternating kind marks)
    (opened : marks.getLast? = some (.opened kind)) :
    Alternating kind (marks ++ [.resolved kind]) := by
  refine turns.snoc ?_ ?_
  · rw [opened]
    rintro _ ⟨⟩
    simp
  · rintro rfl
    simp at opened

theorem Alternating.open (turns : Alternating kind marks)
    (unopened : marks.getLast? ≠ some (.opened kind)) :
    Alternating kind (marks ++ [.opened kind]) := by
  refine turns.snoc ?_ fun _ => rfl
  rintro last is_last rfl
  exact unopened is_last

end Alternation

/-! ### The invariant -/

/-- The effects along a history. -/
def requestedEffects (history : List AcceptedEvent) : List KernelEffect :=
  history.flatMap AcceptedEvent.effects

/-- A flat position was accepted while the Ticket waited in the status. -/
def Overtaken (unknown : AggregateStatus) (history : List AcceptedEvent) : Prop :=
  ∃ before current event result later, LifecycleRun before current ∧
    history = before ++ [accepted event result] ++ later ∧ current.status = unknown ∧
    event.fact.findsFlat = true

/-- The statuses of a Ticket that cleans up after its position. -/
def cleaningStatuses : List AggregateStatus := .reconciliationPending :: cancelStatuses

/-- The statuses of a Ticket without its position. -/
def flatStatuses : List AggregateStatus :=
  cleaningStatuses ++ [.settlementPending, .reviewPending, .terminal]

/-- The incident of the status is open while the Ticket waits in it, and after it only where a flat
position overtook the outcome. -/
structure IncidentBalance (unknown : AggregateStatus) (kind : String) (history : List AcceptedEvent)
    (current : TradeAggregate) : Prop where
  turns : Alternating kind (marksOf kind (requestedEffects history))
  waiting : current.status = unknown →
    (marksOf kind (requestedEffects history)).getLast? = some (.opened kind) ∧
      (openAfter (requestedEffects history)).count kind = 1
  moved : current.status ≠ unknown →
    ((marksOf kind (requestedEffects history)).getLast? ≠ some (.opened kind) ∧
      (openAfter (requestedEffects history)).count kind = 0) ∨
    (unknown ∉ flatStatuses ∧ current.status ∈ flatStatuses ∧
      ((openAfter (requestedEffects history)).count kind ≠ 0 →
        current.status ∈ cleaningStatuses ∧ Overtaken unknown history))

theorem Overtaken.append {unknown : AggregateStatus} {history later : List AcceptedEvent}
    (overtaken : Overtaken unknown history) : Overtaken unknown (history ++ later) := by
  obtain ⟨before, current, event, result, since, run, rfl, waited, flat⟩ := overtaken
  exact ⟨before, current, event, result, since ++ later, run, List.append_assoc _ _ _, waited, flat⟩

/-- A settlement begins with a match. -/
theorem Move.match_of_settlement {current : TradeAggregate} {event : TicketEvent}
    {fact : TicketFact} {result : Reduction} (move : Move current event fact result)
    (settles : result.aggregate.status = .settlementPending) : fact.isMatch = true := by
  have from_edge {edges : List (AggregateStatus × AggregateStatus)} {status : AggregateStatus}
      (edge : (current.status, status) ∈ edges) (never : ∀ pair ∈ edges, pair.2 ≠ .settlementPending)
      (target : status = .settlementPending) : fact.isMatch = true :=
    absurd target (never _ edge)
  cases move with
  | kept quiet edge silent cancelling => exact from_edge edge (by decide) settles
  | closedUnfilled unfilled edge empty silent => exact from_edge edge (by decide) settles
  | exitOrderAccepted loud edge silent => exact from_edge edge (by decide) settles
  | @entryFilled fact member full =>
    exact absurd settles ((by decide : ∀ status ∈ ([.controlledFlattenPending, .protectionPending] :
      List AggregateStatus), status ≠ .settlementPending) _ (entryFilledTarget_mem fact))
  | initialStopConfirmed member target covers named silent =>
    exact absurd settles ((by decide : ∀ status ∈ ([.controlledFlattenPending,
      .postFillRiskPending] : List AggregateStatus), status ≠ .settlementPending) _ target)
  | reconciliationMatched status clean unprotected settled => rfl
  | _ => cases settles

namespace IncidentBalance

variable {unknown : AggregateStatus} {kind : String} {past : List AcceptedEvent}
  {current : TradeAggregate} {event : TicketEvent} {result : Reduction}

theorem requestedEffects_append :
    requestedEffects (past ++ [accepted event result]) = requestedEffects past ++ result.effects := by
  simp [requestedEffects, accepted]

/-- What a Ticket that does not wait leaves behind, unless a flat position overtook the outcome: all
opens are resolved. -/
structure Resolved (kind : String) (marks : List IncidentMark) (count : ℕ) : Prop where
  turns : Alternating kind marks
  last : marks.getLast? ≠ some (.opened kind)
  none : count = 0

/-- The rest of a turn: the incident of the status that is entered. -/
theorem of_resolved {marks : List IncidentMark} {count : ℕ} (resolved : Resolved kind marks count)
    (marked : marksOf kind (requestedEffects (past ++ [accepted event result])) = marks ++
      if result.aggregate.status = unknown then [.opened kind] else [])
    (counted : (openAfter (requestedEffects (past ++ [accepted event result]))).count kind =
      count + if result.aggregate.status = unknown then 1 else 0) :
    IncidentBalance unknown kind (past ++ [accepted event result]) result.aggregate := by
  rw [resolved.none, Nat.zero_add] at counted
  split_ifs at marked counted with enters
  · refine ⟨?_, fun _ => ⟨?_, counted⟩, fun elsewhere => absurd enters elsewhere⟩
    · rw [marked]
      exact resolved.turns.open resolved.last
    · rw [marked, List.getLast?_concat]
  · rw [List.append_nil] at marked
    refine ⟨?_, fun waits => absurd waits enters, fun _ => .inl ⟨?_, counted⟩⟩
    · rw [marked]
      exact resolved.turns
    · rw [marked]
      exact resolved.last

/-- A turn of the incidents keeps the balance. -/
theorem turned (balanced : IncidentBalance unknown kind past current)
    (incident : outcomeIncident unknown = some kind)
    (turn : IncidentTurn current.status result.effects result.aggregate.status)
    (stays : current.status ∈ cleaningStatuses → result.aggregate.status ∈ cleaningStatuses)
    (flat : current.status ∈ flatStatuses → result.aggregate.status ∈ flatStatuses) :
    IncidentBalance unknown kind (past ++ [accepted event result]) result.aggregate := by
  have marked : marksOf kind (requestedEffects (past ++ [accepted event result])) =
      marksOf kind (requestedEffects past) ++ marksOf kind result.effects := by
    rw [requestedEffects_append, marksOf_append]
  have counted : (openAfter (requestedEffects (past ++ [accepted event result]))).count kind =
      (outcomeMarks result.effects).foldl (tally kind)
        ((openAfter (requestedEffects past)).count kind) := by
    rw [requestedEffects_append, count_openAfter_append (mem_outcomeKinds incident)]
  rw [marksOf_of_turn turn incident, ← List.append_assoc] at marked
  rw [tally_of_turn turn incident] at counted
  by_cases waits : current.status = unknown
  · obtain ⟨last, one⟩ := balanced.waiting waits
    rw [if_pos waits] at marked counted
    refine of_resolved ⟨balanced.turns.resolve last, ?_, ?_⟩ marked counted
    · rw [List.getLast?_concat]
      simp
    · rw [one]
  · rw [if_neg waits, List.append_nil] at marked
    rw [if_neg waits] at counted
    rcases balanced.moved waits with ⟨last, none⟩ | ⟨outside, here, overtaken⟩
    · exact of_resolved ⟨balanced.turns, last, none⟩ marked counted
    · -- the Ticket is flat, and the status is not one of a flat Ticket
      have elsewhere : result.aggregate.status ≠ unknown := fun enters =>
        outside (enters ▸ flat here)
      rw [if_neg elsewhere, List.append_nil] at marked
      rw [if_neg elsewhere, Nat.add_zero] at counted
      refine ⟨?_, fun enters => absurd enters elsewhere, fun _ => .inr ⟨outside, flat here, ?_⟩⟩
      · rw [marked]
        exact balanced.turns
      · rw [counted]
        intro left
        exact ⟨stays (overtaken left).1, (overtaken left).2.append⟩

/-- A flat position leaves the incident to the closure. -/
theorem flattened (balanced : IncidentBalance unknown kind past current) (run : LifecycleRun past current)
    (incident : outcomeIncident unknown = some kind) (flat : event.fact.findsFlat = true)
    (silent : outcomeMarks result.effects = [])
    (cleans : result.aggregate.status = .reconciliationPending)
    (positioned : current.status ∉ flatStatuses) :
    IncidentBalance unknown kind (past ++ [accepted event result]) result.aggregate := by
  have elsewhere : result.aggregate.status ≠ unknown := by
    rintro rfl
    rw [cleans] at incident
    simp [outcomeIncident] at incident
  have marked : marksOf kind (requestedEffects (past ++ [accepted event result])) =
      marksOf kind (requestedEffects past) := by
    have none : marksOf kind result.effects = [] := by
      rw [marksOf_eq (mem_outcomeKinds incident), silent, List.filter_nil]
    rw [requestedEffects_append, marksOf_append, none, List.append_nil]
  have counted : (openAfter (requestedEffects (past ++ [accepted event result]))).count kind =
      (openAfter (requestedEffects past)).count kind := by
    rw [requestedEffects_append, count_openAfter_append (mem_outcomeKinds incident), silent]
    rfl
  refine ⟨marked ▸ balanced.turns, fun enters => absurd enters elsewhere, fun _ => ?_⟩
  rw [marked, counted]
  by_cases waits : current.status = unknown
  · refine .inr ⟨waits ▸ positioned, ?_, fun _ => ⟨?_, ?_⟩⟩
    · rw [cleans]
      decide
    · rw [cleans]
      decide
    · exact ⟨past, current, event, result, [], run, (List.append_nil _).symm, waits, flat⟩
  · exact .inl ((balanced.moved waits).resolve_right fun overtaken => positioned overtaken.2.1)

/-- The closure resolves what is left. -/
theorem matched (balanced : IncidentBalance unknown kind past current)
    (incident : outcomeIncident unknown = some kind)
    (cleaned : current.status = .reconciliationPending)
    (closes : outcomeMarks result.effects = [.closed])
    (settles : result.aggregate.status = .settlementPending) :
    IncidentBalance unknown kind (past ++ [accepted event result]) result.aggregate := by
  have waits_not {status : AggregateStatus} (known : outcomeIncident status = none) :
      status ≠ unknown := by
    rintro rfl
    rw [known] at incident
    simp at incident
  have marked : marksOf kind (requestedEffects (past ++ [accepted event result])) =
      marksOf kind (requestedEffects past) := by
    have none : marksOf kind result.effects = [] := by
      rw [marksOf_eq (mem_outcomeKinds incident), closes]
      rfl
    rw [requestedEffects_append, marksOf_append, none, List.append_nil]
  have counted : (openAfter (requestedEffects (past ++ [accepted event result]))).count kind = 0 := by
    rw [requestedEffects_append, count_openAfter_append (mem_outcomeKinds incident), closes]
    rfl
  refine ⟨marked ▸ balanced.turns, fun enters => ?_, fun _ => ?_⟩
  · exact absurd (settles.symm.trans enters) (waits_not rfl)
  · rw [marked, counted]
    have moved := balanced.moved (by rw [cleaned]; exact waits_not rfl)
    refine moved.imp (fun resolved => ⟨resolved.1, rfl⟩) fun overtaken => ⟨overtaken.1, ?_, ?_⟩
    · rw [settles]
      decide
    · exact fun left => absurd rfl left

/-- Every event that settles the outcome it ends keeps the balance. -/
theorem step (balanced : IncidentBalance unknown kind past current) (run : LifecycleRun past current)
    (incident : outcomeIncident unknown = some kind) (on : AcceptedOn current event result)
    (settles : SettlesOutcome current event) :
    IncidentBalance unknown kind (past ++ [accepted event result]) result.aggregate := by
  cases flat : event.fact.findsFlat with
  | true =>
    obtain ⟨silent, cleans⟩ := flat_of_reduceFact on.reduced flat
    refine balanced.flattened run incident flat silent cleans fun inside => ?_
    have source := source_mem on.reduced
    cases fact : event.fact with
    | positionFlatConfirmed | externalFlatDetected =>
      rw [fact] at source
      exact (by decide : ∀ status ∈ flatStatuses, status ∉ TicketFact.sources _) _ inside source
    | _ => simp [fact, TicketFact.findsFlat] at flat
  | false =>
    cases matches_ : event.fact.isMatch with
    | true =>
      obtain ⟨cleaned, closes, settled⟩ := match_of_reduceFact on.reduced matches_
      exact balanced.matched incident cleaned closes settled
    | false =>
      refine balanced.turned incident (turn_of_reduceFact on.reduced rfl settles flat matches_) ?_ ?_
      · intro cleaning
        refine (on.move.follows (fun edge => edge.1 ∈ cleaningStatuses →
          edge.2 ∈ cleaningStatuses ∨ edge.2 = .settlementPending) (by decide) cleaning).resolve_right
            fun settled => ?_
        have closes := on.move.match_of_settlement settled
        rw [matches_] at closes
        exact Bool.noConfusion closes
      · exact on.move.follows (fun edge => edge.1 ∈ flatStatuses → edge.2 ∈ flatStatuses) (by decide)

end IncidentBalance

/-! ### The law and its exception -/

section Law

variable {history : List AcceptedEvent} {aggregate : TradeAggregate} {unknown : AggregateStatus}
  {kind : String}

/-- What a run keeps of the incident of an unknown outcome, at the state it reached and over the next
event. -/
structure KeepsIncident (allowed : TradeAggregate → TicketEvent → Prop) (unknown : AggregateStatus)
    (kind : String) (history : List AcceptedEvent) (aggregate : TradeAggregate) : Prop where
  /-- Opens and resolutions alternate, an open first. -/
  alternate : Alternating kind (marksOf kind (requestedEffects history))
  /-- What ends the unknown outcome resolves it, unless it finds the position flat. -/
  ends : ∀ {event result}, AcceptedOn aggregate event result → allowed aggregate event →
    aggregate.status = unknown → result.aggregate.status ≠ unknown → event.fact.findsFlat = false →
    .resolveIncident aggregate.ticketId kind ∈ result.effects
  /-- What is resolved is open. -/
  found : ∀ {event result}, AcceptedOn aggregate event result → allowed aggregate event →
    ∀ {first rest ticketId}, result.effects = first ++ .resolveIncident ticketId kind :: rest →
    kind ∈ openAfter (requestedEffects history ++ first)
  /-- What is open is waited for, or to be closed with the flat position that overtook it. -/
  left : kind ∈ openAfter (requestedEffects history) → aggregate.status = unknown ∨
    aggregate.status ∈ cleaningStatuses ∧ Overtaken unknown history

theorem incident_balance_of_run (run : LifecycleRunIf SettlesOutcome history aggregate)
    (incident : outcomeIncident unknown = some kind) : IncidentBalance unknown kind history aggregate := by
  refine run.induct (IncidentBalance unknown kind) ?_ fun before balanced on settles =>
    balanced.step before.run incident on settles
  intro header ticket
  have silent : incidentMarks (requestedEffects (issuedHistory header ticket)) = [] := by
    simp only [requestedEffects, issuedHistory, List.flatMap_singleton, issuedEffects]
    split_ifs <;> rfl
  have known : (issuedAggregate ticket 1).status ≠ unknown := by
    rintro rfl
    exact issued_not_mem ticket (by decide) (mem_outcomeStatuses incident)
  refine ⟨?_, fun waits => absurd waits known, fun _ => .inl ?_⟩
  · rw [marksOf, silent]
    exact alternating_nil
  · rw [marksOf, openAfter, silent]
    simp

theorem mem_of_mark {effects : List KernelEffect} (tracked : kind ∈ outcomeKinds)
    (marked : .resolved kind ∈ outcomeMarks effects) :
    ∃ ticketId, .resolveIncident ticketId kind ∈ effects := by
  obtain ⟨effect, member, mark⟩ := List.mem_filterMap.mp (List.mem_filter.mp marked).1
  cases effect with
  | resolveIncident ticketId other =>
    obtain rfl : other = kind := by simpa [KernelEffect.incidentMark?] using mark
    exact ⟨ticketId, member⟩
  | _ => simp [KernelEffect.incidentMark?] at mark

/-- A resolution among the marks of a turn comes first, and is of the status that is left. -/
theorem left_of_resolved {source target : AggregateStatus} {first rest : List KernelEffect}
    {ticketId : String} (tracked : kind ∈ outcomeKinds)
    (turn : IncidentTurn source (first ++ .resolveIncident ticketId kind :: rest) target) :
    outcomeIncident source = some kind ∧ outcomeMarks first = [] := by
  have resolves : outcomeMarks (.resolveIncident ticketId kind :: rest) =
      .resolved kind :: outcomeMarks rest := by
    simp [outcomeMarks, incidentMarks, KernelEffect.incidentMark?, IncidentMark.kind?, tracked]
  have unopened : IncidentMark.resolved kind ∉
      ((outcomeIncident target).map IncidentMark.opened).toList := by
    simp
  rw [IncidentTurn, outcomeMarks_append, resolves] at turn
  cases left : outcomeIncident source with
  | none =>
    rw [left, Option.map_none, Option.toList_none, List.nil_append] at turn
    refine absurd ?_ unopened
    rw [← turn]
    exact List.mem_append_right _ List.mem_cons_self
  | some other =>
    rw [left, Option.map_some, Option.toList_some, List.singleton_append] at turn
    cases marks : outcomeMarks first with
    | nil =>
      rw [marks, List.nil_append] at turn
      obtain rfl := IncidentMark.resolved.inj (List.cons.inj turn).1
      exact ⟨rfl, rfl⟩
    | cons mark more =>
      rw [marks, List.cons_append] at turn
      refine absurd ?_ unopened
      rw [← (List.cons.inj turn).2]
      exact List.mem_append_right _ List.mem_cons_self

/-- An accepted event that touches the incident by resolving it takes a turn. -/
theorem turn_of_marked {event : TicketEvent} {result : Reduction} {tracked : String}
    (on : AcceptedOn aggregate event result) (settles : SettlesOutcome aggregate event)
    (marked : .resolved tracked ∈ outcomeMarks result.effects) :
    IncidentTurn aggregate.status result.effects result.aggregate.status := by
  cases flat : event.fact.findsFlat with
  | true =>
    rw [(flat_of_reduceFact on.reduced flat).1] at marked
    simp at marked
  | false =>
    cases matches_ : event.fact.isMatch with
    | true =>
      rw [(match_of_reduceFact on.reduced matches_).2.1] at marked
      simp at marked
    | false => exact turn_of_reduceFact on.reduced rfl settles flat matches_

/-- **Incidents of unknown outcomes are balanced**, in every run whose events settle the outcomes they
end. -/
theorem outcome_incidents_balanced (run : LifecycleRunIf SettlesOutcome history aggregate)
    (incident : outcomeIncident unknown = some kind) :
    KeepsIncident SettlesOutcome unknown kind history aggregate := by
  have balanced := incident_balance_of_run run incident
  have tracked := mem_outcomeKinds incident
  refine ⟨balanced.turns, ?_, ?_, ?_⟩
  · intro event result on settles waits ends positioned
    have unmatched : event.fact.isMatch = false := by
      refine Bool.eq_false_iff.mpr fun matches_ => ?_
      rw [← waits, (match_of_reduceFact on.reduced matches_).1] at incident
      simp [outcomeIncident] at incident
    have turn := turn_of_reduceFact on.reduced rfl settles positioned unmatched
    rw [IncidentTurn, waits, incident] at turn
    obtain ⟨ticketId, member⟩ := mem_of_mark tracked (by rw [turn]; exact List.mem_cons_self)
    obtain rfl : ticketId = aggregate.ticketId := concerning_of_reduceFact on.reduced _ member
    exact member
  · intro event result on settles first rest ticketId split
    have marked : .resolved kind ∈ outcomeMarks result.effects := by
      rw [split]
      simp [outcomeMarks, incidentMarks, KernelEffect.incidentMark?, IncidentMark.kind?, tracked]
    have turn := turn_of_marked on settles marked
    rw [split] at turn
    obtain ⟨left, silent⟩ := left_of_resolved tracked turn
    have waits := (outcomeIncident_eq_some_iff incident).mp left
    rw [← List.count_pos_iff, count_openAfter_append tracked, silent]
    exact (balanced.waiting waits).2.symm ▸ one_pos
  · intro isOpen
    have some_ : (openAfter (requestedEffects history)).count kind ≠ 0 :=
      (List.count_pos_iff.mpr isOpen).ne'
    by_cases waits : aggregate.status = unknown
    · exact .inl waits
    · rcases balanced.moved waits with ⟨-, none⟩ | ⟨-, -, overtaken⟩
      · exact absurd none some_
      · exact .inr (overtaken some_)

/-- The law on a position whose stop was confirmed late, without an overrun. -/
theorem outcome_incidents_balanced_when_stopped : ∃ history aggregate,
    LifecycleRunIf SettlesOutcome history aggregate ∧
      outcomeIncident .initialStopOutcomeUnknown = some "initial_stop_outcome_unknown" ∧
      aggregate.status = .postFillRiskPending ∧
      KeepsIncident SettlesOutcome .initialStopOutcomeUnknown "initial_stop_outcome_unknown"
        history aggregate := by
  obtain ⟨history, aggregate, run, reached⟩ := exists_run SettlesOutcome
    [⟨.entryAccepted "entry-1", rfl⟩, ⟨.entryFilled sampleFill, rfl⟩,
      ⟨.initialStopOutcomeUnknown "timeout", rfl⟩, ⟨.initialStopConfirmed "stop-1" 4, rfl⟩]
    (fun _ aggregate => aggregate.status = .postFillRiskPending) (by decide)
  exact ⟨history, aggregate, run, rfl, by simpa using reached,
    outcome_incidents_balanced run rfl⟩

/-- A full fill far above the reference price, which is flattened behind its stop. -/
def overrunFill : EntryFilled where
  filledQty := 4
  averageFillPrice := 110
  postFillRisk := ⟨.hardOverrun, .flattenAfterProtection, 80⟩
  venueReportedLiquidationPrice := none
  positionObservedAtMs := 1000

/-- **The incident left open.** The late confirmation of the stop of an overrun starts the flatten, and
leaves the incident of the unknown outcome open. -/
theorem initial_stop_incident_left_open : ¬ ∀ history aggregate, LifecycleRun history aggregate →
    ∀ unknown kind, outcomeIncident unknown = some kind →
      KeepsIncident (fun _ _ => True) unknown kind history aggregate := by
  intro keeps
  obtain ⟨history, aggregate, run, reached⟩ := exists_run (fun _ _ => True)
    [⟨.entryAccepted "entry-1", rfl⟩, ⟨.entryFilled overrunFill, rfl⟩,
      ⟨.initialStopOutcomeUnknown "timeout", rfl⟩, ⟨.initialStopConfirmed "stop-1" 4, rfl⟩]
    (fun history aggregate => aggregate.status = .controlledFlattenPending ∧
      "initial_stop_outcome_unknown" ∈ openAfter (requestedEffects history)) (by decide)
  simp only [decide_eq_true_eq] at reached
  have left := (keeps history aggregate run.run .initialStopOutcomeUnknown _ rfl).left reached.2
  rw [reached.1] at left
  simp [cleaningStatuses, cancelStatuses] at left

end Law

end TradingKernel
