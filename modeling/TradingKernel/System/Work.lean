/-
**All the workers on one Ticket, and what one of their transactions does.**

A `Work` is an action of the dispatcher, the reconciliation or the lifecycle (`Action`), the
recovery of an unknown outcome, or a step of a draining vacuum. `Worked` is what a work that did not
raise has done: it looked and changed nothing, it claimed or superseded a command, it reported the
outcome of one command, or it recorded a fact that no command is behind. Every invariant of the
stored commands is a case analysis over it (`Worked.of_work`), and the aggregate of every run is one
that a lifecycle run reaches (`WorkRun.history`).
-/

import TradingKernel.Application.CommandSlots
import TradingKernel.Application.DrainVacuum
import TradingKernel.System.Steps

namespace TradingKernel

open Text Guard

/-! ### Works -/

inductive Work where
  | act (action : Action)
  | recover (key : CommandKey) (reading : VenueReading)
  | drain (entryVacuumId : NonBlankText) (nowMs : ℤ) (reading : VacuumReading)

/-- What a work leaves. -/
def Kernel.work (kernel : Kernel) : Work → Except Raised Kernel
  | .act action => kernel.apply action
  | .recover key reading => kernel.recoverUnknownCommand key reading
  | .drain entryVacuumId nowMs reading => kernel.drainEntryVacuum entryVacuumId nowMs reading

/-- A work that meets a condition on the kernel it arrives at, and does not raise. -/
def WorkStep (allowed : Kernel → Work → Prop) (kernel : Kernel) (work : Work) (next : Kernel) :
    Prop :=
  kernel.work work = .ok next ∧ allowed kernel work

/-- The runs from the issue of a Ticket whose works all meet the condition. -/
structure WorkRun (allowed : Kernel → Work → Prop) (start : Kernel) (works : List Work)
    (kernel : Kernel) : Prop where
  issued : ∃ claim header ticket, Kernel.issue claim header ticket = .ok start
  steps : Run (WorkStep allowed) start works kernel

/-! ### What a work does -/

/-- The Ticket is as it was, with incidents that may have opened. -/
structure Undisturbed (kernel next : Kernel) : Prop where
  aggregate : next.aggregate = kernel.aggregate
  claim : next.claim = kernel.claim
  incidents : ∃ opened, next.openIncidents = opened ++ kernel.openIncidents

/-- The same command in another status. -/
def CommandRow.Became (row : CommandRow) (status : ExchangeCommandStatus) (new : CommandRow) :
    Prop :=
  new.command.toCommandTerms = row.command.toCommandTerms ∧ new.status = status

section Became

variable (row : CommandRow)

theorem CommandRow.became_claimedBy (workerId : NonBlankText) (leaseUntilMs : ℤ) :
    row.Became .claimed (row.claimedBy workerId leaseUntilMs) := ⟨rfl, rfl⟩

theorem CommandRow.became_completed (status : ExchangeCommandStatus) (completedAtMs : ℤ) :
    row.Became status (row.completed status completedAtMs) := ⟨rfl, rfl⟩

theorem CommandRow.became_settled (status : ExchangeCommandStatus) (settledAtMs : ℤ) :
    row.Became status (row.settled status settledAtMs) := ⟨rfl, rfl⟩

end Became

/-- How an outcome settles a command: by the venue's answer while it is claimed, and by a lookup
while its outcome is unknown. -/
def settlements :
    List (ExchangeCommandStatus × CommandOutcome × ExchangeCommandStatus) :=
  [(.claimed, .confirmed, .accepted), (.claimed, .refused, .rejected),
    (.claimed, .unknown, .outcomeUnknown), (.outcomeUnknown, .confirmed, .reconciledAccepted),
    (.outcomeUnknown, .absent, .reconciledAbsent), (.outcomeUnknown, .refused, .reconciledAbsent)]

/-- A cancel that was carried out is reported in the status it is dispatched in, or in the status of
its unknown outcome. -/
def Placed (status : AggregateStatus) (command : ExchangeCommand) (outcome : CommandOutcome) :
    Prop :=
  outcome = .confirmed → ∀ payload, command.payload = .cancel payload →
    status ∈ [payload.purpose.applicableStatus, payload.purpose.unknownStatus]

section Placed

variable {aggregate : TradeAggregate} {command : ExchangeCommand} {status : AggregateStatus}
  {outcome : CommandOutcome} {fact : PlainFact}

theorem Placed.of_order (order : command.kind ≠ .cancelOrder) : Placed status command outcome :=
  fun _ _ carried => absurd (kind_of_cancel_payload carried) order

theorem Placed.of_other (other : outcome ≠ .confirmed) : Placed status command outcome :=
  fun confirmed => absurd confirmed other

theorem Placed.of_dispatch {answer : DispatchResult}
    (built : commandResultFact command aggregate answer = .ok fact) :
    Placed aggregate.status command outcome :=
  fun _ _ carried => List.mem_cons.mpr (.inl (applicable_of_commandResultFact carried built))

theorem Placed.of_recovery {decided : UnknownRecoveryDecision}
    (absent : decided.status = .reconciledAbsent)
    (built : recoveryFact aggregate command decided = .ok fact) :
    Placed aggregate.status command outcome := by
  intro _ payload carried
  rw [unknown_of_recoveryFact carried absent built]
  simp

end Placed

/-- Whose outcome a work reports, and by what. -/
inductive Reports (kernel : Kernel) (row : CommandRow) : Work → CommandOutcome → Prop
  | answer (workerId : NonBlankText) (answer : DispatchResult) :
      Reports kernel row (.act (.record row.key workerId answer))
        (checkedResult row.command answer).outcome
  | expiry (nowMs : ℤ) : Reports kernel row (.act (.expire row.key nowMs)) .unknown
  | leverage (truth : LeverageTruthSnapshot) (outcome : CommandOutcome) :
      Reports kernel row (.recover row.key (.leverage truth)) outcome
  | lookup (truth : VenueTruthSnapshot) (visibilityDeadlineMs : ℤ)
      (decided : UnknownRecoveryDecision) (outcome : CommandOutcome)
      (decides : decideUnknownRecovery row.command truth visibilityDeadlineMs = .ok decided)
      (submits : outcome = .confirmed → row.kind ≠ .cancelOrder →
        decided.status = .reconciledSubmitted)
      (isAbsent : outcome = .absent ∨ outcome = .confirmed ∧ row.kind = .cancelOrder →
        decided.status = .reconciledAbsent) :
      Reports kernel row (.recover row.key (.order truth visibilityDeadlineMs)) outcome

/-- The facts that no command is behind: what a snapshot shows, what a lifecycle worker decides, and
what a vacuum finds of the ENTRY. -/
inductive Volunteers (kernel : Kernel) : Work → TicketFact → Prop
  | reconciled (latestObservedAtMs : Option ℤ) (openIncidentKind : Option String)
      (snapshot : PositionSnapshot) (fact : TicketFact)
      (reconciles : Reconciles kernel.aggregate snapshot fact) :
      Volunteers kernel (.act (.reconcile latestObservedAtMs openIncidentKind snapshot)) fact
  | advanced (fact : PlainFact) (occurredAtMs : ℤ) (advances : fact.val.advances = true) :
      Volunteers kernel (.act (.advance fact occurredAtMs)) fact.val
  | drained (entryVacuumId : NonBlankText) (nowMs : ℤ) (reading : VacuumReading)
      (fact : TicketFact)
      (drains : Drains kernel.aggregate entryVacuumId reading.positionSnapshot fact)
      (dispatched : kernel.aggregate.status = .entryVacuumCancelPending →
        ¬ awaitsVacuumCancel kernel.commands.listForTicket entryVacuumId) :
      Volunteers kernel (.drain entryVacuumId nowMs reading) fact

/-- **What a work has done.** -/
inductive Worked (kernel : Kernel) (work : Work) (next : Kernel) : Prop
  | looked (same : next.commands = kernel.commands) (kept : Undisturbed kernel next)
  | claimed (row new : CommandRow) (workerId : NonBlankText) (nowMs leaseUntilMs : ℤ)
      (vacuum : Option NonBlankText)
      (made : work = .act (.claim row.key workerId nowMs leaseUntilMs vacuum))
      (prepared : row.status = .prepared) (became : row.Became .claimed new)
      (applicable : commandIsApplicable row.command kernel.aggregate.status = true)
      (replaced : Table.Replaced kernel.commands row new next.commands)
      (kept : Undisturbed kernel next)
  | superseded (row new : CommandRow) (prepared : row.status = .prepared)
      (became : row.Became .superseded new)
      (passed : commandIsApplicable row.command kernel.aggregate.status = false)
      (replaced : Table.Replaced kernel.commands row new next.commands)
      (kept : Undisturbed kernel next)
  | vacuumed (row new : CommandRow) (commands : CommandTable) (event : TicketEvent)
      (reduction : Reduction) (occurredAtMs : ℤ) (fact : EntryVacuumSuperseded)
      (prepared : row.status = .prepared) (became : row.Became .superseded new)
      (first : row.kind = .setLeverage ∨ row.kind = .entry)
      (replaced : Table.Replaced kernel.commands row new commands)
      (supersedes : event.fact = .entryVacuumSuperseded fact)
      (committed : Committed kernel commands event reduction occurredAtMs next)
  | answered (row new : CommandRow) (commands : CommandTable) (event : TicketEvent)
      (reduction : Reduction) (occurredAtMs : ℤ) (outcome : CommandOutcome)
      (reports : Reports kernel row work outcome)
      (settles : (row.status, outcome, new.status) ∈ settlements)
      (became : row.Became new.status new)
      (replaced : Table.Replaced kernel.commands row new commands)
      (answers : event.fact.answers = some (row.command.slot, outcome))
      (placed : Placed kernel.aggregate.status row.command outcome)
      (committed : Committed kernel commands event reduction occurredAtMs next)
  | targetGone (row : CommandRow) (event : TicketEvent) (reduction : Reduction)
      (occurredAtMs : ℤ) (outcome : CommandOutcome) (member : row ∈ kernel.commands)
      (unknown : row.status = .outcomeUnknown) (cancels : row.kind = .cancelOrder)
      (reports : Reports kernel row work outcome)
      (ended : outcome = .confirmed ∨ outcome = .absent)
      (answers : event.fact.answers = some (row.command.slot, outcome))
      (placed : Placed kernel.aggregate.status row.command outcome)
      (committed : Committed kernel kernel.commands event reduction occurredAtMs next)
  | volunteered (event : TicketEvent) (reduction : Reduction) (occurredAtMs : ℤ)
      (volunteers : Volunteers kernel work event.fact)
      (committed : Committed kernel kernel.commands event reduction occurredAtMs next)

namespace Worked

variable {kernel next : Kernel} {work : Work}

theorem undisturbed : Undisturbed kernel kernel := ⟨rfl, rfl, [], rfl⟩

theorem same : Worked kernel work kernel := .looked rfl undisturbed

/-! ### Claims -/

/-- A changed row is the one that was changed, now changed again. -/
theorem replaced_again {table updated later : CommandTable} {row new : CommandRow}
    {condition : CommandRow → Prop} [DecidablePred condition] {change : CommandRow → CommandRow}
    {keeps : ∀ row, (change row).key = row.key} {conflict : String}
    (replaced : Table.Replaced table row new updated)
    (updates : updated.transit new.key condition change keeps conflict = .ok later) :
    Table.Replaced table row (change new) later ∧ condition new := by
  obtain ⟨other, ⟨isKey, meets⟩, again⟩ := Table.replaced_of_update updates
  obtain rfl := Table.eq_of_key again.here replaced.there isKey
  exact ⟨replaced.trans again, meets⟩

theorem of_claimCommand {key : CommandKey} {workerId : NonBlankText} {nowMs leaseUntilMs : ℤ}
    {vacuum : Option NonBlankText}
    (made : work = .act (.claim key workerId nowMs leaseUntilMs vacuum))
    (returned : kernel.claimCommand key workerId nowMs leaseUntilMs vacuum = .ok next) :
    Worked kernel work next := by
  obtain ⟨commands, claims, returned⟩ := bind_eq_ok.mp returned
  obtain ⟨found, isFound, returned⟩ := demand_bind_eq_ok.mp returned
  obtain ⟨member, same⟩ := row_eq_some isFound
  obtain ⟨row, ⟨isKey, prepared, -⟩, replaced⟩ := Table.replaced_of_update claims
  obtain rfl := Table.eq_of_key replaced.here member (isKey.trans same.symm)
  subst same
  have again {later : CommandTable}
      (updates : commands.markClaimedSuperseded row.key workerId nowMs = .ok later) :=
    (replaced_again replaced updates).1
  have became_again (status : ExchangeCommandStatus) (atMs : ℤ) :
      row.Became status ((row.claimedBy workerId leaseUntilMs).completed status atMs) := ⟨rfl, rfl⟩
  by_cases applicable : commandIsApplicable row.command kernel.aggregate.status = true
  · rw [if_neg (not_not.mpr applicable)] at returned
    have claimed {kernel' : Kernel} (is : kernel' = { kernel with commands := commands }) :
        Worked kernel work kernel' := by
      subst is
      exact .claimed row _ workerId nowMs leaseUntilMs vacuum made prepared
        (row.became_claimedBy _ _) applicable replaced
        ⟨rfl, rfl, [], rfl⟩
    split at returned
    · split_ifs at returned with first
      · obtain ⟨later, updates, returned⟩ := bind_eq_ok.mp returned
        obtain ⟨event, reduction, reports, -, committed⟩ := Committed.of_commitResult returned
        exact .vacuumed row _ later event reduction nowMs _ prepared
          (became_again _ _) first (again updates) reports committed
      · exact claimed (pure_eq_ok.mp returned)
    · exact claimed (pure_eq_ok.mp returned)
  · rw [if_pos applicable] at returned
    obtain ⟨later, updates, returned⟩ := bind_eq_ok.mp returned
    obtain rfl := pure_eq_ok.mp returned
    exact .superseded row _ prepared (became_again _ _) (by simpa using applicable) (again updates)
      ⟨rfl, rfl, [], rfl⟩

/-! ### Results -/

theorem of_recordDispatchResult {key : CommandKey} {workerId : NonBlankText}
    {answer : DispatchResult} (made : work = .act (.record key workerId answer))
    (returned : kernel.recordDispatchResult key workerId answer = .ok next) :
    Worked kernel work next := by
  obtain ⟨found, isFound, returned⟩ := demand_bind_eq_ok.mp returned
  obtain ⟨member, same⟩ := row_eq_some isFound
  subst same
  obtain ⟨fact, built, returned⟩ := bind_eq_ok.mp returned
  have answers := answers_of_commandResultFact built
  subst made
  cases result : checkedResult found.command answer with
  | leverage confirmed =>
    simp only [result] at returned
    obtain ⟨commands, updates, returned⟩ := bind_eq_ok.mp returned
    obtain ⟨event, reduction, reports, -, committed⟩ := Committed.of_commitResult returned
    rw [← reports] at answers
    obtain ⟨row, ⟨isKey, -, claimed, -⟩, replaced⟩ := Table.replaced_of_update updates
    obtain rfl := Table.eq_of_key replaced.here member isKey
    refine .answered row (row.completed .accepted _) commands event reduction _ _
      (.answer workerId answer) ?_ ⟨rfl, rfl⟩ replaced answers (.of_dispatch built) committed
    rw [claimed, result, CommandRow.completed_status]
    show (ExchangeCommandStatus.claimed, CommandOutcome.confirmed, ExchangeCommandStatus.accepted) ∈
      settlements
    decide
  | order answered =>
    simp only [result] at returned
    obtain ⟨commands, updates, returned⟩ := bind_eq_ok.mp returned
    obtain ⟨event, reduction, reports, -, committed⟩ := Committed.of_commitResult returned
    rw [← reports] at answers
    obtain ⟨row, ⟨isKey, claimed, -⟩, replaced⟩ := Table.replaced_of_update updates
    obtain rfl := Table.eq_of_key replaced.here member isKey
    refine .answered row (row.completed answered.status _) commands event reduction _ _
      (.answer workerId answer) ?_ ⟨rfl, rfl⟩ replaced answers (.of_dispatch built) committed
    rw [claimed, result, CommandRow.completed_status, DispatchResult.outcome]
    have listed := answered.status_mem
    simp only [List.mem_cons, List.not_mem_nil, or_false] at listed
    rcases listed with status | status | status
    all_goals
      rw [status]
      decide

theorem of_recordExpiredClaim {key : CommandKey} {nowMs : ℤ} {timed : 0 < nowMs}
    (made : work = .act (.expire key nowMs))
    (returned : kernel.recordExpiredClaim key nowMs timed = .ok next) :
    Worked kernel work next := by
  obtain ⟨found, isFound, returned⟩ := demand_bind_eq_ok.mp returned
  obtain ⟨member, same⟩ := row_eq_some isFound
  subst same
  obtain ⟨fact, built, returned⟩ := bind_eq_ok.mp returned
  obtain ⟨commands, updates, returned⟩ := bind_eq_ok.mp returned
  obtain ⟨event, reduction, reports, -, committed⟩ := Committed.of_commitResult returned
  have answers := answers_of_commandResultFact built
  rw [← reports] at answers
  subst made
  obtain ⟨row, ⟨isKey, claimed, -⟩, replaced⟩ := Table.replaced_of_update updates
  obtain rfl := Table.eq_of_key replaced.here member isKey
  refine .answered row (row.completed .outcomeUnknown nowMs) commands event reduction _ _
    (.expiry nowMs) ?_ ⟨rfl, rfl⟩ replaced answers (.of_dispatch built) committed
  rw [claimed, CommandRow.completed_status]
  decide

/-! ### Recoveries -/

theorem of_reconcileLeverage {row : CommandRow} {truth : LeverageTruthSnapshot}
    (made : work = .recover row.key (.leverage truth)) (member : row ∈ kernel.commands)
    (kind : row.kind = .setLeverage) (unknown : row.status = .outcomeUnknown)
    (returned : kernel.reconcileLeverage row truth = .ok next) : Worked kernel work next := by
  have slot : row.command.slot = .setLeverage := slot_of_kind kind
  have leverage {outcome : CommandOutcome} : Placed kernel.aggregate.status row.command outcome :=
    .of_order (by rw [show row.command.kind = .setLeverage from kind]; decide)
  subst made
  unfold Kernel.reconcileLeverage at returned
  split at returned
  · split_ifs at returned
    · obtain rfl := pure_eq_ok.mp returned
      exact same
    · obtain ⟨commands, updates, returned⟩ := bind_eq_ok.mp returned
      obtain ⟨event, reduction, reports, -, committed⟩ := Committed.of_commitResult returned
      obtain ⟨other, ⟨isKey, -⟩, replaced⟩ := Table.replaced_of_update updates
      obtain rfl := Table.eq_of_key replaced.here member isKey
      refine .answered other (other.settled .reconciledAccepted truth.observedAtMs) commands event
        reduction _ .confirmed (.leverage truth _) ?_ ⟨rfl, rfl⟩ replaced ?_ leverage committed
      · rw [unknown, CommandRow.settled_status]
        decide
      · rw [reports, slot]
        rfl
    · obtain ⟨commands, updates, returned⟩ := bind_eq_ok.mp returned
      obtain ⟨event, reduction, reports, -, committed⟩ := Committed.of_commitResult returned
      obtain ⟨other, ⟨isKey, -⟩, replaced⟩ := Table.replaced_of_update updates
      obtain rfl := Table.eq_of_key replaced.here member isKey
      refine .answered other (other.settled .reconciledAbsent truth.observedAtMs) commands event
        reduction _ .refused (.leverage truth _) ?_ ⟨rfl, rfl⟩ replaced ?_ leverage committed
      · rw [unknown, CommandRow.settled_status]
        decide
      · rw [reports, slot]
        rfl
  · simp at returned

theorem of_recordRecovery {row : CommandRow} {truth : VenueTruthSnapshot}
    {visibilityDeadlineMs : ℤ} {decided : UnknownRecoveryDecision}
    (made : work = .recover row.key (.order truth visibilityDeadlineMs))
    (member : row ∈ kernel.commands) (unknown : row.status = .outcomeUnknown)
    (decides : decideUnknownRecovery row.command truth visibilityDeadlineMs = .ok decided)
    (returned : kernel.recordRecovery row decided = .ok next) : Worked kernel work next := by
  subst made
  have settled (returned : (do
      let fact ← recoveryFact kernel.aggregate row.command decided
      let commands ← kernel.recoveredCommands row decided
      kernel.commitResult fact decided.observedAtMs commands) = .ok next) :
      Worked kernel (.recover row.key (.order truth visibilityDeadlineMs)) next := by
    obtain ⟨fact, built, returned⟩ := bind_eq_ok.mp returned
    obtain ⟨commands, updates, returned⟩ := bind_eq_ok.mp returned
    obtain ⟨event, reduction, reports, -, committed⟩ := Committed.of_commitResult returned
    have answers := answers_of_recoveryFact built
    rw [← reports] at answers
    unfold Kernel.recoveredCommands at updates
    rcases answers with ⟨status, order, answers⟩ | ⟨status, answers⟩ |
      ⟨status, cancels, answers⟩ | ⟨status, answers⟩
    · rw [if_pos status] at updates
      obtain ⟨other, ⟨isKey, -⟩, replaced⟩ := Table.replaced_of_update updates
      obtain rfl := Table.eq_of_key replaced.here member isKey
      refine .answered other (other.settled .reconciledAccepted _) commands event reduction _
        .confirmed (.lookup truth _ decided _ decides (fun _ _ => status) ?_) ?_ ⟨rfl, rfl⟩
        replaced answers (.of_order order) committed
      · rintro (absurd_ | ⟨-, cancels⟩)
        · simp at absurd_
        · exact absurd cancels order
      · rw [unknown, CommandRow.settled_status]
        decide
    · rw [if_neg (by simp [status])] at updates
      have looked : Reports kernel row (.recover row.key (.order truth visibilityDeadlineMs))
          .absent := .lookup truth _ decided _ decides (by simp) fun _ => status
      split_ifs at updates with order
      · obtain ⟨other, ⟨isKey, -⟩, replaced⟩ := Table.replaced_of_update updates
        obtain rfl := Table.eq_of_key replaced.here member isKey
        refine .answered other (other.settled .reconciledAbsent _) commands event reduction _
          .absent looked ?_ ⟨rfl, rfl⟩ replaced answers (.of_other (by decide)) committed
        rw [unknown, CommandRow.settled_status]
        decide
      · obtain rfl := pure_eq_ok.mp updates
        have cancels : row.kind = .cancelOrder := by
          by_contra other
          exact order (.inl other)
        exact .targetGone row event reduction _ .absent member unknown cancels looked (.inr rfl)
          answers (.of_other (by decide)) committed
    · rw [if_neg (by simp [status])] at updates
      have cancelRow : row.kind = .cancelOrder := cancels
      rw [if_neg (by simp [status, cancelRow])] at updates
      obtain rfl := pure_eq_ok.mp updates
      exact .targetGone row event reduction _ .confirmed member unknown cancels
        (.lookup truth _ decided _ decides (fun _ other => absurd cancelRow other)
          fun _ => status) (.inl rfl) answers (.of_recovery status built) committed
    · rw [if_neg (by simp [status]), if_pos (.inr status)] at updates
      obtain ⟨other, ⟨isKey, -⟩, replaced⟩ := Table.replaced_of_update updates
      obtain rfl := Table.eq_of_key replaced.here member isKey
      refine .answered other (other.settled .reconciledAbsent _) commands event reduction _
        .refused (.lookup truth _ decided _ decides (by simp) (by simp)) ?_ ⟨rfl, rfl⟩ replaced
        answers (.of_other (by decide)) committed
      rw [unknown, CommandRow.settled_status]
      decide
  unfold Kernel.recordRecovery at returned
  split at returned
  · obtain rfl := pure_eq_ok.mp returned
    exact same
  · obtain rfl := pure_eq_ok.mp returned
    exact same
  · obtain rfl := pure_eq_ok.mp returned
    exact .looked rfl ⟨rfl, rfl, ["venue_identity_contradiction"], rfl⟩
  · exact settled returned

theorem of_recoverUnknownCommand {key : CommandKey} {reading : VenueReading}
    (made : work = .recover key reading)
    (recovers : kernel.recoverUnknownCommand key reading = .ok next) :
    Worked kernel work next := by
  obtain ⟨row, found, returned⟩ := bind_eq_ok.mp recovers
  obtain ⟨other, isFound, found⟩ := demand_bind_eq_ok.mp found
  obtain ⟨unknown, found⟩ := refuse_bind_eq_ok.mp found
  obtain rfl := pure_eq_ok.mp found
  rw [ne_eq, not_not] at unknown
  obtain ⟨member, isKey⟩ := row_eq_some isFound
  subst isKey
  cases reading with
  | leverage truth =>
    obtain ⟨kind, returned⟩ := refuse_bind_eq_ok.mp returned
    exact of_reconcileLeverage made member (not_not.mp kind) unknown returned
  | order truth visibilityDeadlineMs =>
    obtain ⟨-, returned⟩ := refuse_bind_eq_ok.mp returned
    obtain ⟨decided, decides, returned⟩ := bind_eq_ok.mp returned
    exact of_recordRecovery made member unknown (mapError_eq_ok.mp decides) returned

/-! ### Volunteered facts -/

theorem of_reconcile {latestObservedAtMs : Option ℤ} {openIncidentKind : Option String}
    {snapshot : PositionSnapshot}
    (made : work = .act (.reconcile latestObservedAtMs openIncidentKind snapshot))
    (returned : kernel.reconcile latestObservedAtMs openIncidentKind snapshot = .ok next) :
    Worked kernel work next := by
  subst made
  obtain ⟨outcome, reconciled, returned⟩ := bind_eq_ok.mp returned
  split at returned
  · obtain rfl := pure_eq_ok.mp returned
    exact same
  · rename_i event reduction recorded
    obtain ⟨reconciles, reduced⟩ := recorded_of_reconcileTicket reconciled recorded
    exact .volunteered event reduction event.occurredAtMs
      (.reconciled latestObservedAtMs openIncidentKind snapshot _ reconciles)
      ⟨.of_reduceEvent reduced, .of_commitReduction returned⟩

theorem of_advance {fact : PlainFact} {occurredAtMs : ℤ}
    (made : work = .act (.advance fact occurredAtMs))
    (returned : kernel.advance fact occurredAtMs = .ok next) : Worked kernel work next := by
  subst made
  obtain ⟨advances, returned⟩ := refuse_bind_eq_ok.mp returned
  obtain ⟨event, reduction, reports, -, committed⟩ := Committed.of_commitResult returned
  refine .volunteered event reduction _ ?_ committed
  rw [reports]
  exact .advanced fact occurredAtMs (not_not.mp advances)

theorem of_drainEntryVacuum {entryVacuumId : NonBlankText} {nowMs : ℤ} {reading : VacuumReading}
    (made : work = .drain entryVacuumId nowMs reading)
    (returned : kernel.drainEntryVacuum entryVacuumId nowMs reading = .ok next) :
    Worked kernel work next := by
  subst made
  cases Drained.of_drainEntryVacuum returned with
  | waits same =>
    obtain ⟨opened, rfl⟩ := same
    exact .looked rfl ⟨rfl, rfl, opened, rfl⟩
  | supersedes command commands listed mutation prepared updates committed =>
    obtain ⟨row, ⟨isKey, rowPrepared⟩, replaced⟩ := Table.replaced_of_update updates
    obtain ⟨event, reduction, reports, -, committed⟩ := Committed.of_commitResult committed
    refine .vacuumed row _ commands event reduction nowMs _ rowPrepared
      (row.became_settled _ _) ?_ replaced reports committed
    have kind : row.kind = command.kind := congrArg CommandKey.kind isKey
    rw [kind]
    simp only [isEntryMutation, List.mem_cons, List.not_mem_nil, or_false,
      decide_eq_true_eq] at mutation
    exact mutation.1
  | records fact occurredAtMs drains dispatched committed =>
    obtain ⟨event, reduction, reports, -, committed⟩ := Committed.of_commitResult committed
    exact .volunteered event reduction _
      (.drained entryVacuumId nowMs reading _ (reports ▸ drains) dispatched) committed

/-- **What every work has done.** -/
theorem of_work (returned : kernel.work work = .ok next) : Worked kernel work next := by
  cases work with
  | act action =>
    cases action with
    | claim key workerId nowMs leaseUntilMs vacuum =>
      obtain ⟨-, returned⟩ := refuse_bind_eq_ok.mp returned
      exact of_claimCommand rfl returned
    | record key workerId answer => exact of_recordDispatchResult rfl returned
    | expire key nowMs =>
      by_cases timed : 0 < nowMs
      · have records : kernel.recordExpiredClaim key nowMs timed = .ok next := by
          simpa only [Kernel.work, Kernel.apply, dif_pos timed] using returned
        exact of_recordExpiredClaim rfl records
      · simp [Kernel.work, Kernel.apply, timed] at returned
    | reconcile latestObservedAtMs openIncidentKind snapshot => exact of_reconcile rfl returned
    | advance fact occurredAtMs => exact of_advance rfl returned
  | recover key reading => exact of_recoverUnknownCommand rfl returned
  | drain entryVacuumId nowMs reading => exact of_drainEntryVacuum rfl returned

end Worked

/-! ### Runs of works -/

section Runs

variable {allowed : Kernel → Work → Prop} {start kernel : Kernel} {works : List Work}

/-- **The rule for works.** What holds of a kernel that has just been issued, and is kept by every
work that meets the condition, holds along every run. -/
theorem WorkRun.invariant (run : WorkRun allowed start works kernel) (Inv : Kernel → Prop)
    (issued : ∀ {claim header ticket next}, Kernel.issue claim header ticket = .ok next → Inv next)
    (kept : ∀ {kernel work next}, Inv kernel → kernel.work work = .ok next →
      allowed kernel work → Inv next) : Inv kernel := by
  obtain ⟨claim, header, ticket, begun⟩ := run.issued
  exact run.steps.invariant Inv (issued begun) fun inv step => kept inv step.1 step.2

/-- The aggregate of an issued kernel is the one the reducer issues. -/
theorem history_of_issue {claim : Option CapacityClaim} {header : EventHeader}
    {ticket : TradeTicket} (issued : Kernel.issue claim header ticket = .ok kernel) :
    LifecycleRun (issuedHistory header ticket) kernel.aggregate := by
  unfold Kernel.issue at issued
  split at issued
  · simp at issued
  · rename_i reduction reduced
    have materialised := Materialised.of_commitReduction issued
    obtain ⟨_, _, same, -, result⟩ := reduceEvent_none_eq_ok.mp reduced
    obtain ⟨rfl, rfl⟩ := TradeEvent.ticketIssued.inj same
    have begins : Run Accepts none ([] ++ [⟨.ticketIssued header ticket, issuedEffects ticket⟩])
        (some reduction.aggregate) :=
      Run.snoc_iff.mpr ⟨none, .nil, _, reduced, by rw [result], rfl⟩
    rw [materialised.aggregate]
    exact begins

/-- A committed event is the next one of the history. -/
theorem history_of_committed {commands : CommandTable} {event : TicketEvent} {reduction : Reduction}
    {occurredAtMs : ℤ} {next : Kernel} {past : List AcceptedEvent}
    (committed : Committed kernel commands event reduction occurredAtMs next)
    (run : LifecycleRun past kernel.aggregate) :
    LifecycleRun (past ++ [accepted event reduction]) next.aggregate := by
  rw [committed.materialised.aggregate]
  exact Run.snoc_iff.mpr ⟨_, run, committed.accepted.accepts⟩

/-- **The aggregate of every run is one that a run of the lifecycle reaches.** -/
theorem WorkRun.history (run : WorkRun allowed start works kernel) :
    ∃ history, LifecycleRun history kernel.aggregate := by
  refine run.invariant (fun kernel => ∃ history, LifecycleRun history kernel.aggregate) ?_ ?_
  · intro claim header ticket next issued
    exact ⟨_, history_of_issue issued⟩
  · rintro kernel work next ⟨past, reached⟩ returned -
    cases Worked.of_work returned with
    | looked _ kept => exact ⟨past, kept.aggregate ▸ reached⟩
    | claimed row new workerId nowMs leaseUntilMs vacuum _ _ _ _ _ kept =>
      exact ⟨past, kept.aggregate ▸ reached⟩
    | superseded row new _ _ _ _ kept => exact ⟨past, kept.aggregate ▸ reached⟩
    | vacuumed row new commands event reduction occurredAtMs fact _ _ _ _ _ committed =>
      exact ⟨_, history_of_committed committed reached⟩
    | answered row new commands event reduction occurredAtMs outcome _ _ _ _ _ _ committed =>
      exact ⟨_, history_of_committed committed reached⟩
    | targetGone row event reduction occurredAtMs outcome _ _ _ _ _ _ _ committed =>
      exact ⟨_, history_of_committed committed reached⟩
    | volunteered event reduction occurredAtMs _ committed =>
      exact ⟨_, history_of_committed committed reached⟩

end Runs

/-- Works on the sample Ticket, each of them allowed, that reach a kernel with a tested property
exhibit a run with it. -/
theorem exists_workRun (allowed : Kernel → Work → Prop)
    [∀ kernel work, Decidable (allowed kernel work)] (works : List Work) (test : Kernel → Bool)
    (reaches : ((Run.evaluate (fun kernel work =>
        if allowed kernel work then (kernel.work work).toOption else none)
      (issuedKernel sample_entersAtMarket) works).any test) = true) :
    ∃ start kernel, WorkRun allowed start works kernel ∧ test kernel = true := by
  obtain ⟨kernel, reached, tested⟩ := (Option.any_eq_true _ _).mp reaches
  exact ⟨_, kernel, ⟨⟨_, _, _, sample_entersAtMarket.issue⟩, Run.of_evaluate_ok reached⟩, tested⟩

end TradingKernel
