/-
**What each transaction of a flatten does.**

The rows of the Tickets and the operations only move on (`ControlStep`): an operation never returns to
a state that it has left, its targets are written once, and it is completed over Tickets that have
ended (`OperationKept`). Each transaction of the control plane is such a step, and its lemma says what
else it does.
-/

import TradingKernel.Application.FlattenAll
import TradingKernel.Domain.Requests
import TradingKernel.System.AccountLedger

namespace TradingKernel

open Text Guard

/-! ### Rows that move on -/

/-- A Ticket has ended: its budget is released, and its review recorded. -/
structure TicketRow.Ended (row : TicketRow) : Prop where
  terminal : row.aggregate.status = .terminal
  budget : row.budgetActive = false
  reviewed : row.reviewed = true

/-- The statuses of a Ticket that is on its way out, or has ended. -/
def leavingStatuses : List AggregateStatus :=
  [.exitPending, .exitAccepted, .exitRejected, .exitOutcomeUnknown, .reconciliationPending,
    .cancelRejected, .cancelOutcomeUnknown, .settlementPending, .reviewPending] ++ terminalStatuses

/-- The effect asks for no command but an exit and the cancels of a cleanup. -/
def KernelEffect.Leaves : KernelEffect → Prop
  | .prepareExitCommand _ _ _ => True
  | .cancelProtectionOrders _ _ _ purpose => purpose = .reconciliationCleanup
  | effect => effect.asksCommand = false

/-- What an aggregate on its way out waits for. -/
theorem KernelEffect.leaves_of_awaited {aggregate : TradeAggregate} {effect : KernelEffect}
    (leaving : aggregate.status ∈ leavingStatuses)
    (awaited : effect.asksCommand = true → AwaitedBy aggregate effect) : effect.Leaves := by
  have apart : ∀ status ∉ leavingStatuses, aggregate.status ≠ status := by
    rintro _ outside rfl
    exact outside leaving
  cases effect with
  | prepareSetLeverageCommand => exact absurd (awaited rfl).1 (apart _ (by decide))
  | prepareEntryCommand =>
    rcases List.mem_cons.mp (awaited rfl).1 with status | status
    · exact absurd status (apart _ (by decide))
    · exact absurd (List.mem_singleton.mp status) (apart _ (by decide))
  | prepareInitialStopCommand => exact absurd (awaited rfl).1 (apart _ (by decide))
  | prepareTakeProfitCommand => exact absurd (awaited rfl).1 (apart _ (by decide))
  | prepareProtectionReplacementCommand => exact absurd (awaited rfl).1 (apart _ (by decide))
  | cancelEntryRemainder => exact absurd (awaited rfl) (apart _ (by decide))
  | cancelVacuumEntryOrder => exact absurd (awaited rfl).1 (apart _ (by decide))
  | prepareControlledFlattenCommand => exact absurd (awaited rfl).1 (apart _ (by decide))
  | cancelProtectionOrders =>
    rcases awaited rfl with ⟨-, status, -⟩ | ⟨purpose, -⟩
    · exact absurd status (apart _ (by decide))
    · exact purpose
  | prepareExitCommand => exact trivial
  | _ => rfl

/-- The Ticket is on its way out, and no more was asked for it than its exit and the cancels of its
cleanup. -/
structure TicketRow.Leaving (row new : TicketRow) : Prop where
  status : new.aggregate.status ∈ leavingStatuses
  asked : ∃ more, new.events = row.events ++ more ∧
    ∀ entry ∈ more, ∀ effect ∈ entry.effects, effect.Leaves

namespace TicketRow.Leaving

variable {row new newer : TicketRow}

theorem refl (leaving : row.aggregate.status ∈ leavingStatuses) : Leaving row row :=
  ⟨leaving, [], (List.append_nil _).symm, fun _ here => absurd here List.not_mem_nil⟩

theorem trans (first : Leaving row new) (second : Leaving new newer) : Leaving row newer := by
  obtain ⟨-, more, same, leaves⟩ := first
  obtain ⟨status, further, again, leaves'⟩ := second
  refine ⟨status, more ++ further, by rw [again, same, List.append_assoc], fun entry here => ?_⟩
  rcases List.mem_append.mp here with early | late
  · exact leaves entry early
  · exact leaves' entry late

end TicketRow.Leaving

/-- What the row of a Ticket may become. -/
structure TicketRow.Later (row new : TicketRow) : Prop where
  ticket : new.ticket = row.ticket
  events : row.events <+: new.events
  marked : row.aggregate.status ∈ markedTerminalStatuses →
    new.aggregate.status ∈ markedTerminalStatuses
  terminal : row.aggregate.status = .terminal → new.aggregate.status = .terminal
  budget : row.budgetActive = false → new.budgetActive = false
  leaving : row.aggregate.status ∈ leavingStatuses → row.Leaving new

namespace TicketRow.Later

variable {row new newer : TicketRow}

theorem refl (row : TicketRow) : Later row row :=
  ⟨rfl, List.prefix_refl _, id, id, id, .refl⟩

theorem trans (first : Later row new) (second : Later new newer) : Later row newer where
  ticket := second.ticket.trans first.ticket
  events := first.events.trans second.events
  marked := second.marked ∘ first.marked
  terminal := second.terminal ∘ first.terminal
  budget := second.budget ∘ first.budget
  leaving out := (first.leaving out).trans (second.leaving (first.leaving out).status)

/-- A Ticket that has ended stays so. -/
theorem ended (later : Later row new) (ended : row.Ended) : new.Ended where
  terminal := later.terminal ended.terminal
  budget := later.budget ended.budget
  reviewed := by
    obtain ⟨more, same⟩ := later.events
    rw [TicketRow.reviewed, ← same, List.any_append, Bool.or_eq_true]
    exact .inl ended.reviewed

end TicketRow.Later

/-- A committed event moves the row of its Ticket on. -/
theorem CommitStep.later {store next : Store} {row new : TicketRow} {event : TicketEvent}
    {reduction : Reduction} (step : CommitStep store row event reduction new next) :
    TicketRow.Later row new where
  ticket := step.ticket
  events := ⟨_, step.events.symm⟩
  marked marked := by
    rw [step.aggregate]
    exact step.on.move.follows
      (fun edge => edge.1 ∈ markedTerminalStatuses → edge.2 ∈ markedTerminalStatuses)
      (by decide) marked
  terminal ended := by
    rw [step.aggregate]
    exact step.on.move.follows (fun edge => edge.1 = .terminal → edge.2 = .terminal)
      (by decide) ended
  budget inactive := by
    rw [← Bool.not_eq_true, step.budget]
    rintro ⟨active, -⟩
    rw [inactive] at active
    exact absurd active Bool.false_ne_true
  leaving leaving := by
    have out : reduction.aggregate.status ∈ leavingStatuses := step.on.move.follows
      (fun edge => edge.1 ∈ leavingStatuses → edge.2 ∈ leavingStatuses) (by decide) leaving
    refine ⟨by rw [step.aggregate]; exact out, _, step.events, fun entry here effect emitted => ?_⟩
    obtain rfl := List.mem_singleton.mp here
    exact KernelEffect.leaves_of_awaited out ((Asks.of_reduceFact step.on.reduced).awaited emitted)

theorem CommitStep.evolves {store next : Store} {row new : TicketRow} {event : TicketEvent}
    {reduction : Reduction} (step : CommitStep store row event reduction new next) :
    Table.Evolves TicketRow.Later store.tickets next.tickets :=
  step.replaced.evolves TicketRow.Later.refl step.ticketId step.later

/-! ### Transactions of the Tickets -/

section Tickets

variable {store next : Store}

/-- The Tickets of a store moved on, and the ledger was kept. -/
structure Store.Onward (store next : Store) : Prop where
  balanced : Balanced next
  tickets : Table.Evolves TicketRow.Later store.tickets next.tickets

namespace Store.Onward

theorem refl (balanced : Balanced store) : Store.Onward store store :=
  ⟨balanced, Table.Evolves.refl TicketRow.Later.refl⟩

theorem trans {later : Store} (first : Store.Onward store next) (second : Store.Onward next later) :
    Store.Onward store later :=
  ⟨second.balanced, first.tickets.trans TicketRow.Later.trans second.tickets⟩

end Store.Onward

theorem Balanced.committed {commands : CommandTable} {event : TicketEvent}
    (balanced : Balanced store) (returned : store.commitReduction commands event = .ok next) :
    Store.Onward store next := by
  obtain ⟨row, reduction, new, step⟩ := balanced.commitStep returned
  exact ⟨step.balanced balanced, step.evolves⟩

theorem Balanced.onward {transaction : Transaction} (balanced : Balanced store)
    (returned : store.transact transaction = .ok next) : Store.Onward store next := by
  cases transaction with
  | commit commands event => exact balanced.committed returned
  | issue view claim nowMs =>
    refine ⟨balanced.transacted returned, ?_⟩
    simp only [Store.transact] at returned
    split_ifs at returned with timed
    obtain ⟨⟨status, after⟩, issued, same⟩ := bind_eq_ok.mp returned
    obtain rfl : next = after := pure_eq_ok.mp same
    by_cases success : status = .issued
    · subst success
      obtain ⟨ticket, header, kernel, -, -, step⟩ := issueStep issued
      exact Table.evolves_of_rows TicketRow.Later.refl step.tickets
    · rw [issue_blocked issued success]
      exact Table.Evolves.refl TicketRow.Later.refl

/-- One exit that was requested. -/
theorem Balanced.exitRequested {ticketId reason : NonBlankText} {requestedAtMs : ℤ}
    (balanced : Balanced store)
    (returned : store.requestExit ticketId reason requestedAtMs = .ok next) :
    ∃ row event reduction new, row.ticketId = ticketId ∧
      event.fact = .exitRequested reason.text ∧ event.occurredAtMs = requestedAtMs ∧
      CommitStep store row event reduction new next := by
  obtain ⟨named, found, event, built, committed⟩ := (by
    simpa only [Store.requestExit, bind_eq_ok, demand_eq_ok] using returned :
      ∃ named, store.tickets.lookup ticketId = some named ∧ ∃ event,
        nextEvent named.aggregate ⟨.exitRequested reason.text, rfl⟩ requestedAtMs = .ok event ∧
          store.commitReduction named.kernel.commands event = .ok next)
  obtain ⟨here, rfl⟩ := Table.lookup_eq_some found
  unfold nextEvent at built
  split_ifs at built with positive
  obtain rfl := Except.ok.inj built
  obtain ⟨row, reduction, new, step⟩ := balanced.commitStep committed
  refine ⟨row, _, reduction, new, ?_, rfl, rfl, step⟩
  have owner : named.aggregate.identity.ticketId = row.aggregate.identity.ticketId := step.on.ticket
  rw [(balanced.rows row step.replaced.here).named, ← owner, (balanced.rows named here).named]

/-- The exits that were requested, one after the other. -/
theorem Balanced.exitsRequested {reason : NonBlankText} {requestedAtMs : ℤ}
    {ticketIds : List NonBlankText} (balanced : Balanced store)
    (returned : Store.requestExits reason requestedAtMs store ticketIds = .ok next) :
    Store.Onward store next := by
  induction ticketIds generalizing store with
  | nil =>
    obtain rfl : next = store := pure_eq_ok.mp returned
    exact .refl balanced
  | cons ticketId ticketIds ih =>
    obtain ⟨middle, first, rest⟩ := bind_eq_ok.mp returned
    obtain ⟨row, event, reduction, new, -, -, -, step⟩ := balanced.exitRequested first
    have moved : Store.Onward store middle := ⟨step.balanced balanced, step.evolves⟩
    exact moved.trans (ih moved.balanced rest)

/-- The exit of the whole position of a Ticket was requested, and nothing else has happened to it. -/
structure TicketRow.Exiting (reason : NonBlankText) (requestedAtMs : ℤ) (row new : TicketRow) :
    Prop where
  event : ∃ event : TicketEvent, event.fact = .exitRequested reason.text ∧
    event.occurredAtMs = requestedAtMs ∧ new.events = row.events ++ [⟨.ticketEvent event,
      [.prepareExitCommand row.aggregate.ticketId row.aggregate.positionQty reason.text]⟩]
  status : new.aggregate.status = .exitPending
  positionQty : new.aggregate.positionQty = row.aggregate.positionQty

theorem CommitStep.exiting {row new : TicketRow} {event : TicketEvent} {reduction : Reduction}
    {reason : NonBlankText} (step : CommitStep store row event reduction new next)
    (asks : event.fact = .exitRequested reason.text) :
    row.Exiting reason event.occurredAtMs new := by
  have reduced := step.on.reduced
  rw [asks] at reduced
  obtain ⟨-, -, rfl⟩ := Reducer.exitRequested_eq_ok.mp reduced
  refine ⟨⟨event, asks, rfl, ?_⟩, ?_, ?_⟩
  · rw [step.events, reason.stripped]
    rfl
  · rw [step.aggregate]
    rfl
  · rw [step.aggregate]
    rfl

/-- **Every Ticket that was asked is exiting, and every other one is as it was.** -/
theorem Balanced.exitsRequested_rows {reason : NonBlankText} {requestedAtMs : ℤ}
    {ticketIds : List NonBlankText} (balanced : Balanced store) (distinct : ticketIds.Nodup)
    (returned : Store.requestExits reason requestedAtMs store ticketIds = .ok next) :
    ∀ row ∈ store.tickets, ∃ new ∈ next.tickets, new.ticketId = row.ticketId ∧
      (row.ticketId ∈ ticketIds → row.Exiting reason requestedAtMs new) ∧
      (row.ticketId ∉ ticketIds → new = row) := by
  induction ticketIds generalizing store with
  | nil =>
    obtain rfl : next = store := pure_eq_ok.mp returned
    exact fun row here => ⟨row, here, rfl, fun asked => absurd asked List.not_mem_nil, fun _ => rfl⟩
  | cons ticketId ticketIds ih =>
    obtain ⟨middle, first, rest⟩ := bind_eq_ok.mp returned
    obtain ⟨once, others⟩ := List.nodup_cons.mp distinct
    obtain ⟨left, event, reduction, came, rfl, asks, rfl, step⟩ := balanced.exitRequested first
    intro row here
    by_cases is : row = left
    · -- the first Ticket is not asked again
      subst is
      obtain ⟨new, there, same, -, idle⟩ :=
        ih (step.balanced balanced) others rest came step.replaced.there
      obtain rfl := idle (by rw [step.ticketId]; exact once)
      exact ⟨new, there, step.ticketId, fun _ => step.exiting asks,
        fun unasked => absurd List.mem_cons_self unasked⟩
    · have apart : row.ticketId ≠ left.ticketId :=
        fun same => is (Table.eq_of_key here step.replaced.here same)
      obtain ⟨new, there, same, exits, idle⟩ :=
        ih (step.balanced balanced) others rest row (step.replaced.mem_updated here is)
      refine ⟨new, there, same, fun asked => ?_, fun unasked => ?_⟩
      · exact exits ((List.mem_cons.mp asked).resolve_left apart)
      · exact idle fun asked => unasked (List.mem_cons_of_mem _ asked)

end Tickets

/-! ### Operations that move on -/

/-- What an operation may have become: it is of the same account, it has moved forward unless it is
the same, and its targets were written while it was validated. -/
structure OwnerControlOperation.Later (operation new : OwnerControlOperation) : Prop where
  account : new.venueId = operation.venueId ∧ new.accountId = operation.accountId
  createdAtMs : new.createdAtMs = operation.createdAtMs
  forward : new = operation ∨ operation.state.rank < new.state.rank
  targets : operation.state ≠ .validating → new.targetTicketIds = operation.targetTicketIds

namespace OwnerControlOperation.Later

variable {operation new newer : OwnerControlOperation}

theorem refl (operation : OwnerControlOperation) : Later operation operation :=
  ⟨⟨rfl, rfl⟩, rfl, .inl rfl, fun _ => rfl⟩

theorem validating_iff (state : ControlOperationState) : state = .validating ↔ state.rank = 0 := by
  cases state <;> decide

theorem trans (first : Later operation new) (second : Later new newer) :
    Later operation newer where
  account := ⟨second.account.1.trans first.account.1, second.account.2.trans first.account.2⟩
  createdAtMs := second.createdAtMs.trans first.createdAtMs
  forward := by
    rcases first.forward with rfl | ahead
    · exact second.forward
    · rcases second.forward with rfl | further
      · exact .inr ahead
      · exact .inr (ahead.trans further)
  targets begun := by
    rcases first.forward with rfl | ahead
    · exact second.targets begun
    · refine (second.targets fun validating => ?_).trans (first.targets begun)
      rw [validating_iff] at validating
      omega

/-- What has left a state never has it again. -/
theorem left (first : Later operation new) (second : Later new newer)
    (apart : new.state ≠ operation.state) : newer.state ≠ operation.state := by
  have ahead : operation.state.rank < new.state.rank := by
    rcases first.forward with rfl | ahead
    · exact absurd rfl apart
    · exact ahead
  intro back
  rcases second.forward with rfl | further
  · exact apart back
  · rw [back] at further
    omega

end OwnerControlOperation.Later

/-- What the rows of the Tickets say of an operation: its targets are Tickets, none of them twice,
written once it has been validated; and where it is completed, each of them has ended. -/
structure OperationKept (tickets : TicketTable) (operation : OwnerControlOperation) : Prop where
  unwritten : operation.state = .validating → operation.targetTicketIds = []
  targets : ∀ ticketId ∈ operation.targetTicketIds, ∃ row ∈ tickets, row.ticketId = ticketId
  distinct : operation.targetTicketIds.Nodup
  completed : operation.state = .completed → ∀ ticketId ∈ operation.targetTicketIds,
    ∃ row ∈ tickets, row.ticketId = ticketId ∧ row.Ended

/-- It says the same of later rows. -/
theorem OperationKept.evolved {tickets later : TicketTable} {operation : OwnerControlOperation}
    (kept : OperationKept tickets operation)
    (evolves : Table.Evolves TicketRow.Later tickets later) : OperationKept later operation where
  unwritten := kept.unwritten
  targets ticketId target := by
    obtain ⟨row, here, rfl⟩ := kept.targets ticketId target
    obtain ⟨new, there, same, -⟩ := evolves row here
    exact ⟨new, there, same⟩
  distinct := kept.distinct
  completed done ticketId target := by
    obtain ⟨row, here, rfl, ended⟩ := kept.completed done ticketId target
    obtain ⟨new, there, same, moved⟩ := evolves row here
    exact ⟨new, there, same, moved.ended ended⟩

/-- The ledger is kept, and so is every operation. -/
structure ControlKept (state : ControlState) : Prop where
  balanced : Balanced state.store
  operations : ∀ operation ∈ state.operations, OperationKept state.store.tickets operation

/-- The Tickets and the operations of a state moved on, and an operation that is not as it was is
kept by the rows of the new state. -/
structure ControlStep (state next : ControlState) : Prop where
  store : Store.Onward state.store next.store
  operations : Table.Evolves OwnerControlOperation.Later state.operations next.operations
  known : ∀ operation ∈ next.operations,
    operation ∈ state.operations ∨ OperationKept next.store.tickets operation

namespace ControlStep

variable {state next later : ControlState}

theorem refl (kept : ControlKept state) : ControlStep state state :=
  ⟨.refl kept.balanced, .refl OwnerControlOperation.Later.refl, fun _ here => .inl here⟩

theorem kept (step : ControlStep state next) (before : ControlKept state) : ControlKept next where
  balanced := step.store.balanced
  operations operation member := by
    rcases step.known operation member with here | now
    · exact (before.operations operation here).evolved step.store.tickets
    · exact now

theorem trans (first : ControlStep state next) (second : ControlStep next later) :
    ControlStep state later where
  store := first.store.trans second.store
  operations := first.operations.trans OwnerControlOperation.Later.trans second.operations
  known operation member := by
    rcases second.known operation member with here | now
    · exact (first.known operation here).imp id fun kept => kept.evolved second.store.tickets
    · exact .inr now

end ControlStep

/-! ### Operations that are saved -/

/-- An operation was saved over itself. -/
structure Saved (state : ControlState) (operation new : OwnerControlOperation)
    (next : ControlState) : Prop where
  store : next.store = state.store
  policies : next.policies = state.policies
  authorizations : next.authorizations = state.authorizations
  same : new.authorizationId = operation.authorizationId
  replaced : Table.Replaced state.operations operation new next.operations
  rows : next.operations.rows = state.operations.rows.map fun old =>
    if old.authorizationId = operation.authorizationId then new else old

namespace ControlState

variable {state next : ControlState} {operation new : OwnerControlOperation}

/-- **A save returns** over the version that was read. -/
theorem saved (here : operation ∈ state.operations)
    (same : new.authorizationId = operation.authorizationId)
    (version : new.version = operation.version + 1) :
    ∃ next, state.saveOperation new = .ok next ∧ Saved state operation new next := by
  have struck : operation.authorizationId = new.authorizationId ∧
      operation.version = new.version - 1 := ⟨same.symm, by omega⟩
  have alone : ∀ other : OwnerControlOperation, (other.authorizationId = new.authorizationId ∧
      other.version = new.version - 1) → other.authorizationId = operation.authorizationId :=
    fun other hits => hits.1.trans same
  have changed : ({ new with authorizationId := operation.authorizationId } :
      OwnerControlOperation) = new := by
    rw [← same]
  have updates : ∃ operations, state.operations.update
      (fun old => old.authorizationId = new.authorizationId ∧ old.version = new.version - 1)
      (fun old => { new with authorizationId := old.authorizationId }) (fun _ => rfl)
      (conflict "Control operation version changed") = .ok operations ∧
        Table.Replaced state.operations operation
          { new with authorizationId := operation.authorizationId } operations :=
    Table.update_replaces here struck alone
  obtain ⟨operations, updated, replaced⟩ := updates
  rw [changed] at replaced
  refine ⟨{ state with operations := operations }, bind_eq_ok.mpr ⟨operations, updated, rfl⟩,
    rfl, rfl, rfl, same, replaced, ?_⟩
  obtain ⟨-, rfl⟩ := Table.update_eq_ok.mp updated
  refine List.map_congr_left fun old there => ?_
  by_cases is : old = operation
  · subst is
    rw [if_pos struck, if_pos rfl]
    exact changed
  · have apart : old.authorizationId ≠ operation.authorizationId :=
      fun same => is (Table.eq_of_key there here same)
    rw [if_neg fun hits => apart (alone old hits), if_neg apart]

/-- What a save that returned did. -/
theorem saved_of_ok (here : operation ∈ state.operations)
    (same : new.authorizationId = operation.authorizationId)
    (version : new.version = operation.version + 1)
    (returned : state.saveOperation new = .ok next) : Saved state operation new next := by
  obtain ⟨other, saves, saved⟩ := state.saved here same version
  rw [saves] at returned
  exact Except.ok.inj returned ▸ saved

end ControlState

theorem Saved.step {state next : ControlState} {operation new : OwnerControlOperation}
    (saved : Saved state operation new next) (balanced : Balanced state.store)
    (later : operation.Later new) (now : OperationKept state.store.tickets new) :
    ControlStep state next where
  store := by
    rw [saved.store]
    exact .refl balanced
  operations := saved.replaced.evolves OwnerControlOperation.Later.refl saved.same later
  known other member := by
    rw [saved.store]
    rcases saved.replaced.of_mem_updated member with rfl | ⟨here, -⟩
    · exact .inr now
    · exact .inl here

/-- Two saves of one operation are one. -/
theorem Saved.trans {state held next : ControlState}
    {operation claimed new : OwnerControlOperation} (first : Saved state operation claimed held)
    (second : Saved held claimed new next) : Saved state operation new next where
  store := second.store.trans first.store
  policies := second.policies.trans first.policies
  authorizations := second.authorizations.trans first.authorizations
  same := second.same.trans first.same
  replaced := first.replaced.trans second.replaced
  rows := by
    rw [second.rows, first.rows, List.map_map]
    refine List.map_congr_left fun old there => ?_
    show (if (if old.authorizationId = operation.authorizationId then claimed else
      old).authorizationId = claimed.authorizationId then new else _) = _
    rw [first.same]
    by_cases own : old.authorizationId = operation.authorizationId
    · rw [if_pos own, if_pos first.same, if_pos own]
    · rw [if_neg own, if_neg own]

/-- An operation that has moved on with its targets, and is not completed. -/
theorem OperationKept.onward {tickets : TicketTable} {operation new : OwnerControlOperation}
    (kept : OperationKept tickets operation)
    (same : new.targetTicketIds = operation.targetTicketIds) (begun : new.state ≠ .validating)
    (unfinished : new.state ≠ .completed) : OperationKept tickets new where
  unwritten validating := absurd validating begun
  targets := by
    rw [same]
    exact kept.targets
  distinct := by
    rw [same]
    exact kept.distinct
  completed done := absurd done unfinished

/-! ### The entry of a policy -/

/-- The policy does not let new entries in. -/
def ControlState.Paused (state : ControlState) (ownerPolicyId : NonBlankText) : Prop :=
  ∀ policy ∈ state.policies, policy.ownerPolicyId = ownerPolicyId →
    policy.newEntrySubmitEnabled = false

section Entry

variable {state next : ControlState} {ownerPolicyId : NonBlankText} {expectedVersion : ℤ}
  {enabled : Bool}

/-- Only the policy has changed, to what was asked. -/
theorem ControlState.of_setGlobalEntryEnabled
    (returned : state.setGlobalEntryEnabled ownerPolicyId expectedVersion enabled = .ok next) :
    next.store = state.store ∧ next.operations = state.operations ∧
      (enabled = false → next.Paused ownerPolicyId) ∧
      ∀ other, ownerPolicyId ≠ other ∨ enabled = false → state.Paused other →
        next.Paused other := by
  simp only [setGlobalEntryEnabled, demand_bind_eq_ok, refuse_bind_eq_ok] at returned
  obtain ⟨policy, found, -, returned⟩ := returned
  obtain ⟨here, named⟩ := Table.lookup_eq_some found
  split_ifs at returned with already
  · obtain rfl := pure_eq_ok.mp returned
    refine ⟨rfl, rfl, fun off other there same => ?_, fun _ _ paused => paused⟩
    rw [Table.eq_of_key there here (same.trans named.symm), already, off]
  · obtain ⟨policies, updated, same⟩ := bind_eq_ok.mp returned
    obtain rfl := pure_eq_ok.mp same
    refine ⟨rfl, rfl, fun off changed there named => ?_,
      fun other apart paused changed there named => ?_⟩
    · obtain ⟨old, was, struck⟩ := (Table.mem_update updated).mp there
      rcases struck with ⟨-, rfl⟩ | ⟨missed, rfl⟩
      · exact off
      · exact absurd named missed
    · obtain ⟨old, was, struck⟩ := (Table.mem_update updated).mp there
      rcases struck with ⟨hit, rfl⟩ | ⟨-, rfl⟩
      · rcases apart with apart | off
        · exact absurd (hit.symm.trans named) apart
        · exact off
      · exact paused _ was named

/-- An entry state that was set: the Tickets and the operations are as they were, a policy is paused by
a pause that is not a repetition, and a paused policy stays so unless it is the one that was
resumed. -/
theorem ControlState.of_setGlobalEntryState {resumeBlocker : Option String}
    {request : ControlMutationRequest} {authorizationId : NonBlankText}
    (returned : state.setGlobalEntryState ownerPolicyId enabled resumeBlocker request
      authorizationId = .ok next) :
    next.store = state.store ∧ next.operations = state.operations ∧
      (state.authorizations.lookup request.idempotencyKey = none → enabled = false →
        next.Paused ownerPolicyId) ∧
      ∀ other, ownerPolicyId ≠ other ∨ enabled = false → state.Paused other →
        next.Paused other := by
  simp only [setGlobalEntryState, demand_bind_eq_ok] at returned
  obtain ⟨policy, found, returned⟩ := returned
  cases known : state.authorizations.lookup request.idempotencyKey with
  | some existing =>
    rw [known] at returned
    obtain ⟨-, same⟩ := refuse_bind_eq_ok.mp returned
    obtain rfl := pure_eq_ok.mp same
    exact ⟨rfl, rfl, fun none => absurd none (Option.some_ne_none _), fun _ _ paused => paused⟩
  | none =>
    rw [known] at returned
    obtain ⟨-, returned⟩ := refuse_bind_eq_ok.mp returned
    by_cases already : policy.newEntrySubmitEnabled = enabled
    · rw [if_pos already] at returned
      obtain rfl := pure_eq_ok.mp returned
      refine ⟨rfl, rfl, fun _ off other there same => ?_, fun _ _ paused => paused⟩
      obtain ⟨here, named⟩ := Table.lookup_eq_some found
      rw [Table.eq_of_key there here (same.trans named.symm), already, off]
    · rw [if_neg already] at returned
      obtain ⟨-, returned⟩ := refuse_bind_eq_ok.mp returned
      obtain ⟨authorized, added, set⟩ := bind_eq_ok.mp returned
      obtain ⟨authorizations, -, same⟩ := bind_eq_ok.mp added
      obtain rfl := pure_eq_ok.mp same
      obtain ⟨store, operations, pauses, paused⟩ := of_setGlobalEntryEnabled set
      exact ⟨store, operations, fun _ => pauses, paused⟩

end Entry

/-! ### Begin -/

/-- A flatten was begun: its operation is new, and the policy lets no new entries in. -/
structure Begun (state : ControlState) (ownerPolicyId : NonBlankText)
    (operation : OwnerControlOperation) (next : ControlState) : Prop where
  store : next.store = state.store
  paused : next.Paused ownerPolicyId
  others : ∀ other, state.Paused other → next.Paused other
  validating : operation.state = .validating
  unwritten : operation.targetTicketIds = []
  fresh : ∀ old ∈ state.operations, old.authorizationId ≠ operation.authorizationId
  rows : next.operations.rows = state.operations.rows ++ [operation]

theorem Begun.step {state next : ControlState} {ownerPolicyId : NonBlankText}
    {operation : OwnerControlOperation} (begun : Begun state ownerPolicyId operation next)
    (balanced : Balanced state.store) : ControlStep state next where
  store := by
    rw [begun.store]
    exact .refl balanced
  operations := Table.evolves_of_rows OwnerControlOperation.Later.refl begun.rows
  known other member := by
    rw [← Table.mem_rows, begun.rows, List.mem_append, List.mem_singleton] at member
    rcases member with here | rfl
    · exact .inl here
    · refine .inr ⟨fun _ => begun.unwritten, ?_, ?_, ?_⟩
      · simp [begun.unwritten]
      · simp [begun.unwritten]
      · simp [begun.unwritten]

section Begin

variable {state next : ControlState} {ownerPolicyId authorizationId : NonBlankText}
  {request : FlattenSubmitRequest} {operation : OwnerControlOperation}

/-- A begin adds an operation, or its request was known and nothing has changed. -/
theorem ControlState.of_beginFlattenAll (returned :
    state.beginFlattenAll ownerPolicyId request authorizationId = .ok (next, operation)) :
    next = state ∧ state.authorizations.lookup request.idempotencyKey ≠ none ∨
      operation = request.operation authorizationId ∧
        Begun state ownerPolicyId operation next := by
  obtain ⟨preview, previewed, rest⟩ := bind_eq_ok.mp returned
  obtain ⟨-, rest⟩ := refuse_bind_eq_ok.mp rest
  unfold authorizeFlatten at rest
  cases known : state.authorizations.lookup request.idempotencyKey with
  | some existing =>
    rw [known] at rest
    obtain ⟨-, rest⟩ := refuse_bind_eq_ok.mp rest
    obtain ⟨begun, -, same⟩ := demand_bind_eq_ok.mp rest
    obtain ⟨rfl, -⟩ := Prod.mk.inj (pure_eq_ok.mp same)
    exact .inl ⟨rfl, by simp⟩
  | none =>
    rw [known] at rest
    obtain ⟨authorized, added, rest⟩ := bind_eq_ok.mp rest
    obtain ⟨authorizations, -, isAuthorized⟩ := bind_eq_ok.mp added
    obtain rfl := pure_eq_ok.mp isAuthorized
    have pause : ∃ paused : ControlState, paused.store = state.store ∧
        paused.operations = state.operations ∧ paused.Paused ownerPolicyId ∧
        (∀ other, state.Paused other → paused.Paused other) ∧
        (paused.addOperation (request.operation authorizationId) >>= fun begun =>
          pure (begun, request.operation authorizationId)) = .ok (next, operation) := by
      split_ifs at rest with enabled
      · obtain ⟨paused, pauses, rest⟩ := bind_eq_ok.mp rest
        obtain ⟨store, operations, off, others⟩ := of_setGlobalEntryEnabled pauses
        exact ⟨paused, store, operations, off rfl, fun other => others other (.inr rfl), rest⟩
      · refine ⟨{ state with authorizations := authorizations }, rfl, rfl, fun policy there named => ?_, fun _ already => already, rest⟩
        obtain ⟨read, found, rest⟩ := demand_bind_eq_ok.mp previewed
        obtain ⟨ticketIds, -, same⟩ := bind_eq_ok.mp rest
        obtain rfl := pure_eq_ok.mp same
        obtain ⟨here, same⟩ := Table.lookup_eq_some found
        rw [Table.eq_of_key there here (named.trans same.symm)]
        exact Bool.eq_false_iff.mpr enabled
    obtain ⟨paused, store, same, off, others, rest⟩ := pause
    obtain ⟨begun, inserts, isBegun⟩ := bind_eq_ok.mp rest
    obtain ⟨rfl, rfl⟩ := Prod.mk.inj (pure_eq_ok.mp isBegun)
    obtain ⟨operations, inserted, isBegun⟩ := bind_eq_ok.mp inserts
    obtain rfl := pure_eq_ok.mp isBegun
    obtain ⟨fresh, rows⟩ := Table.insert_eq_ok.mp inserted
    exact .inr ⟨rfl, store, off, others, rfl, rfl, same ▸ fresh, same ▸ rows⟩

end Begin

/-! ### Freeze -/

section Freeze

variable {state next : ControlState} {ownerPolicyId authorizationId : NonBlankText} {nowMs : ℤ}
  {operation : OwnerControlOperation}

/-- The targets of an operation were frozen: they are the active Tickets of its account. -/
structure Frozen (state : ControlState) (old operation : OwnerControlOperation)
    (next : ControlState) : Prop where
  validating : old.state = .validating
  reached : operation.state = .blocked ∨ operation.state = .pending ∨
    operation.state = .completed ∧ operation.targetTicketIds = []
  later : old.Later operation
  distinct : operation.targetTicketIds.Nodup
  targets : ∀ ticketId, ticketId ∈ operation.targetTicketIds ↔
    ∃ row ∈ state.store.tickets, row.ticketId = ticketId ∧
      row.ticket.account = ⟨old.venueId, old.accountId⟩ ∧
      row.aggregate.status ∉ markedTerminalStatuses
  here : old ∈ state.operations
  saved : Saved state old operation next

/-- A freeze writes the targets of an operation that is validated, and else does nothing. -/
theorem ControlState.of_freezeFlattenTargets (returned :
    state.freezeFlattenTargets ownerPolicyId authorizationId nowMs = .ok (next, operation)) :
    next = state ∨ ∃ old, old.authorizationId = authorizationId ∧
      Frozen state old operation next := by
  obtain ⟨old, found, rest⟩ := demand_bind_eq_ok.mp returned
  obtain ⟨here, named⟩ := Table.lookup_eq_some found
  split_ifs at rest with validating
  · obtain ⟨rfl, -⟩ := Prod.mk.inj (pure_eq_ok.mp rest)
    exact .inl rfl
  · rw [not_not] at validating
    obtain ⟨preview, previewed, rest⟩ := bind_eq_ok.mp rest
    obtain ⟨target, moved, rest⟩ := bind_eq_ok.mp rest
    obtain ⟨saved, saves, same⟩ := bind_eq_ok.mp rest
    obtain ⟨rfl, rfl⟩ := Prod.mk.inj (pure_eq_ok.mp same)
    have reaches : target = preview.freezeTarget :=
      pure_eq_ok.mp (refuse_bind_eq_ok.mp (mapError_eq_ok.mp moved)).2
    obtain ⟨policy, -, rest⟩ := demand_bind_eq_ok.mp previewed
    obtain ⟨ticketIds, listed, same⟩ := bind_eq_ok.mp rest
    obtain rfl := pure_eq_ok.mp same
    obtain ⟨distinct, active⟩ := state.store.of_listActiveTicketIds listed
    refine .inr ⟨old, named, validating, ?_, ?_, distinct, active, here,
      saved_of_ok here rfl rfl saves⟩
    · show target = _ ∨ target = _ ∨ target = _ ∧ ticketIds = []
      rw [reaches, FlattenPreview.freezeTarget]
      split_ifs with blocked none
      · exact .inl rfl
      · exact .inr (.inr ⟨rfl, none⟩)
      · exact .inr (.inl rfl)
    · refine ⟨⟨rfl, rfl⟩, rfl, .inr ?_, fun begun => absurd validating begun⟩
      show old.state.rank < target.rank
      rw [validating, reaches, FlattenPreview.freezeTarget]
      split_ifs <;> decide

end Freeze

theorem Frozen.step {state next : ControlState} {old operation : OwnerControlOperation}
    (frozen : Frozen state old operation next) (balanced : Balanced state.store) :
    ControlStep state next := by
  refine frozen.saved.step balanced frozen.later ⟨fun validating => ?_, fun ticketId target => ?_,
    frozen.distinct, fun completed => ?_⟩
  · rcases frozen.reached with blocked | pending | ⟨completed, -⟩
    · rw [blocked] at validating
      exact absurd validating (by decide)
    · rw [pending] at validating
      exact absurd validating (by decide)
    · rw [completed] at validating
      exact absurd validating (by decide)
  · obtain ⟨row, here, named, -⟩ := (frozen.targets ticketId).mp target
    exact ⟨row, here, named⟩
  · rcases frozen.reached with blocked | pending | ⟨-, none⟩
    · rw [blocked] at completed
      exact absurd completed (by decide)
    · rw [pending] at completed
      exact absurd completed (by decide)
    · simp [none]

/-! ### Consume -/

section Consume

variable {state next : ControlState} {operation completed : OwnerControlOperation}
  {workerId : String} {nowMs leaseUntilMs : ℤ} {target : ControlOperationState}

/-- The oldest operation is one of those that meet the condition. -/
theorem ControlState.of_oldest {meets : OwnerControlOperation → Bool}
    (found : state.oldest meets = some operation) :
    operation ∈ state.operations ∧ meets operation = true :=
  List.mem_filter.mp (Table.leastBy_mem found)

/-- **A consume that has requested its exits can be finished**: its operation is saved as claimed,
and again in the state the exits led to. -/
theorem ControlState.finishConsume_returns (workerId : String) (nowMs leaseUntilMs : ℤ)
    (blocker : Option String) (here : operation ∈ state.operations)
    (allowed : target ∈ ControlOperationState.claimed.allowedTransitions) :
    ∃ next completed, state.finishConsume operation workerId nowMs leaseUntilMs target blocker =
        .ok (next, completed) ∧ Saved state operation completed next ∧ completed.state = target ∧
      completed.venueId = operation.venueId ∧ completed.accountId = operation.accountId ∧
      completed.createdAtMs = operation.createdAtMs ∧
      completed.targetTicketIds = operation.targetTicketIds := by
  let claimed : OwnerControlOperation := { operation with
    state := .claimed
    version := operation.version + 1
    claimedBy := some workerId
    leaseUntilMs := some leaseUntilMs
    updatedAtMs := nowMs }
  let completed : OwnerControlOperation := { claimed with
    state := target
    version := claimed.version + 1
    firstBlocker := blocker
    leaseUntilMs := none
    updatedAtMs := nowMs }
  obtain ⟨held, saves, first⟩ :=
    state.saved here (rfl : claimed.authorizationId = operation.authorizationId) rfl
  obtain ⟨next, savesAgain, second⟩ :=
    held.saved first.replaced.there (rfl : completed.authorizationId = claimed.authorizationId) rfl
  refine ⟨next, completed, ?_, first.trans second, rfl, rfl, rfl, rfl, rfl⟩
  refine bind_eq_ok.mpr ⟨held, saves, bind_eq_ok.mpr ⟨target, ?_, ?_⟩⟩
  · rw [advanceControlOperation_of_allowed allowed]
    rfl
  · exact bind_eq_ok.mpr ⟨next, savesAgain, rfl⟩

/-- An operation was consumed: it is blocked by a target that cannot be left, and no Ticket has
changed; or it has requested the exit of every target that is eligible. -/
structure Consumed (state : ControlState) (nowMs : ℤ) (operation completed : OwnerControlOperation)
    (next : ControlState) : Prop where
  here : operation ∈ state.operations
  pending : operation.state = .pending
  later : operation.Later completed
  exits :
    completed.state = .blocked ∧ (∃ ticketId ∈ operation.targetTicketIds,
      state.store.classificationForTicket ticketId = .blocked) ∧
      Saved state operation completed next ∨
    completed.state = .exitsRequested ∧ (∀ ticketId ∈ operation.targetTicketIds,
      state.store.classificationForTicket ticketId ≠ .blocked) ∧
      ∃ store, Store.requestExits operation.exitReason nowMs state.store
          (state.eligibleTargets operation) = .ok store ∧
        Saved { state with store := store } operation completed next

/-- A consume takes the oldest pending operation, if there is one. -/
theorem ControlState.of_consumePendingFlatten {outcome : Option OwnerControlOperation}
    (returned : state.consumePendingFlatten workerId nowMs leaseUntilMs = .ok (next, outcome)) :
    outcome = none ∧ next = state ∨ ∃ operation completed, outcome = some completed ∧
      Consumed state nowMs operation completed next := by
  unfold consumePendingFlatten at returned
  cases found : state.actionableOperation nowMs with
  | none =>
    simp only [found] at returned
    obtain ⟨rfl, rfl⟩ := Prod.mk.inj (pure_eq_ok.mp returned)
    exact .inl ⟨rfl, rfl⟩
  | some operation =>
    simp only [found] at returned
    obtain ⟨here, meets⟩ := of_oldest found
    have pending : operation.state = .pending := (of_decide_eq_true meets).1
    have later : ∀ {completed : OwnerControlOperation} {target : ControlOperationState},
        completed.state = target → ControlOperationState.pending.rank < target.rank →
        completed.venueId = operation.venueId ∧ completed.accountId = operation.accountId ∧
          completed.createdAtMs = operation.createdAtMs ∧
          completed.targetTicketIds = operation.targetTicketIds → operation.Later completed := by
      rintro completed target reached ahead ⟨venue, account, created, same⟩
      refine ⟨⟨venue, account⟩, created, .inr ?_, fun _ => same⟩
      rw [pending, reached]
      exact ahead
    refine .inr ⟨operation, ?_⟩
    cases blocks : state.blockedTarget operation with
    | some ticketId =>
      simp only [blocks] at returned
      obtain ⟨⟨saved, completed⟩, finished, same⟩ := bind_eq_ok.mp returned
      obtain ⟨rfl, rfl⟩ := Prod.mk.inj (pure_eq_ok.mp same)
      obtain ⟨_, _, finishes, saves, reached, rest⟩ :=
        state.finishConsume_returns workerId nowMs leaseUntilMs
          (some ("ticket_not_flattenable:" ++ ticketId.text)) here
          (by decide : .blocked ∈ ControlOperationState.claimed.allowedTransitions)
      rw [finishes] at finished
      obtain ⟨rfl, rfl⟩ := Prod.mk.inj (Except.ok.inj finished)
      refine ⟨_, rfl, here, pending, later reached (by decide) rest, .inl ⟨reached, ?_, saves⟩⟩
      have stands := List.find?_some blocks
      exact ⟨ticketId, List.mem_of_find?_eq_some blocks, of_decide_eq_true stands⟩
    | none =>
      simp only [blocks] at returned
      obtain ⟨store, requested, returned⟩ := bind_eq_ok.mp returned
      obtain ⟨⟨saved, completed⟩, finished, same⟩ := bind_eq_ok.mp returned
      obtain ⟨rfl, rfl⟩ := Prod.mk.inj (pure_eq_ok.mp same)
      obtain ⟨_, _, finishes, saves, reached, rest⟩ :=
        ({ state with store := store } : ControlState).finishConsume_returns workerId nowMs
          leaseUntilMs none here
          (by decide : .exitsRequested ∈ ControlOperationState.claimed.allowedTransitions)
      rw [finishes] at finished
      obtain ⟨rfl, rfl⟩ := Prod.mk.inj (Except.ok.inj finished)
      refine ⟨_, rfl, here, pending, later reached (by decide) rest,
        .inr ⟨reached, fun ticketId target => ?_, store, requested, saves⟩⟩
      exact fun blocked => List.find?_eq_none.mp blocks ticketId target (decide_eq_true blocked)

end Consume

/-- An operation over the same targets, in a state that is not the last one. -/
theorem Saved.onward {state next : ControlState} {operation new : OwnerControlOperation}
    (saved : Saved state operation new next) (kept : ControlKept state)
    (here : operation ∈ state.operations) (later : operation.Later new)
    (same : new.targetTicketIds = operation.targetTicketIds) (begun : new.state ≠ .validating)
    (unfinished : new.state ≠ .completed) : ControlStep state next :=
  saved.step kept.balanced later ((kept.operations operation here).onward same begun unfinished)

theorem Consumed.step {state next : ControlState} {nowMs : ℤ}
    {operation completed : OwnerControlOperation}
    (consumed : Consumed state nowMs operation completed next) (kept : ControlKept state) :
    ControlStep state next := by
  have same : completed.targetTicketIds = operation.targetTicketIds :=
    consumed.later.targets (by rw [consumed.pending]; decide)
  rcases consumed.exits with ⟨blocked, -, saved⟩ | ⟨requested, -, store, exits, saved⟩
  · exact saved.onward kept consumed.here consumed.later same (by rw [blocked]; decide)
      (by rw [blocked]; decide)
  · have moved : Store.Onward state.store store := kept.balanced.exitsRequested exits
    have first : ControlStep state { state with store := store } :=
      ⟨moved, .refl OwnerControlOperation.Later.refl, fun _ here => .inl here⟩
    exact first.trans (saved.onward (first.kept kept) consumed.here consumed.later same
      (by rw [requested]; decide) (by rw [requested]; decide))

/-- A consumed operation is saved, past the state it was consumed in. -/
theorem Consumed.saved {state next : ControlState} {nowMs : ℤ}
    {operation completed : OwnerControlOperation}
    (consumed : Consumed state nowMs operation completed next) :
    completed ∈ next.operations ∧ completed.authorizationId = operation.authorizationId ∧
      operation.state.rank < completed.state.rank := by
  rw [consumed.pending]
  rcases consumed.exits with ⟨blocked, -, saved⟩ | ⟨requested, -, store, -, saved⟩
  · exact ⟨saved.replaced.there, saved.same, by rw [blocked]; decide⟩
  · exact ⟨saved.replaced.there, saved.same, by rw [requested]; decide⟩

/-! ### Advance -/

section Advance

variable {state : ControlState} {operation : OwnerControlOperation}
  {target : ControlOperationState}

/-- **The rows only ask for transitions that are allowed**, and for the last one when every target
has ended. -/
theorem ControlState.of_progressTarget (asked : state.progressTarget operation = some target) :
    target ∈ operation.state.allowedTransitions ∧
      (target = .completed → state.targetsEnded operation = true) := by
  unfold progressTarget at asked
  cases at_ : operation.state with
  | exitsRequested =>
    simp only [at_] at asked
    obtain rfl := Option.some.inj asked
    split_ifs
    all_goals exact ⟨by decide, fun done => absurd done (by decide)⟩
  | exitInProgress =>
    simp only [at_, Option.ite_none_right_eq_some, Option.some.injEq] at asked
    obtain ⟨-, rfl⟩ := asked
    exact ⟨by decide, fun done => absurd done (by decide)⟩
  | reconciliationPending =>
    simp only [at_, Option.ite_none_right_eq_some, Option.some.injEq] at asked
    obtain ⟨-, rfl⟩ := asked
    exact ⟨by decide, fun done => absurd done (by decide)⟩
  | settlementPending =>
    simp only [at_, Option.ite_none_right_eq_some, Option.some.injEq] at asked
    obtain ⟨-, rfl⟩ := asked
    exact ⟨by decide, fun done => absurd done (by decide)⟩
  | reviewPending =>
    simp only [at_, Option.ite_none_right_eq_some, Option.some.injEq] at asked
    obtain ⟨ended, rfl⟩ := asked
    exact ⟨by decide, fun _ => ended⟩
  | needsIntervention =>
    simp only [at_, Option.ite_none_right_eq_some, Option.some.injEq] at asked
    obtain ⟨ended, rfl⟩ := asked
    exact ⟨by decide, fun _ => ended⟩
  | validating | pending | claimed | completed | blocked => simp [at_] at asked

/-- A transition that is allowed is saved. -/
theorem ControlState.saveOperationProgress_returns (nowMs : ℤ) (blocker : Option String)
    (here : operation ∈ state.operations) (allowed : target ∈ operation.state.allowedTransitions) :
    ∃ next updated, state.saveOperationProgress operation target nowMs blocker =
        .ok (next, updated) ∧ Saved state operation updated next ∧ updated.state = target ∧
      updated.targetTicketIds = operation.targetTicketIds ∧ operation.Later updated := by
  let updated : OwnerControlOperation := { operation with
    state := target
    version := operation.version + 1
    firstBlocker := blocker
    updatedAtMs := nowMs }
  obtain ⟨next, saves, saved⟩ :=
    state.saved here (rfl : updated.authorizationId = operation.authorizationId) rfl
  refine ⟨next, updated, ?_, saved, rfl, rfl, ⟨rfl, rfl⟩, rfl,
    .inr (ControlOperationState.rank_lt_of_allowed allowed), fun _ => rfl⟩
  refine bind_eq_ok.mpr ⟨target, ?_, bind_eq_ok.mpr ⟨next, saves, rfl⟩⟩
  rw [advanceControlOperation_of_allowed allowed]
  rfl

/-- An operation was taken one state further, by an obstacle or by the rows of its targets. -/
structure Advanced (state : ControlState) (openIncidentKind : NonBlankText → Option String)
    (operation updated : OwnerControlOperation) (next : ControlState) : Prop where
  here : operation ∈ state.operations
  progressable : operation.state ∈ progressableStates
  saved : Saved state operation updated next
  later : operation.Later updated
  targets : updated.targetTicketIds = operation.targetTicketIds
  reached : updated.state = .needsIntervention ∧ (∃ blocker,
      operation.targetTicketIds.findSome? (state.obstacle openIncidentKind) = some blocker) ∨
    operation.targetTicketIds.findSome? (state.obstacle openIncidentKind) = none ∧
      state.progressTarget operation = some updated.state

/-- **An advance never raises**: it leaves the state as it is, or takes the oldest operation that
can progress one state further. -/
theorem ControlState.advanceFlattenOperationOnce_returns
    (openIncidentKind : NonBlankText → Option String) (nowMs : ℤ) :
    ∃ next outcome, state.advanceFlattenOperationOnce openIncidentKind nowMs =
        .ok (next, outcome) ∧
      (next = state ∨ ∃ operation updated, state.progressableOperation = some operation ∧
        outcome = some updated ∧ Advanced state openIncidentKind operation updated next) := by
  unfold advanceFlattenOperationOnce
  cases found : state.progressableOperation with
  | none => exact ⟨state, none, rfl, .inl rfl⟩
  | some operation =>
    obtain ⟨here, meets⟩ := of_oldest found
    have progressable : operation.state ∈ progressableStates := of_decide_eq_true meets
    cases stopped : operation.targetTicketIds.findSome? (state.obstacle openIncidentKind) with
    | some blocker =>
      simp only [stopped]
      by_cases intervened : operation.state = .needsIntervention
      · rw [if_pos intervened]
        exact ⟨state, some operation, rfl, .inl rfl⟩
      · rw [if_neg intervened]
        have allowed : .needsIntervention ∈ operation.state.allowedTransitions :=
          (by decide : ∀ from_ ∈ progressableStates, from_ ≠ .needsIntervention →
            .needsIntervention ∈ from_.allowedTransitions) _ progressable intervened
        obtain ⟨next, updated, saves, saved, reached, same, later⟩ :=
          state.saveOperationProgress_returns nowMs (some blocker) here allowed
        exact ⟨next, some updated, bind_eq_ok.mpr ⟨_, saves, rfl⟩, .inr ⟨operation, updated, rfl,
          rfl, here, progressable, saved, later, same, .inl ⟨reached, blocker, stopped⟩⟩⟩
    | none =>
      simp only [stopped]
      cases asked : state.progressTarget operation with
      | none => exact ⟨state, some operation, rfl, .inl rfl⟩
      | some target =>
        obtain ⟨next, updated, saves, saved, reached, same, later⟩ :=
          state.saveOperationProgress_returns nowMs none here (of_progressTarget asked).1
        exact ⟨next, some updated, bind_eq_ok.mpr ⟨_, saves, rfl⟩, .inr ⟨operation, updated, rfl,
          rfl, here, progressable, saved, later, same, .inr ⟨stopped, reached ▸ asked⟩⟩⟩

end Advance

/-- What the check of the ended targets says of their rows. -/
theorem ControlState.ended_of_targetsEnded {state : ControlState}
    {operation : OwnerControlOperation} (ended : state.targetsEnded operation = true) :
    ∀ ticketId ∈ operation.targetTicketIds,
      ∃ row ∈ state.store.tickets, row.ticketId = ticketId ∧ row.Ended := by
  obtain ⟨terminal, rest⟩ := of_decide_eq_true ended
  intro ticketId target
  have first := List.all_eq_true.mp terminal ticketId target
  have second := List.all_eq_true.mp rest ticketId target
  cases found : state.store.tickets.lookup ticketId with
  | none => simp [found] at first
  | some row =>
    obtain ⟨here, named⟩ := Table.lookup_eq_some found
    simp only [found, Option.any_some, List.mem_singleton, decide_eq_true_eq] at first second
    exact ⟨row, here, named, first, second.1, second.2⟩

theorem Advanced.step {state next : ControlState} {openIncidentKind : NonBlankText → Option String}
    {operation updated : OwnerControlOperation}
    (advanced : Advanced state openIncidentKind operation updated next)
    (kept : ControlKept state) : ControlStep state next := by
  have before : OperationKept state.store.tickets operation :=
    kept.operations operation advanced.here
  refine advanced.saved.step kept.balanced advanced.later ⟨fun validating => ?_, ?_, ?_, ?_⟩
  · rcases advanced.later.forward with rfl | ahead
    · exact before.unwritten validating
    · rw [validating] at ahead
      exact absurd ahead (Nat.not_lt_zero _)
  · rw [advanced.targets]
    exact before.targets
  · rw [advanced.targets]
    exact before.distinct
  · intro completed
    rw [advanced.targets]
    rcases advanced.reached with ⟨intervened, -⟩ | ⟨-, asked⟩
    · rw [intervened] at completed
      exact absurd completed (by decide)
    · exact ControlState.ended_of_targetsEnded
        ((ControlState.of_progressTarget asked).2 completed)

end TradingKernel
