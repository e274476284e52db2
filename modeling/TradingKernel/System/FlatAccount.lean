/-
**An account that was flattened is flat.**

A flatten stops the entries of its policy before it freezes its targets, so no Ticket of the policy is
issued behind the frozen ones. `Fenced` is what holds from the begin on, as long as nobody resumes the
entries: the policy is paused, and every Ticket of the account under the policy is among the frozen
targets or has ended before. When the operation is completed, its targets have ended too: nothing is
open, and nothing is reserved. A pause alone already keeps new Tickets out (`EntriesStopped`).
-/

import TradingKernel.System.FlattenSaga

namespace TradingKernel

open Text Guard

/-! ### Where rows come from -/

section Stems

variable {store next : Store}

theorem CommitStep.stems {row new : TicketRow} {event : TicketEvent} {reduction : Reduction}
    {fresh : TicketRow → Prop} (step : CommitStep store row event reduction new next) :
    Table.Stems TicketRow.Later fresh store.tickets next.tickets :=
  step.replaced.stems TicketRow.Later.refl step.ticketId step.later

theorem Balanced.exitsRequested_stems {reason : NonBlankText} {requestedAtMs : ℤ}
    {ticketIds : List NonBlankText} {ownerPolicyId : NonBlankText} (balanced : Balanced store)
    (returned : Store.requestExits reason requestedAtMs store ticketIds = .ok next) :
    Table.Stems TicketRow.Later (fun row => row.ticket.ownerPolicyId ≠ ownerPolicyId)
      store.tickets next.tickets := by
  induction ticketIds generalizing store with
  | nil =>
    obtain rfl : next = store := pure_eq_ok.mp returned
    exact .refl TicketRow.Later.refl
  | cons ticketId ticketIds ih =>
    obtain ⟨middle, first, rest⟩ := bind_eq_ok.mp returned
    obtain ⟨row, event, reduction, new, -, -, -, step⟩ := balanced.exitRequested first
    refine step.stems.trans TicketRow.Later.trans (fun later apart => ?_)
      (ih (step.balanced balanced) rest)
    rw [later.ticket]
    exact apart

/-- An issued Ticket is of a policy that lets new entries in. -/
theorem enabled_of_blocker {view : IssueView} {claim : TicketClaim} {ticket : TradeTicket}
    {nowMs : ℤ} (passes : blocker store view claim ticket nowMs = none) :
    ∃ policy, view.policy = some policy ∧ policy.newEntrySubmitEnabled = true := by
  simp only [blocker, firstBlock_eq_none, List.forall_mem_cons] at passes
  obtain ⟨-, -, policied, -⟩ := passes
  cases known : view.policy with
  | none => simp [known] at policied
  | some policy =>
    rw [known] at policied
    simp only [policyBlocker, firstBlock_eq_none, List.forall_mem_cons, block_eq_none,
      not_not] at policied
    exact ⟨policy, rfl, policied.2.1.2⟩

theorem ownerPolicyId_of_toTicket {claim : TicketClaim} {ticket : TradeTicket}
    (made : claim.toTicket = .ok ticket) : ticket.ownerPolicyId = claim.ownerPolicyId := by
  unfold TicketClaim.toTicket at made
  rw [refuse_bind_eq_ok, refuse_bind_eq_ok] at made
  obtain ⟨-, -, built⟩ := made
  split_ifs at built with valid
  obtain rfl := pure_eq_ok.mp built
  rfl

end Stems

section Fence

variable {state next : ControlState} {action : ControlAction} {ownerPolicyId : NonBlankText}

/-- **A Ticket of a paused policy is not issued.** -/
theorem ControlState.Paused.stems {view : IssueView} {claim : TicketClaim} {nowMs : ℤ} {store : Store}
    (paused : state.Paused ownerPolicyId)
    (reads : ControlAction.Reads state (.ticket (.issue view claim nowMs)))
    (returned : state.store.transact (.issue view claim nowMs) = .ok store) :
    Table.Stems TicketRow.Later (fun row => row.ticket.ownerPolicyId ≠ ownerPolicyId)
      state.store.tickets store.tickets := by
  simp only [Store.transact] at returned
  split_ifs at returned with timed
  obtain ⟨⟨status, after⟩, issued, same⟩ := bind_eq_ok.mp returned
  obtain rfl : store = after := pure_eq_ok.mp same
  by_cases success : status = .issued
  · subst success
    obtain ⟨ticket, header, kernel, made, passes, step⟩ := issueStep issued
    refine Table.stems_of_rows TicketRow.Later.refl step.tickets fun named => ?_
    rw [step.ticket_issued, ownerPolicyId_of_toTicket made] at named
    -- the policy that was read is the stored one, which is paused
    obtain ⟨policy, read, enabled⟩ := enabled_of_blocker passes
    simp only [ControlAction.Reads, read, Option.map_some] at reads
    obtain ⟨stored, found, same⟩ := Option.map_eq_some_iff.mp reads.symm
    obtain ⟨here, own⟩ := Table.lookup_eq_some found
    have off := paused stored here (own.trans named)
    simp only [Prod.mk.injEq] at same
    rw [same.2.2, enabled] at off
    exact Bool.noConfusion off
  · rw [issue_blocked issued success]
    exact .refl TicketRow.Later.refl

/-- The Tickets of a paused policy are the ones there were. -/
theorem ControlTaken.stems (taken : ControlTaken state action next) (kept : ControlKept state)
    (paused : state.Paused ownerPolicyId) :
    Table.Stems TicketRow.Later (fun row => row.ticket.ownerPolicyId ≠ ownerPolicyId)
      state.store.tickets next.store.tickets := by
  cases taken.did with
  | nothing => exact .refl TicketRow.Later.refl
  | @transacted transaction store returned =>
    cases transaction with
    | commit commands event =>
      obtain ⟨row, reduction, new, step⟩ := kept.balanced.commitStep returned
      exact step.stems
    | issue view claim nowMs => exact paused.stems taken.reads returned
  | entrySet store => exact .of_eq TicketRow.Later.refl (by rw [store])
  | begun begun => exact .of_eq TicketRow.Later.refl (by rw [begun.store])
  | frozen frozen => exact .of_eq TicketRow.Later.refl (by rw [frozen.saved.store])
  | consumed consumed =>
    rcases consumed.exits with ⟨-, -, saved⟩ | ⟨-, -, store, exits, saved⟩
    · exact .of_eq TicketRow.Later.refl (by rw [saved.store])
    · rw [saved.store]
      exact kept.balanced.exitsRequested_stems exits
  | advanced advanced => exact .of_eq TicketRow.Later.refl (by rw [advanced.saved.store])

/-- A policy stays paused unless its entries are resumed. -/
theorem ControlTaken.paused (taken : ControlTaken state action next)
    (quiet : ¬ action.Resumes ownerPolicyId) (paused : state.Paused ownerPolicyId) :
    next.Paused ownerPolicyId := by
  have unchanged : next.policies = state.policies → next.Paused ownerPolicyId := by
    intro same
    unfold ControlState.Paused
    rw [same]
    exact paused
  cases taken.did with
  | nothing => exact paused
  | transacted returned => exact paused
  | @entrySet other _ enabled _ _ _ store operations policies =>
    refine policies ownerPolicyId ?_ paused
    by_cases named : other = ownerPolicyId
    · refine .inr ?_
      rw [← Bool.not_eq_true]
      exact fun on => quiet ⟨named, on⟩
    · exact .inl named
  | begun begun => exact begun.others _ paused
  | frozen frozen => exact unchanged frozen.saved.policies
  | consumed consumed =>
    rcases consumed.exits with ⟨-, -, saved⟩ | ⟨-, -, store, -, saved⟩
    · exact unchanged saved.policies
    · exact unchanged saved.policies
  | advanced advanced => exact unchanged advanced.saved.policies

/-- A save leaves the other operations as they are. -/
theorem Saved.unchanged {operation updated old new : OwnerControlOperation}
    (saved : Saved state operation updated next) (here : old ∈ state.operations)
    (there : new ∈ next.operations) (same : new.authorizationId = old.authorizationId) :
    old = operation ∧ new = updated ∨ new = old := by
  rcases saved.replaced.of_mem_updated there with rfl | ⟨stays, -⟩
  · refine .inl ⟨Table.eq_of_key here saved.replaced.here ?_, rfl⟩
    rw [← same, saved.same]
  · exact .inr (Table.eq_of_key stays here same)

/-- **An operation leaves its validation by the freeze of its targets**, and not otherwise. -/
theorem ControlTaken.frozen {old new : OwnerControlOperation}
    (taken : ControlTaken state action next) (here : old ∈ state.operations)
    (validating : old.state = .validating) (there : new ∈ next.operations)
    (same : new.authorizationId = old.authorizationId) :
    new = old ∨ Frozen state old new next := by
  have stays : old ∈ next.operations → new = old ∨ Frozen state old new next :=
    fun stays => .inl (Table.eq_of_key there stays same)
  cases taken.did with
  | nothing => exact stays here
  | transacted returned => exact stays here
  | entrySet store operations => exact stays (operations ▸ here)
  | begun begun =>
    rw [← Table.mem_rows, begun.rows, List.mem_append, List.mem_singleton] at there
    rcases there with kept | rfl
    · exact .inl (Table.eq_of_key kept here same)
    · exact absurd same.symm (begun.fresh old here)
  | frozen frozen =>
    rcases frozen.saved.unchanged here there same with ⟨rfl, rfl⟩ | kept
    · exact .inr frozen
    · exact .inl kept
  | @consumed _ _ _ was done _ consumed =>
    have saves : old = was ∧ new = done ∨ new = old := by
      rcases consumed.exits with ⟨-, -, saved⟩ | ⟨-, -, store, -, saved⟩
      · exact saved.unchanged here there same
      · exact saved.unchanged here there same
    rcases saves with ⟨rfl, -⟩ | kept
    · rw [consumed.pending] at validating
      exact absurd validating (by decide)
    · exact .inl kept
  | advanced advanced =>
    rcases advanced.saved.unchanged here there same with ⟨rfl, -⟩ | kept
    · have progressable := advanced.progressable
      rw [validating] at progressable
      exact absurd progressable (by decide)
    · exact .inl kept

/-! ### A pause -/

/-- What a pause of a policy means for every state that follows: the policy is paused, and each of its
Tickets was there before the pause. -/
structure EntriesStopped (ownerPolicyId : NonBlankText) (state later : ControlState) : Prop where
  paused : later.Paused ownerPolicyId
  tickets : ∀ row ∈ later.store.tickets, row.ticket.ownerPolicyId = ownerPolicyId →
    ∃ old ∈ state.store.tickets, old.ticketId = row.ticketId ∧ old.Later row

/-- Along every run that does not resume a paused policy. -/
theorem ControlKept.entriesStopped {actions : List ControlAction} (kept : ControlKept state)
    (paused : state.Paused ownerPolicyId) (steps : Run ControlTaken state actions next)
    (quiet : ∀ action ∈ actions, ¬ action.Resumes ownerPolicyId) :
    EntriesStopped ownerPolicyId state next := by
  obtain ⟨-, stopped, stems⟩ := steps.history_invariant
    (fun past middle => (∀ action ∈ past, ¬ action.Resumes ownerPolicyId) →
      ControlKept middle ∧ middle.Paused ownerPolicyId ∧
        Table.Stems TicketRow.Later (fun row => row.ticket.ownerPolicyId ≠ ownerPolicyId)
          state.store.tickets middle.store.tickets)
    (fun _ => ⟨kept, paused, .refl TicketRow.Later.refl⟩) (by
      intro past action middle after _ before taken unresumed
      obtain ⟨kept, paused, stems⟩ := before fun other there =>
        unresumed other (List.mem_append_left _ there)
      refine ⟨(taken.step kept).kept kept, taken.paused
        (unresumed action (List.mem_append_right _ (List.mem_singleton_self _))) paused,
        stems.trans TicketRow.Later.trans (fun later apart => ?_) (taken.stems kept paused)⟩
      rw [later.ticket]
      exact apart) quiet
  refine ⟨stopped, fun row here named => ?_⟩
  rcases stems row here with came | apart
  · exact came
  · exact absurd named apart

/-- **A pause lets no Ticket in.** After a pause of a policy that is not the repetition of an earlier
request, in every run of any other actions, as long as nobody resumes the entries of the policy, no
Ticket of the policy is issued. -/
theorem pause_lets_no_ticket_in {start set final : ControlState} {actions later : List ControlAction}
    {resumeBlocker : Option String} {request : ControlMutationRequest}
    {authorizationId : NonBlankText} (run : ControlRun start actions state)
    (unknown : state.authorizations.lookup request.idempotencyKey = none)
    (pauses : state.setGlobalEntryState ownerPolicyId false resumeBlocker request
      authorizationId = .ok set)
    (steps : Run ControlTaken set later final)
    (quiet : ∀ action ∈ later, ¬ action.Resumes ownerPolicyId) :
    EntriesStopped ownerPolicyId state final := by
  have taken : ControlTaken state
      (.setEntry ownerPolicyId false resumeBlocker request authorizationId) set :=
    ⟨pauses, trivial⟩
  obtain ⟨store, -, paused, -⟩ := ControlState.of_setGlobalEntryState pauses
  have stopped : EntriesStopped ownerPolicyId set final :=
    ((taken.step run.kept).kept run.kept).entriesStopped (paused unknown rfl) steps quiet
  refine ⟨stopped.paused, ?_⟩
  rw [← store]
  exact stopped.tickets

/-- No Ticket was issued after the pause of the sample policy. -/
theorem pause_lets_no_ticket_in_of_sample : ∃ state final,
    ControlRun sampleControl protectingActions state ∧ state.store.tickets.rows ≠ [] ∧
      EntriesStopped sampleTicket.ownerPolicyId state final := by
  obtain ⟨state, _, _, _, _, _, _, _, _, _, sample⟩ := exists_sampleFlatten
  have pausing := sample.pausing
  unfold samplePauses at pausing
  obtain ⟨before, passes⟩ := Bool.and_eq_true_iff.mp pausing
  obtain ⟨issued, unknown⟩ := Bool.and_eq_true_iff.mp before
  obtain ⟨set, pauses, passes⟩ := (Option.any_eq_true _ _).mp passes
  obtain ⟨final, later⟩ := Option.isSome_iff_exists.mp passes
  have run := SampleFlatten.run_of_start sample.protecting
  exact ⟨state, final, run, of_decide_eq_true issued, pause_lets_no_ticket_in run
    (Option.isNone_iff_eq_none.mp unknown) (toOption_eq_some.mp pauses)
    (ControlState.run_of_evaluate later) (by decide)⟩

/-! ### The fence -/

/-- The policy of a flatten lets no new entries in, and its operation is validated, or every Ticket of
the account under the policy has ended or is a target. -/
structure Fenced (ownerPolicyId : NonBlankText) (account : AccountKey)
    (authorizationId : NonBlankText) (state : ControlState) : Prop where
  paused : state.Paused ownerPolicyId
  operation : ∃ operation ∈ state.operations, operation.authorizationId = authorizationId ∧
    account = ⟨operation.venueId, operation.accountId⟩ ∧
    (operation.state = .validating ∨ ∀ row ∈ state.store.tickets, row.ticket.account = account →
      row.ticket.ownerPolicyId = ownerPolicyId →
      row.aggregate.status ∈ markedTerminalStatuses ∨ row.ticketId ∈ operation.targetTicketIds)

/-- **Every action keeps the fence**, unless it resumes the entries. -/
theorem Fenced.taken {account : AccountKey} {authorizationId : NonBlankText}
    (fenced : Fenced ownerPolicyId account authorizationId state) (kept : ControlKept state)
    (taken : ControlTaken state action next) (quiet : ¬ action.Resumes ownerPolicyId) :
    Fenced ownerPolicyId account authorizationId next where
  paused := taken.paused quiet fenced.paused
  operation := by
    obtain ⟨operation, here, named, same, past⟩ := fenced.operation
    obtain ⟨new, there, stays, later⟩ := (taken.step kept).operations operation here
    refine ⟨new, there, stays.trans named, ?_, ?_⟩
    · rw [later.account.1, later.account.2]
      exact same
    · by_cases validating : operation.state = .validating
      · rcases taken.frozen here validating there stays with rfl | frozen
        · exact .inl validating
        · -- what is active as the targets are frozen is a target
          refine .inr fun row member owned _ => ?_
          rw [frozen.saved.store] at member
          by_cases marked : row.aggregate.status ∈ markedTerminalStatuses
          · exact .inl marked
          · exact .inr ((frozen.targets _).mpr ⟨row, member, rfl, owned.trans same, marked⟩)
      · refine .inr fun row member owned policy => ?_
        rcases taken.stems kept fenced.paused row member with ⟨old, was, named, moved⟩ | apart
        · rw [moved.ticket] at owned policy
          rcases (past.resolve_left validating) old was owned policy with marked | target
          · exact .inl (moved.marked marked)
          · rw [later.targets validating, ← named]
            exact .inr target
        · exact absurd policy apart

end Fence

/-! ### The flat account -/

/-- Nothing of an account is open under a policy; and where all its Tickets are of that policy, its
exposure row is zero. -/
structure FlatAccount (ownerPolicyId : NonBlankText) (account : AccountKey) (store : Store) :
    Prop where
  tickets : ∀ row ∈ store.tickets, row.ticket.account = account →
    row.ticket.ownerPolicyId = ownerPolicyId →
      row.aggregate.status ∈ markedTerminalStatuses ∧ row.aggregate.positionQty = 0 ∧
        row.budgetActive = false
  exposures : (∀ row ∈ store.tickets, row.ticket.account = account →
      row.ticket.ownerPolicyId = ownerPolicyId) →
    ∀ exposure ∈ store.exposures, exposure.account = account → exposure.Covers []

/-- A Ticket that is marked as terminal has no position and no budget. -/
theorem RowKept.closed {row : TicketRow} (kept : RowKept row)
    (marked : row.aggregate.status ∈ markedTerminalStatuses) :
    row.aggregate.positionQty = 0 ∧ row.budgetActive = false ∧ ¬ row.Open := by
  have held := capitalHeld kept.run
  have released : row.aggregate.status ∈ releasedStatuses :=
    (by decide : ∀ status ∈ markedTerminalStatuses, status ∈ releasedStatuses) _ marked
  have closed : ¬ row.Open := by
    have count := held.count
    rw [if_pos released] at count
    intro stands
    exact absurd (stands.symm.trans count) (by decide)
  refine ⟨held.flat (List.mem_append_left _ released), ?_, closed⟩
  rw [← Bool.not_eq_true, kept.budget]
  exact closed

end TradingKernel
