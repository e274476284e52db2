/-
**An issue keeps the ledger.**

`issueStep` is what an issue does that no check blocks: the row of its Ticket is new, the account has
reserved it, and the lane, which was idle, is its own. It adds one Ticket to both sides of the
balance (`IssueStep.balanced`), below the limit of the policy it was checked against
(`room_of_blocker`).
-/

import TradingKernel.Application.IssueTicket
import TradingKernel.System.AccountBalance

namespace TradingKernel

open Text Guard

/-! ### Checks -/

section Checks

variable {checks : List (Option IssueTicketStatus)} {status other : IssueTicketStatus}

theorem block_eq_none {bad : Prop} [Decidable bad] : block bad status = none ↔ ¬ bad := by
  unfold block
  split_ifs with holds <;> simp [holds]

theorem block_ne {bad : Prop} [Decidable bad] (apart : status ≠ other) :
    block bad status ≠ some other := by
  unfold block
  split_ifs <;> simp [apart]

theorem firstBlock_eq_none : firstBlock checks = none ↔ ∀ check ∈ checks, check = none := by
  simp [firstBlock]

theorem firstBlock_ne (apart : ∀ check ∈ checks, check ≠ some status) :
    firstBlock checks ≠ some status := by
  intro blocks
  obtain ⟨check, member, is⟩ := List.exists_of_findSome?_eq_some blocks
  exact apart check member is

/-- A check that blocks does not say that the Ticket was issued. -/
theorem blocker_ne_issued {store : Store} {view : IssueView} {claim : TicketClaim}
    {ticket : TradeTicket} {nowMs : ℤ} : blocker store view claim ticket nowMs ≠ some .issued := by
  have selection : ∀ authority, selectionIssueStatus authority ≠ .issued := by
    intro authority
    cases authority <;> decide
  refine firstBlock_ne ?_
  simp only [List.forall_mem_cons, List.not_mem_nil, false_imp_iff, implies_true, and_true]
  refine ⟨block_ne (by decide), block_ne (by decide), ?_⟩
  cases view.policy with
  | none => simp
  | some policy =>
    refine firstBlock_ne ?_
    simp only [List.forall_mem_cons, List.not_mem_nil, false_imp_iff, implies_true, and_true]
    refine ⟨block_ne (by decide), block_ne (by decide), block_ne (by decide),
      block_ne (by decide), ?_, block_ne (by decide), block_ne (by decide), block_ne (by decide),
      block_ne (by decide), ?_, block_ne (by decide), block_ne (by decide), block_ne (by decide),
      block_ne (by decide), block_ne (by decide), block_ne (by decide), block_ne (by decide),
      block_ne (by decide)⟩
    · unfold vacuumBlocker
      split
      · simp
      · exact block_ne (by decide)
    · unfold selectionBlocker
      split
      · simp
      · refine firstBlock_ne ?_
        simp only [List.forall_mem_cons, List.not_mem_nil, false_imp_iff, implies_true, and_true]
        exact ⟨block_ne (by decide), block_ne (selection _)⟩

/-- A claim that passes its checks found the lane idle, and room under its policy. -/
theorem room_of_blocker {store : Store} {view : IssueView} {claim : TicketClaim}
    {ticket : TradeTicket} {nowMs : ℤ} (passes : blocker store view claim ticket nowMs = none) :
    store.lane.ticketId = none ∧ ∃ policy, view.policy = some policy ∧
      (currentExposure (store.exposures.lookup ticket.account)
        ticket.account).activeTicketCount < policy.maxConcurrentTickets := by
  simp only [blocker, firstBlock_eq_none, List.forall_mem_cons, block_eq_none, not_not] at passes
  obtain ⟨idle, -, policied, -⟩ := passes
  refine ⟨idle, ?_⟩
  cases known : view.policy with
  | none => simp [known] at policied
  | some policy =>
    rw [known] at policied
    refine ⟨policy, rfl, ?_⟩
    simp only [policyBlocker, firstBlock_eq_none] at policied
    have last := policied _ (List.getLast_mem (List.cons_ne_nil _ _))
    have room := block_eq_none.mp last
    exact not_le.mp fun full => room (.inl full)

end Checks

/-- A Ticket was issued: its row is new, its account has reserved it, and it has the lane. -/
structure IssueStep (store : Store) (ticket : TradeTicket) (header : EventHeader) (kernel : Kernel)
    (next : Store) : Prop where
  idle : store.lane.ticketId = none
  tickets : next.tickets.rows = store.tickets.rows ++ [TicketRow.issued header ticket kernel]
  aggregate : kernel.aggregate = issuedAggregate ticket 1
  first : header.sequence = 1
  exposures : (∀ exposure ∈ store.exposures, exposure.account ≠ ticket.account) ∧
      next.exposures.rows = store.exposures.rows ++
        [AccountExposure.first ticket.account ticket.reservation] ∨
    ∃ exposure, exposure.account = ticket.account ∧
      Table.Replaced store.exposures exposure (exposure.reserved ticket.reservation)
        next.exposures
  lane : next.lane.ticketId = some ticket.identity.ticketId

/-- What an issue that was not blocked does. -/
theorem issueStep {store next : Store} {view : IssueView} {claim : TicketClaim} {nowMs : ℤ}
    {timed : 0 < nowMs}
    (returned : store.issueTicket view claim nowMs timed = .ok (.issued, next)) :
    ∃ ticket header kernel, claim.toTicket = .ok ticket ∧
      blocker store view claim ticket nowMs = none ∧
      IssueStep store ticket header kernel next := by
  obtain ⟨ticket, made, rest⟩ := bind_eq_ok.mp returned
  cases blocks : blocker store view claim ticket nowMs with
  | some status =>
    rw [blocks] at rest
    obtain ⟨rfl, -⟩ := Prod.mk.inj (pure_eq_ok.mp rest)
    exact absurd blocks blocker_ne_issued
  | none =>
    rw [blocks] at rest
    obtain ⟨after, opened, same⟩ := bind_eq_ok.mp rest
    obtain ⟨-, rfl⟩ := Prod.mk.inj (pure_eq_ok.mp same)
    simp only [openTicket, claimGlobalLane, bind_eq_ok, refuse_eq_ok, pure_eq_ok] at opened
    obtain ⟨exposures, reserved, lane, ⟨-, free, rfl⟩, kernel, issued, tickets, inserted, rfl⟩ :=
      opened
    refine ⟨ticket, issueEvent ticket nowMs timed, kernel, made, blocks, ?_⟩
    refine ⟨(not_not.mp free).1, (Table.insert_eq_ok.mp inserted).2, (issue_eq_ok issued).aggregate,
      rfl, ?_, rfl⟩
    cases known : store.exposures.lookup ticket.account with
    | none =>
      rw [known] at reserved
      exact .inl ⟨Table.lookup_eq_none.mp known, (Table.insert_eq_ok.mp reserved).2⟩
    | some exposure =>
      rw [known] at reserved
      obtain ⟨old, same, replaced⟩ := Table.replaced_of_update reserved
      exact .inr ⟨old, same.1, replaced⟩

/-- A blocked issue leaves the store as it is. -/
theorem issue_blocked {store next : Store} {view : IssueView} {claim : TicketClaim} {nowMs : ℤ}
    {timed : 0 < nowMs} {status : IssueTicketStatus}
    (returned : store.issueTicket view claim nowMs timed = .ok (status, next))
    (blocked : status ≠ .issued) : next = store := by
  obtain ⟨ticket, made, rest⟩ := bind_eq_ok.mp returned
  cases blocks : blocker store view claim ticket nowMs with
  | some other =>
    rw [blocks] at rest
    exact (Prod.mk.inj (pure_eq_ok.mp rest)).2
  | none =>
    rw [blocks] at rest
    obtain ⟨after, opened, same⟩ := bind_eq_ok.mp rest
    exact absurd (Prod.mk.inj (pure_eq_ok.mp same)).1 blocked

namespace IssueStep

variable {store next : Store} {ticket : TradeTicket} {header : EventHeader} {kernel : Kernel}

theorem ticket_issued (step : IssueStep store ticket header kernel next) :
    (TicketRow.issued header ticket kernel).ticket = ticket := by
  show kernel.aggregate.ticket = ticket
  rw [step.aggregate]
  rfl

theorem issued_open : (TicketRow.issued header ticket kernel).Open := by
  have count := (CapitalHeld.issued header ticket).count
  rw [if_neg (issued_not_mem ticket (by decide))] at count
  exact count

theorem rowKept (step : IssueStep store ticket header kernel next) :
    RowKept (TicketRow.issued header ticket kernel) where
  run := by
    have reduced := reduceEvent_none_eq_ok.mpr ⟨header, ticket, rfl, step.first, rfl⟩
    show Run Accepts none ([] ++ [_]) (some kernel.aggregate)
    rw [step.aggregate]
    exact .snoc .nil ⟨_, reduced, rfl, rfl⟩
  named := by
    show ticket.identity.ticketId = kernel.aggregate.identity.ticketId
    rw [step.aggregate]
    rfl
  budget := ⟨fun _ => issued_open, fun _ => rfl⟩
  domain _ := by
    rw [step.ticket_issued]
    rfl

theorem mem_tickets (step : IssueStep store ticket header kernel next) {row : TicketRow} :
    row ∈ next.tickets ↔ row ∈ store.tickets ∨ row = TicketRow.issued header ticket kernel := by
  rw [← Table.mem_rows, step.tickets, List.mem_append, List.mem_singleton, Table.mem_rows]

/-- The row of the account counts one Ticket more than before. -/
theorem counted (step : IssueStep store ticket header kernel next) :
    ∃ exposure ∈ next.exposures, exposure.account = ticket.account ∧
      exposure.activeTicketCount = (currentExposure (store.exposures.lookup ticket.account)
        ticket.account).activeTicketCount + 1 := by
  rcases step.exposures with ⟨absent, rows⟩ | ⟨old, owned, replaced⟩
  · refine ⟨AccountExposure.first ticket.account ticket.reservation, ?_, rfl, ?_⟩
    · rw [← Table.mem_rows, rows]
      exact List.mem_append_right _ (List.mem_singleton_self _)
    · rw [Table.lookup_eq_none.mpr absent]
      rfl
  · refine ⟨_, replaced.there, owned, ?_⟩
    rw [← owned, Table.lookup_of_mem replaced.here]
    rfl

theorem covers (step : IssueStep store ticket header kernel next) (balanced : Balanced store) :
    ∀ exposure ∈ next.exposures,
      exposure.Covers (openTickets exposure.account next.tickets.rows) := by
  intro exposure member
  have parts : next.tickets.rows.Perm (TicketRow.issued header ticket kernel ::
      store.tickets.rows) := by
    rw [step.tickets]
    exact List.perm_append_singleton _ _
  refine AccountExposure.Covers.perm ?_ (openTickets_perm parts).symm
  have own : ∀ account, account = ticket.account →
      openTickets account (TicketRow.issued header ticket kernel :: store.tickets.rows) =
        ticket :: openTickets account store.tickets.rows := by
    rintro account rfl
    rw [openTickets_cons_of_open (congrArg _ step.ticket_issued) issued_open, step.ticket_issued]
  have foreign : ∀ account, account ≠ ticket.account →
      openTickets account (TicketRow.issued header ticket kernel :: store.tickets.rows) =
        openTickets account store.tickets.rows := by
    intro account apart
    refine openTickets_cons_of_not fun both => apart ?_
    rw [← both.1, step.ticket_issued]
  rcases step.exposures with ⟨absent, rows⟩ | ⟨old, owned, replaced⟩
  · rw [← Table.mem_rows, rows, List.mem_append, List.mem_singleton] at member
    rcases member with there | rfl
    · rw [foreign _ (absent exposure there)]
      exact balanced.covers exposure there
    · -- an account without a row has no open Ticket
      have none : openTickets ticket.account store.tickets.rows = [] := by
        rw [openTickets, List.map_eq_nil_iff, List.filter_eq_nil_iff]
        intro row here open_
        obtain ⟨owned, stands⟩ := of_decide_eq_true open_
        obtain ⟨exposure, there, same⟩ := balanced.covered row here stands
        exact absent exposure there (same.trans owned)
      show AccountExposure.Covers _ (openTickets ticket.account _)
      rw [own _ rfl, none]
      exact .first ticket.account
  · rcases replaced.of_mem_updated member with rfl | ⟨there, apart⟩
    · show AccountExposure.Covers _ (openTickets old.account _)
      rw [own _ owned]
      exact (balanced.covers old replaced.here).reserved
    · rw [foreign _ fun same => apart (same.trans owned.symm)]
      exact balanced.covers exposure there

theorem covered (step : IssueStep store ticket header kernel next) (balanced : Balanced store) :
    ∀ row ∈ next.tickets, row.Open →
      ∃ exposure ∈ next.exposures, exposure.account = row.ticket.account := by
  intro row member stands
  rcases step.mem_tickets.mp member with here | rfl
  · obtain ⟨exposure, there, owned⟩ := balanced.covered row here stands
    rcases step.exposures with ⟨-, rows⟩ | ⟨old, -, replaced⟩
    · refine ⟨exposure, ?_, owned⟩
      rw [← Table.mem_rows, rows]
      exact List.mem_append_left _ there
    · by_cases is : exposure = old
      · exact ⟨_, replaced.there, is ▸ owned⟩
      · exact ⟨exposure, replaced.mem_updated there is, owned⟩
  · obtain ⟨exposure, there, owned, -⟩ := step.counted
    exact ⟨exposure, there, by rw [owned, step.ticket_issued]⟩

theorem lane_named (step : IssueStep store ticket header kernel next) (balanced : Balanced store)
    (ticketId : NonBlankText) : next.lane.ticketId = some ticketId ↔
      ∃ row ∈ next.tickets, row.ticketId = ticketId ∧ row.aggregate.entryLaneHeld = true := by
  have held : (TicketRow.issued header ticket kernel).aggregate.entryLaneHeld = true := by
    show kernel.aggregate.entryLaneHeld = true
    rw [step.aggregate]
    rfl
  rw [step.lane, Option.some_inj]
  constructor
  · intro named
    exact ⟨_, step.mem_tickets.mpr (.inr rfl), named, held⟩
  · rintro ⟨row, member, named, holds⟩
    rcases step.mem_tickets.mp member with here | rfl
    · have busy := (balanced.lane row.ticketId).mpr ⟨row, here, rfl, holds⟩
      rw [step.idle] at busy
      exact absurd busy (by simp)
    · exact named

/-- **An issue keeps the ledger.** -/
theorem balanced (step : IssueStep store ticket header kernel next) (before : Balanced store) :
    Balanced next where
  rows row member := by
    rcases step.mem_tickets.mp member with here | rfl
    · exact before.rows row here
    · exact step.rowKept
  covers := step.covers before
  covered := step.covered before
  lane := step.lane_named before

end IssueStep

end TradingKernel
