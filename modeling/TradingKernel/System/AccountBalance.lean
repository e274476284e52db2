/-
**The exposure rows and the lane agree with the rows of the Tickets.**

`Balanced` relates the rows of a store: every exposure row covers the Tickets of its account whose
capital has not been released, and the lane names the Ticket that holds it. Under it the releases of
an accepted event return (`Balanced.freed`), and a committed event keeps it
(`CommitStep.balanced`): it takes a Ticket from both sides, since the capital of a Ticket is
released once (`capitalHeld`) and the lane when it is freed (`laneStep`).
-/

import TradingKernel.Infrastructure.AccountReleases
import TradingKernel.Lifecycle.EntryLane
import TradingKernel.System.Steps

namespace TradingKernel

open Text Guard

/-! ### Open Tickets -/

/-- The capital of the Ticket has not been released. -/
def TicketRow.Open (row : TicketRow) : Prop := releases row.events = 0

instance (row : TicketRow) : Decidable row.Open := inferInstanceAs (Decidable (_ = _))

/-- The Tickets of an account whose capital has not been released. -/
def openTickets (account : AccountKey) (rows : List TicketRow) : List TradeTicket :=
  (rows.filter fun row => row.ticket.account = account ∧ row.Open).map TicketRow.ticket

section Open

variable {account : AccountKey} {row : TicketRow} {rows others : List TicketRow}

theorem openTickets_perm (same : rows.Perm others) :
    (openTickets account rows).Perm (openTickets account others) :=
  (same.filter _).map _

theorem openTickets_cons_of_open (owned : row.ticket.account = account) (stands : row.Open) :
    openTickets account (row :: rows) = row.ticket :: openTickets account rows := by
  simp [openTickets, owned, stands]

theorem openTickets_cons_of_not
    (not : ¬ (row.ticket.account = account ∧ row.Open)) :
    openTickets account (row :: rows) = openTickets account rows := by
  simp only [openTickets, List.filter_cons, decide_eq_true_eq, if_neg not]

/-- A row that stands for the same Ticket, and is open if the other is. -/
theorem openTickets_cons_congr {other : TicketRow} (ticket : other.ticket = row.ticket)
    (stands : other.Open ↔ row.Open) :
    openTickets account (other :: rows) = openTickets account (row :: rows) := by
  simp only [openTickets, List.filter_cons, ticket, stands]
  split_ifs <;> simp [ticket]

end Open

/-! ### The invariant -/

/-- A store without Tickets: the exposure rows of the accounts are zero, and the lane is idle. -/
structure Store.Seeded (store : Store) : Prop where
  fresh : store.tickets.rows = []
  zero : ∀ exposure ∈ store.exposures, exposure.Covers []
  idle : store.lane.ticketId = none

/-- A Ticket's row: its events are a run of its lifecycle, and its budget and its netting domain are
its own until its capital is released. -/
structure RowKept (row : TicketRow) : Prop where
  run : LifecycleRun row.events row.aggregate
  named : row.ticketId = row.aggregate.identity.ticketId
  budget : row.budgetActive = true ↔ row.Open
  domain : row.budgetActive = true →
    row.activeNettingDomainKey = some row.ticket.identity.nettingDomain.key

/-- The capital of a Ticket is released once, so a release finds it open. -/
theorem RowKept.once {row : TicketRow} {event : TicketEvent} {reduction : Reduction}
    (kept : RowKept row) (on : AcceptedOn row.aggregate event reduction) :
    releases row.events + releaseCount reduction.effects ≤ 1 := by
  have count := (capitalHeld (kept.run.snoc on.accepts)).count
  rw [releases_append, releases_accepted] at count
  rw [count]
  split_ifs <;> decide

/-- The exposure rows and the lane agree with the rows of the Tickets. -/
structure Balanced (store : Store) : Prop where
  rows : ∀ row ∈ store.tickets, RowKept row
  covers : ∀ exposure ∈ store.exposures,
    exposure.Covers (openTickets exposure.account store.tickets.rows)
  covered : ∀ row ∈ store.tickets, row.Open →
    ∃ exposure ∈ store.exposures, exposure.account = row.ticket.account
  lane : ∀ ticketId, store.lane.ticketId = some ticketId ↔
    ∃ row ∈ store.tickets, row.ticketId = ticketId ∧ row.aggregate.entryLaneHeld = true

namespace Balanced

variable {store next : Store} {row : TicketRow} {event : TicketEvent} {reduction : Reduction}

theorem seeded (begun : store.Seeded) : Balanced store where
  rows row member := by simp [← Table.mem_rows, begun.fresh] at member
  covers exposure member := by
    rw [begun.fresh]
    exact begun.zero exposure member
  covered row member := by simp [← Table.mem_rows, begun.fresh] at member
  lane ticketId := by simp [← Table.mem_rows, begun.fresh, begun.idle]

/-! ### Commits -/

/-- The row of an open Ticket's account covers that Ticket and the others. -/
theorem covers_rest (balanced : Balanced store) (here : row ∈ store.tickets) (stands : row.Open)
    {exposure : AccountExposure} (there : exposure ∈ store.exposures)
    (owned : exposure.account = row.ticket.account) :
    ∃ others, exposure.Covers (row.ticket :: others) := by
  obtain ⟨rest, parts, -⟩ := Table.Replaced.of_mem here
  refine ⟨openTickets exposure.account rest, ?_⟩
  refine (balanced.covers exposure there).perm ((openTickets_perm parts).trans ?_)
  rw [openTickets_cons_of_open owned.symm stands]

/-- The capital of an open Ticket can be released. -/
theorem ready (balanced : Balanced store) (here : row ∈ store.tickets) (stands : row.Open) :
    CapitalReady store row := by
  have kept : RowKept row := balanced.rows row here
  have active : row.budgetActive = true := kept.budget.mpr stands
  obtain ⟨exposure, there, owned⟩ := balanced.covered row here stands
  obtain ⟨others, covers⟩ := balanced.covers_rest here stands there owned
  exact ⟨active, kept.domain active, exposure, there, owned, covers.releasable⟩

/-- A release finds the Ticket open. -/
theorem stands (balanced : Balanced store) (here : row ∈ store.tickets)
    (on : AcceptedOn row.aggregate event reduction)
    (released : releaseCount reduction.effects = 1) : row.Open := by
  have most := (balanced.rows row here).once on
  show releases row.events = 0
  omega

/-- **The releases of an accepted event return.** -/
theorem freed (balanced : Balanced store) (here : row ∈ store.tickets)
    (on : AcceptedOn row.aggregate event reduction) :
    ∃ next, Store.releases row.ticket store reduction.effects = .ok next ∧
      Freed reduction.effects store row next := by
  have kept : RowKept row := balanced.rows row here
  have once := kept.once on
  have lane := (laneStep (laneHeld_of_run kept.run) on).1
  refine freed_of_releases here kept.named (concerning_of_reduceFact on.reduced) ?_ ?_
  · by_cases silent : releaseCount reduction.effects = 0
    · exact .inl silent
    · have released : releaseCount reduction.effects = 1 := by omega
      exact .inr ⟨released, balanced.ready here (balanced.stands here on released)⟩
  · split_ifs at lane with frees
    · exact .inr ⟨lane, (balanced.lane _).mpr ⟨row, here, rfl, frees.1⟩⟩
    · exact .inl lane

/-- An exposure row after the releases is one that was there, or the row of the Ticket's account
without the Ticket. Neither has a negative total. -/
theorem released_nonneg (balanced : Balanced store) (here : row ∈ store.tickets)
    (on : AcceptedOn row.aggregate event reduction) (left : Freed reduction.effects store row next) :
    ∀ exposure ∈ next.exposures, exposure.Nonneg := by
  intro exposure member
  rcases left.exposures with ⟨-, same⟩ | ⟨old, released, owned, lowered⟩
  · exact (balanced.covers exposure (same ▸ member)).nonneg
  · rcases lowered.of_mem_updated member with rfl | ⟨there, -⟩
    · obtain ⟨others, covers⟩ :=
        balanced.covers_rest here (balanced.stands here on released) lowered.here owned
      exact covers.released.nonneg
    · exact (balanced.covers exposure there).nonneg

end Balanced

/-- One row of a Ticket gave way to another as the next event was committed. -/
structure CommitStep (store : Store) (row : TicketRow) (event : TicketEvent)
    (reduction : Reduction) (new : TicketRow) (next : Store) : Prop where
  on : AcceptedOn row.aggregate event reduction
  replaced : Table.Replaced store.tickets row new next.tickets
  ticketId : new.ticketId = row.ticketId
  aggregate : new.aggregate = reduction.aggregate
  events : new.events = row.events ++ [accepted event reduction]
  budget : new.budgetActive = true ↔
    row.budgetActive = true ∧ releaseCount reduction.effects = 0
  domain : new.budgetActive = true → reduction.aggregate.status ∉ markedTerminalStatuses →
    new.activeNettingDomainKey = row.activeNettingDomainKey
  exposures : releaseCount reduction.effects = 0 ∧ next.exposures = store.exposures ∨
    ∃ exposure, releaseCount reduction.effects = 1 ∧ exposure.account = row.ticket.account ∧
      Table.Replaced store.exposures exposure (exposure.released row.ticket.reservation)
        next.exposures
  lane : next.lane =
    if laneReleases reduction.effects = 0 then store.lane else ⟨none, store.lane.version + 1⟩

/-- A committed event replaces the row of its Ticket. -/
theorem Balanced.commitStep {store next : Store} {commands : CommandTable} {event : TicketEvent}
    (balanced : Balanced store) (returned : store.commitReduction commands event = .ok next) :
    ∃ row reduction new, CommitStep store row event reduction new next := by
  simp only [Store.commitReduction, bind_eq_ok, pure_eq_ok] at returned
  obtain ⟨row, found, reduction, reduced, kernel, committed, released, freed, tickets, updated,
    rfl⟩ := returned
  obtain ⟨here, named⟩ := Table.lookup_eq_some (demand_eq_ok.mp found)
  have on : AcceptedOn row.aggregate event reduction := .of_reduceEvent (mapError_eq_ok.mp reduced)
  have ticket : reduction.aggregate.ticket = row.ticket := on.move.ticket.1
  obtain ⟨after, releases, left⟩ := balanced.freed here on
  rw [ticket, releases] at freed
  obtain rfl := Except.ok.inj freed
  obtain ⟨freed, rowFreed, replaced⟩ := left.tickets
  obtain ⟨old, same, again⟩ := Table.replaced_of_update updated
  obtain rfl : old = freed :=
    Table.eq_of_key again.here replaced.there (by rw [same, rowFreed.ticketId, named])
  have aggregate : kernel.aggregate = reduction.aggregate :=
    (Materialised.of_commitReduction committed).aggregate
  refine ⟨row, reduction, _, on, replaced.trans again, rowFreed.ticketId, aggregate, ?_,
    rowFreed.budget, fun active unmarked => ?_, left.exposures, left.lane⟩
  · show old.events ++ _ = _
    rw [rowFreed.events]
  · show (if kernel.aggregate.status ∈ markedTerminalStatuses then none else _) = _
    rw [aggregate, if_neg unmarked, rowFreed.domain active]

namespace CommitStep

variable {store next : Store} {row new : TicketRow} {event : TicketEvent} {reduction : Reduction}

theorem ticket (step : CommitStep store row event reduction new next) :
    new.ticket = row.ticket := by
  rw [TicketRow.ticket, step.aggregate]
  exact step.on.move.ticket.1

/-- The Ticket stays open unless its capital is released. -/
theorem stands (step : CommitStep store row event reduction new next) :
    new.Open ↔ row.Open ∧ releaseCount reduction.effects = 0 := by
  rw [TicketRow.Open, step.events, releases_append, releases_accepted, Nat.add_eq_zero_iff]
  rfl

theorem rowKept (step : CommitStep store row event reduction new next) (kept : RowKept row) :
    RowKept new := by
  have run : LifecycleRun new.events new.aggregate := by
    rw [step.events, step.aggregate]
    exact kept.run.snoc step.on.accepts
  refine ⟨run, ?_, ?_, fun active => ?_⟩
  · rw [step.ticketId, kept.named, step.aggregate, step.on.move.ticket.2]
  · rw [step.budget, step.stands, kept.budget]
  · -- a marked Ticket has no capital left
    have unreleased : new.aggregate.status ∉ releasedStatuses := by
      have count := (capitalHeld run).count
      intro closed
      rw [if_pos closed] at count
      have stands : new.Open := by
        rw [step.stands, ← kept.budget, ← step.budget]
        exact active
      exact absurd (stands.symm.trans count) (by decide)
    have unmarked : reduction.aggregate.status ∉ markedTerminalStatuses := fun marked =>
      unreleased (step.aggregate ▸ (by decide : ∀ status ∈ markedTerminalStatuses,
        status ∈ releasedStatuses) _ marked)
    rw [step.domain active unmarked, kept.domain (step.budget.mp active).1, step.ticket]

/-- The exposure rows cover the open Tickets again. -/
theorem covers (step : CommitStep store row event reduction new next) (balanced : Balanced store) :
    ∀ exposure ∈ next.exposures,
      exposure.Covers (openTickets exposure.account next.tickets.rows) := by
  intro exposure member
  have here : row ∈ store.tickets := step.replaced.here
  obtain ⟨rest, was, is⟩ := step.replaced
  have before : ∀ old ∈ store.exposures,
      old.Covers (openTickets old.account (row :: rest)) := fun old there =>
    (balanced.covers old there).perm (openTickets_perm was)
  refine AccountExposure.Covers.perm ?_ (openTickets_perm is).symm
  rcases step.exposures with ⟨silent, same⟩ | ⟨old, once, owned, lowered⟩
  · rw [openTickets_cons_congr step.ticket (by rw [step.stands, and_iff_left silent])]
    exact before exposure (same ▸ member)
  · have gone : ¬ new.Open := by
      rw [step.stands]
      omega
    rw [openTickets_cons_of_not fun both => gone both.2]
    rcases lowered.of_mem_updated member with rfl | ⟨there, apart⟩
    · have other := before old lowered.here
      rw [openTickets_cons_of_open owned.symm (balanced.stands here step.on once)] at other
      exact other.released
    · have other := before exposure there
      rwa [openTickets_cons_of_not fun both => apart (both.1.symm.trans owned.symm)] at other

/-- The account of every exposure row still has one. -/
theorem account_kept (step : CommitStep store row event reduction new next)
    {exposure : AccountExposure} (there : exposure ∈ store.exposures) :
    ∃ other ∈ next.exposures, other.account = exposure.account := by
  rcases step.exposures with ⟨-, same⟩ | ⟨old, -, -, lowered⟩
  · exact ⟨exposure, same ▸ there, rfl⟩
  · by_cases is : exposure = old
    · exact ⟨_, lowered.there, is ▸ rfl⟩
    · exact ⟨exposure, lowered.mem_updated there is, rfl⟩

theorem covered (step : CommitStep store row event reduction new next)
    (balanced : Balanced store) : ∀ other ∈ next.tickets, other.Open →
      ∃ exposure ∈ next.exposures, exposure.account = other.ticket.account := by
  intro other member stands
  have before : ∃ exposure ∈ store.exposures, exposure.account = other.ticket.account := by
    rcases step.replaced.of_mem_updated member with rfl | ⟨there, -⟩
    · rw [step.ticket]
      exact balanced.covered row step.replaced.here (step.stands.mp stands).1
    · exact balanced.covered other there stands
  obtain ⟨exposure, there, owned⟩ := before
  obtain ⟨still, stays, same⟩ := step.account_kept there
  exact ⟨still, stays, same.trans owned⟩

/-- The lane names the Ticket that holds it again. -/
theorem lane_named (step : CommitStep store row event reduction new next)
    (balanced : Balanced store) (ticketId : NonBlankText) :
    next.lane.ticketId = some ticketId ↔
      ∃ other ∈ next.tickets, other.ticketId = ticketId ∧ other.aggregate.entryLaneHeld = true := by
  have here : row ∈ store.tickets := step.replaced.here
  obtain ⟨emitted, once, -⟩ := laneStep (laneHeld_of_run (balanced.rows row here).run) step.on
  rw [step.lane]
  split_ifs at emitted with frees
  · -- the lane is idle, and the Ticket that held it was the only one
    rw [if_neg (by omega)]
    refine ⟨fun named => absurd named (by simp), ?_⟩
    rintro ⟨other, member, -, held⟩
    rcases step.replaced.of_mem_updated member with rfl | ⟨there, apart⟩
    · rw [step.aggregate] at held
      exact absurd held frees.2
    · have mine := (balanced.lane _).mpr ⟨row, here, rfl, frees.1⟩
      have theirs := (balanced.lane _).mpr ⟨other, there, rfl, held⟩
      exact absurd (Option.some.inj (theirs.symm.trans mine)) apart
  · rw [if_pos emitted, balanced.lane]
    have same : new.aggregate.entryLaneHeld = true ↔ row.aggregate.entryLaneHeld = true := by
      rw [step.aggregate]
      exact ⟨once, fun held => by_contra fun freed => frees ⟨held, freed⟩⟩
    constructor
    · rintro ⟨other, there, named, held⟩
      by_cases is : other = row
      · subst is
        exact ⟨new, step.replaced.there, step.ticketId.trans named, same.mpr held⟩
      · exact ⟨other, step.replaced.mem_updated there is, named, held⟩
    · rintro ⟨other, member, named, held⟩
      rcases step.replaced.of_mem_updated member with rfl | ⟨there, -⟩
      · exact ⟨row, here, step.ticketId.symm.trans named, same.mp held⟩
      · exact ⟨other, there, named, held⟩

/-- **A committed event keeps the ledger.** -/
theorem balanced (step : CommitStep store row event reduction new next)
    (before : Balanced store) : Balanced next where
  rows other member := by
    rcases step.replaced.of_mem_updated member with rfl | ⟨there, -⟩
    · exact step.rowKept (before.rows row step.replaced.here)
    · exact before.rows other there
  covers := step.covers before
  covered := step.covered before
  lane := step.lane_named before

end CommitStep

end TradingKernel
