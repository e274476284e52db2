/-
**Controlled exits: which Tickets can be left, and the request that leaves one.**

`classifyControlledExitStatus` says of a status whether the Ticket can be asked to exit, is already on
its way out, has ended, or blocks the exit of the account. `Store.requestExit` records the exit of
one Ticket.
-/

import TradingKernel.Application.NextEvent
import TradingKernel.Infrastructure.AccountStore

namespace TradingKernel

open Text Guard

/-! ### Classification -/

inductive ControlledExitClassification where
  | eligible
  | inProgress
  | terminal
  | blocked
  deriving DecidableEq, Repr

def ControlledExitClassification.value : ControlledExitClassification → String
  | eligible => "eligible"
  | inProgress => "in_progress"
  | terminal => "terminal"
  | blocked => "blocked"

def eligibleStatuses : List AggregateStatus := [.positionProtected, .runnerProtected]

def inProgressStatuses : List AggregateStatus :=
  [.exitPending, .exitAccepted, .exitOutcomeUnknown, .reconciliationPending, .settlementPending,
    .reviewPending]

def terminalStatuses : List AggregateStatus :=
  [.terminal, .leverageRejected, .entryRejected, .entryReconciledAbsent]

def classifyControlledExitStatus (status : AggregateStatus) : ControlledExitClassification :=
  if status ∈ eligibleStatuses then .eligible
  else if status ∈ inProgressStatuses then .inProgress
  else if status ∈ terminalStatuses then .terminal
  else .blocked

namespace Store

variable (store : Store)

/-- `_classification_for_ticket`: a Ticket without an aggregate has ended. -/
def classificationForTicket (ticketId : NonBlankText) : ControlledExitClassification :=
  match store.tickets.lookup ticketId with
  | none => .terminal
  | some row => classifyControlledExitStatus row.aggregate.status

/-! ### The request -/

/-- `request_exit`. -/
def requestExit (ticketId reason : NonBlankText) (requestedAtMs : ℤ) : Except Raised Store := do
  let row ← demand (store.tickets.lookup ticketId) (.valueError "Ticket aggregate does not exist")
  let event ← nextEvent row.aggregate ⟨.exitRequested reason.text, rfl⟩ requestedAtMs
  store.commitReduction row.kernel.commands event

/-- The exits of several Tickets, one after the other, in one transaction. -/
def requestExits (reason : NonBlankText) (requestedAtMs : ℤ) :
    Store → List NonBlankText → Except Raised Store
  | store, [] => return store
  | store, ticketId :: ticketIds => do
      let store ← store.requestExit ticketId reason requestedAtMs
      requestExits reason requestedAtMs store ticketIds

/-- `list_active_ticket_ids`: the Tickets of an account that are not marked as terminal. -/
def listActiveTicketIds (venueId accountId : NonBlankText) (limit : ℤ) :
    Except Raised (List NonBlankText) := do
  refuse (limit ≤ 0 ∨ 3 < limit)
    (.valueError "active Ticket selection limit must be 1 through 3")
  let active := store.tickets.rows.filter fun row =>
    row.ticket.identity.nettingDomain.venueId = venueId ∧
      row.ticket.identity.nettingDomain.accountId = accountId ∧
      row.aggregate.status ∉ markedTerminalStatuses
  let ticketIds := (active.map TicketRow.ticketId).insertionSort fun x y => x.text ≤ y.text
  refuse (limit < ticketIds.length) (.runtimeError "active Ticket set exceeds Controlled Exit bound")
  return ticketIds

/-- The active Tickets are those of the account that are not marked as terminal, each once. -/
theorem of_listActiveTicketIds {venueId accountId : NonBlankText} {limit : ℤ}
    {ticketIds : List NonBlankText}
    (returned : store.listActiveTicketIds venueId accountId limit = .ok ticketIds) :
    ticketIds.Nodup ∧ ∀ ticketId, ticketId ∈ ticketIds ↔
      ∃ row ∈ store.tickets, row.ticketId = ticketId ∧ row.ticket.account = ⟨venueId, accountId⟩ ∧
        row.aggregate.status ∉ markedTerminalStatuses := by
  simp only [listActiveTicketIds, refuse_bind_eq_ok, pure_eq_ok] at returned
  obtain ⟨-, -, rfl⟩ := returned
  refine ⟨?_, fun ticketId => ?_⟩
  · rw [(List.perm_insertionSort _ _).nodup_iff]
    exact store.tickets.distinct.sublist (List.filter_sublist.map _)
  · rw [List.mem_insertionSort, List.mem_map]
    refine exists_congr fun row => ?_
    rw [List.mem_filter, decide_eq_true_eq, Table.mem_rows, TradeTicket.account,
      AccountKey.mk.injEq]
    constructor
    · rintro ⟨⟨here, venue, account, active⟩, named⟩
      exact ⟨here, named, ⟨venue, account⟩, active⟩
    · rintro ⟨here, named, ⟨venue, account⟩, active⟩
      exact ⟨⟨here, venue, account, active⟩, named⟩

end Store

end TradingKernel
