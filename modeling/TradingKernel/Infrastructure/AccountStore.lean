/-
**The Tickets of all accounts, with the exposure rows and the entry lane they share.**

A `TicketRow` is the kernel of a Ticket with its events, its budget reservation and the netting
domain it occupies. An issue reserves the exposure of its account and claims the lane; a committed
reduction releases what its effects name (`Store.release`): the budget with the exposure, the netting
domain at closure, and the lane. `Store.commitReduction` is the transaction: the commands and
incidents of the Ticket as `Kernel.commitReduction` materialises them, and the releases.
-/

import TradingKernel.Infrastructure.CommitReduction
import TradingKernel.Lifecycle.CapitalRelease

namespace TradingKernel

open Text Guard

/-! ### Accounts -/

/-- The account of a venue. -/
structure AccountKey where
  venueId : NonBlankText
  accountId : NonBlankText
  deriving DecidableEq, Repr

def TradeTicket.account (ticket : TradeTicket) : AccountKey :=
  ⟨ticket.identity.nettingDomain.venueId, ticket.identity.nettingDomain.accountId⟩

/-- What the open Tickets of an account reserve together. -/
structure AccountExposure where
  account : AccountKey
  grossNotional : ℚ
  grossRiskAtStop : ℚ
  currentReservedMargin : ℚ
  activeTicketCount : ℤ
  projectionVersion : ℤ

/-- What one Ticket reserves. -/
structure Reservation where
  notional : ℚ
  riskAtStop : ℚ
  reservedMargin : ℚ

def TradeTicket.reservation (ticket : TradeTicket) : Reservation :=
  ⟨ticket.notional, ticket.riskAtStop, ticket.reservedMargin⟩

namespace AccountExposure

variable (exposure : AccountExposure) (amounts : Reservation)

/-- The first reservation of an account. -/
def first (account : AccountKey) (amounts : Reservation) : AccountExposure :=
  ⟨account, amounts.notional, amounts.riskAtStop, amounts.reservedMargin, 1, 1⟩

def reserved : AccountExposure :=
  { exposure with
    grossNotional := exposure.grossNotional + amounts.notional
    grossRiskAtStop := exposure.grossRiskAtStop + amounts.riskAtStop
    currentReservedMargin := exposure.currentReservedMargin + amounts.reservedMargin
    activeTicketCount := exposure.activeTicketCount + 1
    projectionVersion := exposure.projectionVersion + 1 }

def released : AccountExposure :=
  { exposure with
    grossNotional := exposure.grossNotional - amounts.notional
    grossRiskAtStop := exposure.grossRiskAtStop - amounts.riskAtStop
    currentReservedMargin := exposure.currentReservedMargin - amounts.reservedMargin
    activeTicketCount := exposure.activeTicketCount - 1
    projectionVersion := exposure.projectionVersion + 1 }

/-- A release of the amounts would drive a total below zero. -/
def Undercuts : Prop :=
  exposure.grossNotional < amounts.notional ∨ exposure.grossRiskAtStop < amounts.riskAtStop ∨
    exposure.currentReservedMargin < amounts.reservedMargin

instance : Decidable (exposure.Undercuts amounts) := inferInstanceAs (Decidable (_ ∨ _))

end AccountExposure

abbrev ExposureTable := Table AccountExposure.account

/-- A version conflict, raised. -/
def conflict (message : String) : Raised := .aggregateVersionConflict message

/-- A reservation, on the exposure row that was read before it. -/
def reserveAccountExposure (exposures : ExposureTable) (account : AccountKey)
    (amounts : Reservation) (expectedVersion : Option ℤ) : Except Raised ExposureTable :=
  match expectedVersion with
  | none => exposures.insert (AccountExposure.first account amounts) .integrityError
  | some version =>
      exposures.update
        (fun exposure => exposure.account = account ∧ exposure.projectionVersion = version)
        (fun exposure => exposure.reserved amounts) (fun _ => rfl)
        (conflict "account exposure changed during reserve")

def releaseAccountExposure (exposures : ExposureTable) (account : AccountKey)
    (amounts : Reservation) : Except Raised ExposureTable := do
  let current ← demand (exposures.lookup account)
    (conflict "account exposure is missing during release")
  refuse (current.activeTicketCount ≤ 0) (conflict "account exposure is missing during release")
  refuse (current.Undercuts amounts) (conflict "account exposure release would become negative")
  exposures.update
    (fun exposure => exposure.account = account ∧
      exposure.projectionVersion = current.projectionVersion)
    (fun exposure => exposure.released amounts) (fun _ => rfl)
    (conflict "account exposure changed during release")

/-! ### The entry lane -/

/-- The one entry lane: idle, or claimed by a Ticket. -/
structure EntryLane where
  ticketId : Option NonBlankText
  version : ℤ

def claimGlobalLane (lane : EntryLane) (ticketId : NonBlankText) (expectedVersion : ℤ) :
    Except Raised EntryLane := do
  refuse (¬ (lane.ticketId = none ∧ lane.version = expectedVersion))
    (conflict "global entry lane changed during claim")
  return ⟨some ticketId, expectedVersion + 1⟩

def releaseGlobalLane (lane : EntryLane) (ticketId : String) : Except Raised EntryLane := do
  refuse (lane.ticketId.map NonBlankText.text ≠ some ticketId)
    (conflict "global entry lane ownership mismatch")
  return ⟨none, lane.version + 1⟩

/-! ### Tickets -/

/-- A Ticket as it is stored: its kernel, its events with the effects of their reductions, whether
its budget reservation is active, and the netting domain it occupies. -/
structure TicketRow where
  ticketId : NonBlankText
  kernel : Kernel
  events : List AcceptedEvent
  budgetActive : Bool
  activeNettingDomainKey : Option String

/-- The statuses whose Ticket is marked as terminal. -/
def markedTerminalStatuses : List AggregateStatus :=
  [.leverageRejected, .entryRejected, .entryReconciledAbsent, .terminal]

namespace TicketRow

variable (row : TicketRow)

def aggregate : TradeAggregate := row.kernel.aggregate

def ticket : TradeTicket := row.aggregate.ticket

/-- A Ticket that has just been issued: its budget is reserved, and it occupies its domain. -/
def issued (header : EventHeader) (ticket : TradeTicket) (kernel : Kernel) : TicketRow where
  ticketId := ticket.identity.ticketId
  kernel := kernel
  events := issuedHistory header ticket
  budgetActive := true
  activeNettingDomainKey := some ticket.identity.nettingDomain.key

/-- The row after an event: the new kernel, one more event, and no netting domain once the Ticket is
marked as terminal. -/
def after (kernel : Kernel) (entry : AcceptedEvent) : TicketRow :=
  { row with
    kernel := kernel
    events := row.events ++ [entry]
    activeNettingDomainKey :=
      if kernel.aggregate.status ∈ markedTerminalStatuses then none
      else row.activeNettingDomainKey }

end TicketRow

abbrev TicketTable := Table TicketRow.ticketId

namespace TicketTable

variable (tickets : TicketTable)

/-- The active reservation of a Ticket is released. -/
def releaseBudget (ticketId : String) : Except Raised TicketTable :=
  tickets.update (fun row => row.ticketId.text = ticketId ∧ row.budgetActive = true)
    (fun row => { row with budgetActive := false }) (fun _ => rfl)
    (conflict "active budget reservation is missing")

def releaseActiveNettingDomain (ticketId nettingDomainKey : String) : Except Raised TicketTable :=
  tickets.update
    (fun row => row.ticketId.text = ticketId ∧ row.activeNettingDomainKey = some nettingDomainKey)
    (fun row => { row with activeNettingDomainKey := none }) (fun _ => rfl)
    (conflict "active Netting Domain is missing during release")

end TicketTable

/-- The Tickets, the exposures of their accounts, and the lane. -/
structure Store where
  tickets : TicketTable
  exposures : ExposureTable
  lane : EntryLane

namespace Store

variable (store : Store)

/-! ### Releases -/

/-- What an effect releases, for the Ticket of the committed aggregate. -/
def release (ticket : TradeTicket) (store : Store) : KernelEffect → Except Raised Store
  | .releaseBudget ticketId => do
      let tickets ← TicketTable.releaseBudget store.tickets ticketId
      let exposures ← releaseAccountExposure store.exposures ticket.account ticket.reservation
      return { store with tickets := tickets, exposures := exposures }
  | .releaseCapitalAuthorities ticketId _ nettingDomainKey notional riskAtStop _ _ => do
      let tickets ← TicketTable.releaseBudget store.tickets ticketId
      let exposures ← releaseAccountExposure store.exposures ticket.account
        ⟨notional, riskAtStop, ticket.reservedMargin⟩
      let tickets ← TicketTable.releaseActiveNettingDomain tickets ticketId nettingDomainKey
      return { store with tickets := tickets, exposures := exposures }
  | .releaseEntryLane ticketId => do
      let lane ← releaseGlobalLane store.lane ticketId
      return { store with lane := lane }
  | _ => return store

/-- What the effects release, one after the other. -/
def releases (ticket : TradeTicket) : Store → List KernelEffect → Except Raised Store
  | store, [] => return store
  | store, effect :: effects => do
      let store ← store.release ticket effect
      releases ticket store effects

/-! ### Commits -/

/-- One more event of a stored Ticket: its reduction, committed after its commands have changed. The
releases touch other rows than the commands and incidents do, so they may come after them. -/
def commitReduction (commands : CommandTable) (event : TicketEvent) : Except Raised Store := do
  let row ← demand (store.tickets.lookup event.ticketId) (conflict "aggregate does not exist")
  let reduction ← (reduceEvent (some row.aggregate) (.ticketEvent event)).mapError
    .invalidLifecycleTransition
  let kernel ← Kernel.commitReduction { row.kernel with commands := commands } event.occurredAtMs
    reduction
  let released ← releases reduction.aggregate.ticket store reduction.effects
  let tickets ← released.tickets.update (fun old => old.ticketId = event.ticketId)
    (fun old => old.after kernel (accepted event reduction)) (fun _ => rfl)
    (conflict "aggregate version changed")
  return { released with tickets := tickets }

end Store

end TradingKernel
