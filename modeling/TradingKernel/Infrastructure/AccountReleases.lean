/-
**What the effects of a reduction release.**

`Covers` says that an exposure row is the sum of the Tickets it stands for: a reservation covers one
Ticket more (`Covers.reserved`), and the release of one of them returns and covers the others
(`Covers.released`). `Freed` is what the releases of a reduction leave of a store, and
`freed_of_releases` proves that they return, where the capital and the lane of the Ticket can be
released at all.
-/

import Mathlib.Algebra.BigOperators.Group.List.Lemmas
import Mathlib.Algebra.Order.BigOperators.Group.List
import TradingKernel.Domain.Addressed
import TradingKernel.Domain.Lane
import TradingKernel.Infrastructure.AccountStore

namespace TradingKernel

open Text Guard

/-! ### Exposure rows as sums -/

/-- The exposure row is the sum of what the Tickets reserve. -/
structure AccountExposure.Covers (exposure : AccountExposure) (tickets : List TradeTicket) :
    Prop where
  notional : exposure.grossNotional = (tickets.map fun ticket => ticket.notional).sum
  riskAtStop : exposure.grossRiskAtStop = (tickets.map fun ticket => ticket.riskAtStop).sum
  margin : exposure.currentReservedMargin = (tickets.map fun ticket => ticket.reservedMargin).sum
  count : exposure.activeTicketCount = tickets.length

/-- No total of the row is negative. -/
structure AccountExposure.Nonneg (exposure : AccountExposure) : Prop where
  notional : 0 ≤ exposure.grossNotional
  riskAtStop : 0 ≤ exposure.grossRiskAtStop
  margin : 0 ≤ exposure.currentReservedMargin
  count : 0 ≤ exposure.activeTicketCount

namespace AccountExposure.Covers

variable {exposure : AccountExposure} {ticket : TradeTicket} {tickets others : List TradeTicket}

theorem perm (covers : exposure.Covers tickets) (same : tickets.Perm others) :
    exposure.Covers others where
  notional := covers.notional.trans (same.map _).sum_eq
  riskAtStop := covers.riskAtStop.trans (same.map _).sum_eq
  margin := covers.margin.trans (same.map _).sum_eq
  count := by rw [covers.count, same.length_eq]

theorem first (account : AccountKey) :
    (AccountExposure.first account ticket.reservation).Covers [ticket] := by
  constructor <;> simp [AccountExposure.first, TradeTicket.reservation]

theorem reserved (covers : exposure.Covers tickets) :
    (exposure.reserved ticket.reservation).Covers (ticket :: tickets) where
  notional := by
    rw [List.map_cons, List.sum_cons, ← covers.notional]
    exact add_comm _ _
  riskAtStop := by
    rw [List.map_cons, List.sum_cons, ← covers.riskAtStop]
    exact add_comm _ _
  margin := by
    rw [List.map_cons, List.sum_cons, ← covers.margin]
    exact add_comm _ _
  count := by
    rw [List.length_cons, Nat.cast_succ, ← covers.count]
    rfl

theorem released (covers : exposure.Covers (ticket :: tickets)) :
    (exposure.released ticket.reservation).Covers tickets where
  notional := by
    show exposure.grossNotional - ticket.notional = _
    rw [covers.notional, List.map_cons, List.sum_cons, add_sub_cancel_left]
  riskAtStop := by
    show exposure.grossRiskAtStop - ticket.riskAtStop = _
    rw [covers.riskAtStop, List.map_cons, List.sum_cons, add_sub_cancel_left]
  margin := by
    show exposure.currentReservedMargin - ticket.reservedMargin = _
    rw [covers.margin, List.map_cons, List.sum_cons, add_sub_cancel_left]
  count := by
    show exposure.activeTicketCount - 1 = _
    rw [covers.count, List.length_cons, Nat.cast_succ, add_sub_cancel_right]

/-- What a Ticket reserves is not negative, so a sum of it is not. -/
theorem nonneg (covers : exposure.Covers tickets) : exposure.Nonneg where
  notional := by
    rw [covers.notional]
    exact List.sum_nonneg (by simpa using fun ticket _ => ticket.notional_pos.le)
  riskAtStop := by
    rw [covers.riskAtStop]
    exact List.sum_nonneg (by simpa using fun ticket _ => ticket.riskAtStop_nonneg)
  margin := by
    rw [covers.margin]
    exact List.sum_nonneg (by simpa using fun ticket _ => ticket.reservedMargin_pos.le)
  count := by
    rw [covers.count]
    exact Int.natCast_nonneg _

/-- The row of a Ticket can release it: it counts the Ticket, and no total falls below zero. -/
theorem releasable (covers : exposure.Covers (ticket :: tickets)) :
    0 < exposure.activeTicketCount ∧ ¬ exposure.Undercuts ticket.reservation := by
  have rest : (exposure.released ticket.reservation).Nonneg := covers.released.nonneg
  constructor
  · rw [covers.count, List.length_cons]
    exact Int.natCast_pos.mpr (Nat.succ_pos _)
  · rintro (less | less | less)
    · exact absurd rest.notional (not_le.mpr (sub_neg.mpr less))
    · exact absurd rest.riskAtStop (not_le.mpr (sub_neg.mpr less))
    · exact absurd rest.margin (not_le.mpr (sub_neg.mpr less))

end AccountExposure.Covers

/-! ### Releases -/

/-- The capital of a Ticket can be released: its budget and its netting domain are its own, and the
row of its account bears the release. -/
structure CapitalReady (store : Store) (row : TicketRow) : Prop where
  budget : row.budgetActive = true
  domain : row.activeNettingDomainKey = some row.ticket.identity.nettingDomain.key
  exposure : ∃ exposure ∈ store.exposures, exposure.account = row.ticket.account ∧
    0 < exposure.activeTicketCount ∧ ¬ exposure.Undercuts row.ticket.reservation

/-- What the releases leave of the row of their Ticket. -/
structure RowFreed (effects : List KernelEffect) (row freed : TicketRow) : Prop where
  ticketId : freed.ticketId = row.ticketId
  kernel : freed.kernel = row.kernel
  events : freed.events = row.events
  budget : freed.budgetActive = true ↔ row.budgetActive = true ∧ releaseCount effects = 0
  domain : freed.budgetActive = true → freed.activeNettingDomainKey = row.activeNettingDomainKey

namespace RowFreed

variable {effect : KernelEffect} {effects : List KernelEffect} {row freed last : TicketRow}

theorem ticket (rowFreed : RowFreed effects row freed) : freed.ticket = row.ticket := by
  rw [TicketRow.ticket, TicketRow.aggregate, rowFreed.kernel]
  rfl

/-- One effect and then others. -/
theorem cons (first : RowFreed [effect] row freed) (rest : RowFreed effects freed last) :
    RowFreed (effect :: effects) row last where
  ticketId := rest.ticketId.trans first.ticketId
  kernel := rest.kernel.trans first.kernel
  events := rest.events.trans first.events
  budget := by
    rw [rest.budget, first.budget, and_assoc]
    refine and_congr_right fun _ => ?_
    simp only [releaseCount_cons, releaseCount_nil]
    omega
  domain active := by
    have still : freed.budgetActive = true := (rest.budget.mp active).1
    rw [rest.domain active, first.domain still]

end RowFreed

/-- What the releases leave of a store. -/
structure Freed (effects : List KernelEffect) (store : Store) (row : TicketRow) (next : Store) :
    Prop where
  tickets : ∃ freed, RowFreed effects row freed ∧
    Table.Replaced store.tickets row freed next.tickets
  exposures : releaseCount effects = 0 ∧ next.exposures = store.exposures ∨
    ∃ exposure, releaseCount effects = 1 ∧ exposure.account = row.ticket.account ∧
      Table.Replaced store.exposures exposure (exposure.released row.ticket.reservation)
        next.exposures
  lane : next.lane =
    if laneReleases effects = 0 then store.lane else ⟨none, store.lane.version + 1⟩

section Releases

variable {store next middle : Store} {row : TicketRow} {effect : KernelEffect}
  {effects : List KernelEffect}

/-- The budget of a Ticket, released with the exposure of its account. -/
theorem budget_released (here : row ∈ store.tickets) (ready : CapitalReady store row) :
    ∃ tickets exposures exposure,
      TicketTable.releaseBudget store.tickets row.ticketId = .ok tickets ∧
      Table.Replaced store.tickets row { row with budgetActive := false } tickets ∧
      releaseAccountExposure store.exposures row.ticket.account row.ticket.reservation =
        .ok exposures ∧
      exposure.account = row.ticket.account ∧
      Table.Replaced store.exposures exposure (exposure.released row.ticket.reservation)
        exposures := by
  have budgeted : ∃ tickets, TicketTable.releaseBudget store.tickets row.ticketId = .ok tickets ∧
      Table.Replaced store.tickets row { row with budgetActive := false } tickets :=
    Table.update_replaces here ⟨rfl, ready.budget⟩ fun other hits => NonBlankText.ext hits.1
  obtain ⟨tickets, budgeted, replaced⟩ := budgeted
  obtain ⟨exposure, there, same, counted, bears⟩ := ready.exposure
  have updated : ∃ exposures, store.exposures.update
      (fun other => other.account = row.ticket.account ∧
        other.projectionVersion = exposure.projectionVersion)
      (fun exposure => exposure.released row.ticket.reservation) (fun _ => rfl)
      (conflict "account exposure changed during release") = .ok exposures ∧
      Table.Replaced store.exposures exposure (exposure.released row.ticket.reservation)
        exposures :=
    Table.update_replaces there ⟨same, rfl⟩ fun other hits => hits.1.trans same.symm
  obtain ⟨exposures, updated, lowered⟩ := updated
  refine ⟨tickets, exposures, exposure, budgeted, replaced, ?_, same, lowered⟩
  rw [releaseAccountExposure, ← same, Table.lookup_of_mem there, demand_bind_eq_ok]
  refine ⟨exposure, rfl, refuse_bind_eq_ok.mpr ⟨not_le.mpr counted, ?_⟩⟩
  rw [refuse_bind_eq_ok]
  refine ⟨bears, ?_⟩
  rw [same]
  exact updated

/-- Effects that release nothing leave the store as it is. -/
theorem Freed.idle (here : row ∈ store.tickets) (silent : releaseCount effects = 0)
    (kept : laneReleases effects = 0) : Freed effects store row store where
  tickets := ⟨row, ⟨rfl, rfl, rfl, by simp [silent], fun _ => rfl⟩, .of_mem here⟩
  exposures := .inl ⟨silent, rfl⟩
  lane := by rw [if_pos kept]

/-- The store with the capital of a Ticket released. -/
theorem Freed.capital {tickets : TicketTable} {exposures : ExposureTable} {freed : TicketRow}
    {exposure : AccountExposure} (once : effect.isRelease = true)
    (kept : effect.isLaneRelease = false)
    (replaced : Table.Replaced store.tickets row freed tickets)
    (same : freed.ticketId = row.ticketId ∧ freed.kernel = row.kernel ∧ freed.events = row.events)
    (spent : freed.budgetActive = false) (owned : exposure.account = row.ticket.account)
    (lowered : Table.Replaced store.exposures exposure (exposure.released row.ticket.reservation)
      exposures) :
    Freed [effect] store row { store with tickets := tickets, exposures := exposures } where
  tickets := ⟨freed, ⟨same.1, same.2.1, same.2.2, by simp [spent, once], by simp [spent]⟩,
    replaced⟩
  exposures := .inr ⟨exposure, by simp [once], owned, lowered⟩
  lane := by simp [kept]

/-- **One effect.** Its release returns, where what it releases can be released. -/
theorem freed_of_release (here : row ∈ store.tickets)
    (named : row.ticketId = row.aggregate.identity.ticketId)
    (concerns : effect.Concerns row.aggregate)
    (capital : effect.isRelease = true → CapitalReady store row)
    (lane : effect.isLaneRelease = true → store.lane.ticketId = some row.ticketId) :
    ∃ next, Store.release row.ticket store effect = .ok next ∧ Freed [effect] store row next := by
  have own : row.aggregate.ticketId = row.ticketId.text := congrArg NonBlankText.text named.symm
  cases effect with
  | releaseBudget ticketId =>
    obtain rfl : ticketId = row.ticketId.text := Eq.trans concerns own
    obtain ⟨tickets, exposures, exposure, budgeted, replaced, released, same, lowered⟩ :=
      budget_released here (capital rfl)
    refine ⟨{ store with tickets := tickets, exposures := exposures }, ?_,
      Freed.capital rfl rfl replaced ⟨rfl, rfl, rfl⟩ rfl same lowered⟩
    simp only [Store.release, bind_eq_ok, pure_eq_ok]
    exact ⟨tickets, budgeted, exposures, released, rfl⟩
  | releaseCapitalAuthorities ticketId accountKey domainKey notional riskAtStop margin atMs =>
    obtain ⟨rfl, rfl, rfl, rfl, rfl⟩ := concerns
    obtain ⟨tickets, exposures, exposure, budgeted, replaced, released, same, lowered⟩ :=
      budget_released here (capital rfl)
    have vacated : ∃ after, TicketTable.releaseActiveNettingDomain tickets row.ticketId
        row.ticket.identity.nettingDomain.key = .ok after ∧
        Table.Replaced tickets { row with budgetActive := false }
          { row with budgetActive := false, activeNettingDomainKey := none } after :=
      Table.update_replaces replaced.there ⟨rfl, (capital rfl).domain⟩
        fun other hits => NonBlankText.ext hits.1
    obtain ⟨after, vacated, again⟩ := vacated
    refine ⟨{ store with tickets := after, exposures := exposures }, ?_,
      Freed.capital rfl rfl (replaced.trans again) ⟨rfl, rfl, rfl⟩ rfl same lowered⟩
    simp only [Store.release, bind_eq_ok, pure_eq_ok, own]
    exact ⟨tickets, budgeted, exposures, released, after, vacated, rfl⟩
  | releaseEntryLane ticketId =>
    obtain rfl : ticketId = row.ticketId.text := Eq.trans concerns own
    refine ⟨{ store with lane := ⟨none, store.lane.version + 1⟩ }, ?_,
      ⟨row, ⟨rfl, rfl, rfl, by simp [KernelEffect.isRelease], fun _ => rfl⟩, .of_mem here⟩,
      .inl ⟨rfl, rfl⟩, rfl⟩
    simp only [Store.release, releaseGlobalLane, bind_eq_ok, pure_eq_ok, refuse_eq_ok]
    exact ⟨_, ⟨⟨⟩, by simp [lane rfl], rfl⟩, rfl⟩
  | _ => exact ⟨store, rfl, Freed.idle here rfl rfl⟩

/-- The store after one effect is as ready for a later release as it was. -/
theorem Freed.ready {freed : TicketRow} (first : Freed [effect] store row middle)
    (rowFreed : RowFreed [effect] row freed) (silent : effect.isRelease = false)
    (ready : CapitalReady store row) : CapitalReady middle freed := by
  have active : freed.budgetActive = true :=
    rowFreed.budget.mpr ⟨ready.budget, by simp [silent]⟩
  refine ⟨active, ?_, ?_⟩
  · rw [rowFreed.domain active, ready.domain, rowFreed.ticket]
  · rw [rowFreed.ticket]
    rcases first.exposures with ⟨-, same⟩ | ⟨-, once, -⟩
    · rw [same]
      exact ready.exposure
    · simp [silent] at once

/-- One effect and then others. -/
theorem Freed.cons {freed : TicketRow} (first : Freed [effect] store row middle)
    (rowFreed : RowFreed [effect] row freed)
    (replaced : Table.Replaced store.tickets row freed middle.tickets)
    (rest : Freed effects middle freed next) (once : releaseCount (effect :: effects) ≤ 1)
    (free : laneReleases (effect :: effects) ≤ 1) : Freed (effect :: effects) store row next := by
  refine ⟨?_, ?_, ?_⟩
  · obtain ⟨last, lastFreed, again⟩ := rest.tickets
    exact ⟨last, rowFreed.cons lastFreed, replaced.trans again⟩
  · have count : releaseCount (effect :: effects) =
        releaseCount effects + releaseCount [effect] := by simp
    rcases first.exposures with ⟨silent, same⟩ | ⟨exposure, released, owned, lowered⟩
    · rw [silent, Nat.add_zero] at count
      rw [count, ← same, ← rowFreed.ticket]
      exact rest.exposures
    · rcases rest.exposures with ⟨quiet, still⟩ | ⟨_, again, -, -⟩
      · exact .inr ⟨exposure, by omega, owned, still ▸ lowered⟩
      · omega
  · have count : laneReleases (effect :: effects) =
        laneReleases effects + laneReleases [effect] := by simp
    rw [rest.lane, first.lane, count]
    split_ifs
    all_goals first | rfl | omega

/-- What happens once happens first, or in the rest. -/
theorem first_or_rest {rest : ℕ} {now : Bool} (once : (rest + if now then 1 else 0) = 1) :
    rest = 0 ∨ rest = 1 ∧ now = false := by
  cases now with
  | true => exact .inl (Nat.succ.inj once)
  | false => exact .inr ⟨once, rfl⟩

/-- **The releases of a reduction return**, where its effects are about the Ticket, the capital is
released at most once and can be, and so can the lane. -/
theorem freed_of_releases (here : row ∈ store.tickets)
    (named : row.ticketId = row.aggregate.identity.ticketId)
    (concerns : Concerning row.aggregate effects)
    (capital : releaseCount effects = 0 ∨ releaseCount effects = 1 ∧ CapitalReady store row)
    (lane : laneReleases effects = 0 ∨
      laneReleases effects = 1 ∧ store.lane.ticketId = some row.ticketId) :
    ∃ next, Store.releases row.ticket store effects = .ok next ∧ Freed effects store row next := by
  induction effects generalizing store row with
  | nil => exact ⟨store, rfl, Freed.idle here rfl rfl⟩
  | cons effect effects ih =>
    obtain ⟨about, later⟩ := concerning_cons.mp concerns
    have count : releaseCount (effect :: effects) =
      releaseCount effects + if effect.isRelease then 1 else 0 := releaseCount_cons _ _
    have free : laneReleases (effect :: effects) =
      laneReleases effects + if effect.isLaneRelease then 1 else 0 := laneReleases_cons _ _
    obtain ⟨middle, released, first⟩ := freed_of_release here named about
      (fun once => (capital.resolve_left (by rw [count, if_pos once]; omega)).2)
      (fun once => (lane.resolve_left (by rw [free, if_pos once]; omega)).2)
    obtain ⟨freed, rowFreed, replaced⟩ := first.tickets
    have same : freed.aggregate = row.aggregate := congrArg Kernel.aggregate rowFreed.kernel
    have capitalRest : releaseCount effects = 0 ∨
        releaseCount effects = 1 ∧ CapitalReady middle freed := by
      rcases capital with none | ⟨once, ready⟩
      · left
        omega
      · refine (first_or_rest (count.symm.trans once)).imp id fun left => ?_
        exact ⟨left.1, first.ready rowFreed left.2 ready⟩
    have laneRest : laneReleases effects = 0 ∨
        laneReleases effects = 1 ∧ middle.lane.ticketId = some freed.ticketId := by
      rcases lane with none | ⟨once, held⟩
      · left
        omega
      · refine (first_or_rest (free.symm.trans once)).imp id fun left => ⟨left.1, ?_⟩
        rw [first.lane, rowFreed.ticketId]
        simpa [left.2] using held
    obtain ⟨next, rests, rest⟩ := ih replaced.there (by rw [rowFreed.ticketId, named, same])
      (same ▸ later) capitalRest laneRest
    refine ⟨next, bind_eq_ok.mpr ⟨middle, released, rowFreed.ticket ▸ rests⟩,
      first.cons rowFreed replaced rest ?_ ?_⟩
    · rcases capital with none | ⟨once, -⟩ <;> omega
    · rcases lane with none | ⟨once, -⟩ <;> omega

end Releases

end TradingKernel
