/-
**The account exposure ledger equals the open Tickets.**

A `Transaction` issues a Ticket or commits the next event of one, and a `StoreRun` is any sequence
of transactions that did not raise, from a store without Tickets. `LedgerLaw` is what holds of every
store that such a run reaches.
-/

import TradingKernel.System.AccountIssue

namespace TradingKernel

open Text Guard

/-! ### Transactions -/

inductive Transaction where
  | issue (view : IssueView) (claim : TicketClaim) (nowMs : ℤ)
  | commit (commands : CommandTable) (event : TicketEvent)

/-- What a transaction leaves. An issue that is blocked leaves the store as it is; the commands of a
Ticket change in other transactions before one of its events is committed. -/
def Store.transact (store : Store) : Transaction → Except Raised Store
  | .issue view claim nowMs =>
      if timed : 0 < nowMs then do
        let outcome ← store.issueTicket view claim nowMs timed
        return outcome.2
      else .error (.valueError "issue time must be positive")
  | .commit commands event => store.commitReduction commands event

/-! ### The law -/

/-- The runs of transactions from a store without Tickets. -/
structure StoreRun (start : Store) (transactions : List Transaction) (store : Store) : Prop where
  seeded : start.Seeded
  steps : Run (fun store transaction next => store.transact transaction = .ok next) start
    transactions store

/-- The ledger of a store: the row of an account is the sum of its open Tickets, and without a row
it has none; an issue leaves no more Tickets open than its policy allows; the lane names the Ticket
that holds it; and the releases of every event that the reducer accepts return, and leave no total
below zero. -/
structure LedgerLaw (store : Store) : Prop where
  covers : ∀ exposure ∈ store.exposures,
    exposure.Covers (openTickets exposure.account store.tickets.rows)
  covered : ∀ account, (∀ exposure ∈ store.exposures, exposure.account ≠ account) →
    openTickets account store.tickets.rows = []
  bounded : ∀ view claim nowMs timed next,
    store.issueTicket view claim nowMs timed = .ok (.issued, next) →
    ∃ policy ticket exposure, view.policy = some policy ∧ claim.toTicket = .ok ticket ∧
      exposure ∈ next.exposures ∧ exposure.account = ticket.account ∧
      exposure.activeTicketCount ≤ policy.maxConcurrentTickets
  lane : ∀ ticketId, store.lane.ticketId = some ticketId ↔
    ∃ row ∈ store.tickets, row.ticketId = ticketId ∧ row.aggregate.entryLaneHeld = true
  released : ∀ row ∈ store.tickets, ∀ event reduction,
    AcceptedOn row.aggregate event reduction →
    ∃ next, Store.releases reduction.aggregate.ticket store reduction.effects = .ok next ∧
      ∀ exposure ∈ next.exposures, exposure.Nonneg

/-! ### A concrete claim -/

/-- The claim of the sample Ticket, with the lineage of its exit binding. -/
def sampleTicketClaim : TicketClaim where
  toCapacityClaim := sampleClaim
  universeVersionId := sampleTicket.universeVersionId
  universeSemanticDigest := sampleDigest
  factDigest := sampleDigest
  exitPolicyId := sampleTicket.exitPolicyId
  exitPolicySemanticHash := sampleDigest
  exitBindingId := some (named "binding")
  exitBindingSemanticHash := some sampleDigest
  exitBindingAuthorityVersion := some 1
  totalWalletBalanceAtClaim := 1000
  totalMarginBalanceAtClaim := 1000
  marginModeAtClaim := .cross
  exposureFamily := .openingRange
  activeFamilyTicketCountAtClaim := 0
  familyTicketLimit := 1
  maxSameStrategySide := none
  directionalRiskAtStopAtClaim := 0
  maxTicketStopRiskFraction := 1
  maxGrossStopRiskFraction := 1
  directionalStopRiskLimitFraction := 1
  maxTicketInitialMarginFraction := 1
  maxGrossInitialMarginUtilization := 1
  minMaterializationRatio := 1
  minimumStopRiskBudget := 1
  plannedStopRiskBudget := 40
  postFillStopRiskLimit := 60
  postStopStressMultiple := 1
  claimStressProofDigest := sampleDigest
  reservedMargin := 80
  createdAtMs := 500
  expiresAtMs := 60000
  entryReferencePrice := 100
  quantity := 4
  notional := 400
  riskAtStop := 40
  entryOrderType := .market
  entryLimitPrice := none
  initialStopPrice := 90
  preTp1ReclaimPrice := none
  exposureSessionEndMs := none
  takeProfitPrices := [120]
  takeProfitQuantities := [2]
  selectionAuthorityId := none

/-- A policy, a scope and a binding that admit the sample claim. -/
def sampleView : IssueView where
  policy := some {
    policyVersion := 1
    enabled := true
    newEntrySubmitEnabled := true
    scope := some [(sampleTicket.identity.runtime.eventSpecId, sampleTicket.identity.runtime.runtimeProfileId)]
    maxConcurrentTickets := 2
    maxSameStrategySide := none
    familyTicketLimit _ := 1
    maxTicketStopRiskFraction := 1
    maxGrossStopRiskFraction := 1
    maxTicketInitialMarginFraction := 1
    maxGrossInitialMarginUtilization := 1
    directionalStopRiskLimitFraction := 1
    minMaterializationRatio := 1
    maxLeverage := 10
    supportedMarginMode := .cross }
  strategyEntryEnabled := true
  selection := none
  currentUniverse := some (sampleTicket.universeVersionId, sampleDigest)
  scope := some {
    active := true
    entryEnabled := true
    runtimeScopeId := sampleTicket.runtimeScopeId
    scopeVersion := 1
    strategyGroupId := sampleTicket.identity.runtime.strategyGroupId
    strategyVersionId := sampleTicket.identity.runtime.strategyVersionId
    eventSpecId := sampleTicket.identity.runtime.eventSpecId
    runtimeProfileId := sampleTicket.identity.runtime.runtimeProfileId
    ownerPolicyId := sampleTicket.ownerPolicyId
    universeVersionId := sampleTicket.universeVersionId
    universeSemanticDigest := sampleDigest
    exchangeInstrumentId := sampleTicket.identity.nettingDomain.exchangeInstrumentId
    positionSide := .long }
  strategyAuthorityMatches := true
  exitBinding := some ⟨named "binding", sampleDigest, 1⟩
  incidentOpen := false
  activeFamilyTicketCount := 0
  activeStrategySideTicketCount := 0
  directionalRiskAtStop := 0

/-- No Tickets, no accounts, and an idle lane. -/
def emptyStore : Store := ⟨Table.empty, Table.empty, ⟨none, 1⟩⟩

/-- The Ticket of the sample claim. -/
def sampleClaimTicket : TradeTicket where
  toTicketTerms := sampleTicketClaim.ticketTerms
  fieldsValid := by decide +kernel
  shapeValid := by decide +kernel

theorem sampleIssue_timed : (0 : ℤ) < 1000 := by decide

theorem toTicket_sampleTicketClaim : sampleTicketClaim.toTicket = .ok sampleClaimTicket := by
  unfold TicketClaim.toTicket
  rw [refuse_bind_eq_ok, refuse_bind_eq_ok]
  refine ⟨by decide, by decide, ?_⟩
  rw [dif_pos ⟨sampleClaimTicket.fieldsValid, sampleClaimTicket.shapeValid⟩]
  rfl

theorem sampleClaimTicket_entersAtMarket : EntersAtMarket sampleTicketClaim.toCapacityClaim
    (issueEvent sampleClaimTicket 1000 sampleIssue_timed) sampleClaimTicket where
  market := rfl
  unpriced := rfl
  levered := ⟨rfl, by decide⟩
  claimed := by
    have same : ¬ differsFromTicket sampleTicketClaim.toCapacityClaim sampleClaimTicket := by
      decide
    exact bind_eq_ok.mpr ⟨_, rfl, refuse_bind_eq_ok.mpr ⟨same, rfl⟩⟩
  first := rfl
  early := by decide

/-- The store with the Ticket of the sample claim. -/
def sampleStore : Store where
  tickets := ⟨[TicketRow.issued (issueEvent sampleClaimTicket 1000 sampleIssue_timed) sampleClaimTicket
    (issuedKernel sampleClaimTicket_entersAtMarket)], List.nodup_singleton _⟩
  exposures := ⟨[AccountExposure.first sampleClaimTicket.account sampleClaimTicket.reservation],
    List.nodup_singleton _⟩
  lane := ⟨some sampleClaimTicket.identity.ticketId, 2⟩

theorem issueTicket_sample : emptyStore.issueTicket sampleView sampleTicketClaim 1000 sampleIssue_timed =
    .ok (.issued, sampleStore) := by
  have passes : blocker emptyStore sampleView sampleTicketClaim sampleClaimTicket 1000 = none := by
    decide +kernel
  have opened : openTicket emptyStore sampleTicketClaim sampleClaimTicket 1000 sampleIssue_timed =
      .ok sampleStore :=
    bind_eq_ok.mpr ⟨_, rfl, bind_eq_ok.mpr ⟨_, rfl, bind_eq_ok.mpr
      ⟨_, sampleClaimTicket_entersAtMarket.issue, rfl⟩⟩⟩
  unfold Store.issueTicket
  rw [toTicket_sampleTicketClaim, ok_bind, passes]
  exact bind_eq_ok.mpr ⟨_, opened, rfl⟩

/-! ### The ledger along a run -/

section Ledger

variable {start store next : Store} {transactions : List Transaction}

/-- Every transaction keeps the ledger. -/
theorem Balanced.transacted {transaction : Transaction} (balanced : Balanced store)
    (returned : store.transact transaction = .ok next) : Balanced next := by
  cases transaction with
  | commit commands event =>
    obtain ⟨row, reduction, new, step⟩ := balanced.commitStep returned
    exact step.balanced balanced
  | issue view claim nowMs =>
    simp only [Store.transact] at returned
    split_ifs at returned with timed
    obtain ⟨⟨status, after⟩, issued, same⟩ := bind_eq_ok.mp returned
    obtain rfl : next = after := pure_eq_ok.mp same
    by_cases success : status = .issued
    · subst success
      obtain ⟨ticket, header, kernel, -, -, step⟩ := issueStep issued
      exact step.balanced balanced
    · rw [issue_blocked issued success]
      exact balanced

theorem balanced_of_run (run : StoreRun start transactions store) : Balanced store :=
  run.steps.invariant Balanced (.seeded run.seeded) fun balanced returned =>
    balanced.transacted returned

end Ledger

end TradingKernel
