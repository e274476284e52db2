/-
**`issue_ticket`: a Ticket from a capacity claim, through the one entry lane.**

`blocker` is the first check that the claim fails, over what the use case reads (`IssueView` and the
store). A claim that passes all of them reserves the exposure of its account, claims the lane, and
commits the first event of its Ticket, in one transaction (`Store.issueTicket`).
-/

import TradingKernel.Domain.CapacitySizing
import TradingKernel.Infrastructure.AccountStore
import TradingKernel.System.Steps

namespace TradingKernel

open Text Guard

/-! ### Claims -/

inductive MarginMode where
  | cross
  | isolated
  deriving DecidableEq, Repr

/-- What a Ticket and its checks read of a capacity claim. The claim's own validators are not
repeated: the Ticket is validated again when it is built. -/
structure TicketClaim extends CapacityClaim where
  universeVersionId : NonBlankText
  universeSemanticDigest : String
  factDigest : String
  exitPolicyId : NonBlankText
  exitPolicySemanticHash : String
  exitBindingId : Option NonBlankText
  exitBindingSemanticHash : Option String
  exitBindingAuthorityVersion : Option ℤ
  totalWalletBalanceAtClaim : ℚ
  totalMarginBalanceAtClaim : ℚ
  marginModeAtClaim : MarginMode
  exposureFamily : ExposureFamily
  activeFamilyTicketCountAtClaim : ℤ
  familyTicketLimit : ℤ
  maxSameStrategySide : Option ℤ
  directionalRiskAtStopAtClaim : ℚ
  maxTicketStopRiskFraction : ℚ
  maxGrossStopRiskFraction : ℚ
  directionalStopRiskLimitFraction : ℚ
  maxTicketInitialMarginFraction : ℚ
  maxGrossInitialMarginUtilization : ℚ
  minMaterializationRatio : ℚ
  minimumStopRiskBudget : ℚ
  plannedStopRiskBudget : ℚ
  postFillStopRiskLimit : ℚ
  postStopStressMultiple : ℚ
  claimStressProofDigest : String
  reservedMargin : ℚ
  createdAtMs : ℤ
  expiresAtMs : ℤ
  entryReferencePrice : ℚ
  quantity : ℚ
  notional : ℚ
  riskAtStop : ℚ
  entryOrderType : EntryOrderType
  entryLimitPrice : Option ℚ
  initialStopPrice : ℚ
  preTp1ReclaimPrice : Option ℚ
  exposureSessionEndMs : Option ℤ
  takeProfitPrices : List ℚ
  takeProfitQuantities : List ℚ
  selectionAuthorityId : Option NonBlankText

namespace TicketClaim

variable (claim : TicketClaim)

/-- The terms of the claim's Ticket. -/
def ticketTerms : TicketTerms where
  identity := claim.ticketIdentity
  ownerPolicyId := claim.ownerPolicyId
  ownerPolicyVersion := claim.ownerPolicyVersion
  runtimeScopeId := claim.runtimeScopeId
  runtimeScopeVersion := claim.runtimeScopeVersion
  universeVersionId := claim.universeVersionId
  universeSemanticDigest := claim.universeSemanticDigest
  factDigest := claim.factDigest
  exposureFamily := claim.exposureFamily
  activeFamilyTicketCountAtClaim := claim.activeFamilyTicketCountAtClaim
  familyTicketLimit := claim.familyTicketLimit
  directionalRiskAtStopAtClaim := claim.directionalRiskAtStopAtClaim
  directionalStopRiskLimitFraction := claim.directionalStopRiskLimitFraction
  minMaterializationRatio := claim.minMaterializationRatio
  minimumStopRiskBudget := claim.minimumStopRiskBudget
  exitPolicyId := claim.exitPolicyId
  exitPolicySemanticHash := claim.exitPolicySemanticHash
  exitBindingId := claim.exitBindingId
  exitBindingSemanticHash := claim.exitBindingSemanticHash
  exitBindingAuthorityVersion := claim.exitBindingAuthorityVersion
  capacityClaimId := claim.capacityClaimId
  createdAtMs := claim.createdAtMs
  expiresAtMs := claim.expiresAtMs
  entryReferencePrice := claim.entryReferencePrice
  quantity := claim.quantity
  notional := claim.notional
  plannedStopRiskBudget := claim.plannedStopRiskBudget
  postFillStopRiskLimit := claim.postFillStopRiskLimit
  selectedLeverage := claim.selectedLeverage
  leverageChangeRequired := claim.leverageChangeRequired
  reservedMargin := claim.reservedMargin
  riskReservationBasis :=
    .ofSolid "planned_stop_distance" (solid_of_all (by decide)) (by decide)
  postStopStressMultiple := claim.postStopStressMultiple
  claimStressProofDigest := claim.claimStressProofDigest
  riskAtStop := claim.riskAtStop
  entryOrderType := claim.entryOrderType
  entryLimitPrice := claim.entryLimitPrice
  initialStopPrice := claim.initialStopPrice
  preTp1ReclaimPrice := claim.preTp1ReclaimPrice
  exposureSessionEndMs := claim.exposureSessionEndMs
  takeProfitPrices := claim.takeProfitPrices
  takeProfitQuantities := claim.takeProfitQuantities
  status := .issued
  selectionAuthorityId := claim.selectionAuthorityId

/-- The Ticket of a claim, with the refusals of its validators. -/
def toTicket : Except Raised TradeTicket := do
  refuse (claim.marginModeAtClaim ≠ .cross)
    (.valueError "Ticket issuance requires the supported cross margin mode")
  refuse (claim.exitBindingId = none ∨ claim.exitBindingSemanticHash = none ∨
      claim.exitBindingAuthorityVersion = none)
    (.valueError "new Ticket issuance requires exact Binding lineage")
  if valid : claim.ticketTerms.FieldsValid ∧ claim.ticketTerms.ShapeValid then
    return ⟨claim.ticketTerms, valid.1, valid.2⟩
  else .error (.valueError "Ticket is invalid")

end TicketClaim

/-! ### What the checks read -/

/-- The Owner policy. The scope pairs an event spec with its runtime profile. -/
structure OwnerPolicy where
  policyVersion : ℤ
  enabled : Bool
  newEntrySubmitEnabled : Bool
  scope : Option (List (NonBlankText × NonBlankText))
  maxConcurrentTickets : ℤ
  maxSameStrategySide : Option ℤ
  familyTicketLimit : ExposureFamily → ℤ
  maxTicketStopRiskFraction : ℚ
  maxGrossStopRiskFraction : ℚ
  maxTicketInitialMarginFraction : ℚ
  maxGrossInitialMarginUtilization : ℚ
  directionalStopRiskLimitFraction : ℚ
  minMaterializationRatio : ℚ
  maxLeverage : ℤ
  supportedMarginMode : MarginMode

/-- The first runtime profile of the event spec is the given one. -/
def OwnerPolicy.authorizes (policy : OwnerPolicy) (eventSpecId runtimeProfileId : NonBlankText) :
    Bool :=
  match policy.scope with
  | none => false
  | some profiles =>
      (profiles.find? fun item => item.1 = eventSpecId).map Prod.snd = some runtimeProfileId

structure RuntimeScope where
  active : Bool
  entryEnabled : Bool
  runtimeScopeId : NonBlankText
  scopeVersion : ℤ
  strategyGroupId : NonBlankText
  strategyVersionId : NonBlankText
  eventSpecId : NonBlankText
  runtimeProfileId : NonBlankText
  ownerPolicyId : NonBlankText
  universeVersionId : NonBlankText
  universeSemanticDigest : String
  exchangeInstrumentId : NonBlankText
  positionSide : PositionSide

def scopeMatchesTicket (scope : Option RuntimeScope) (ticket : TradeTicket) : Bool :=
  match scope with
  | none => false
  | some scope => scope.active ∧ scope.entryEnabled ∧
      scope.runtimeScopeId = ticket.runtimeScopeId ∧
      scope.scopeVersion = ticket.runtimeScopeVersion ∧
      scope.strategyGroupId = ticket.identity.runtime.strategyGroupId ∧
      scope.strategyVersionId = ticket.identity.runtime.strategyVersionId ∧
      scope.eventSpecId = ticket.identity.runtime.eventSpecId ∧
      scope.runtimeProfileId = ticket.identity.runtime.runtimeProfileId ∧
      scope.ownerPolicyId = ticket.ownerPolicyId ∧
      scope.universeVersionId = ticket.universeVersionId ∧
      scope.universeSemanticDigest = ticket.universeSemanticDigest ∧
      scope.exchangeInstrumentId = ticket.identity.nettingDomain.exchangeInstrumentId ∧
      scope.positionSide = ticket.identity.nettingDomain.positionSide

/-- What the selection subsystem says of a strategy group under its control. -/
inductive SelectionEntryAuthorityStatus where
  | valid
  | vacuumOpen
  | authorityInvalid
  | triggerSuppressed
  | ownerOrPolicyBlocked
  deriving DecidableEq, Repr

/-- The selection control of the strategy group: a vacuum that blocks new entries, the authority
that the signal was born with, and the current authority. -/
structure SelectionView where
  vacuumBlocksNewEntry : Bool
  signalAuthorityId : Option (Option NonBlankText)
  authority : SelectionEntryAuthorityStatus

structure ExitBinding where
  exitBindingId : NonBlankText
  bindingSemanticHash : String
  projectionVersion : ℤ

/-- What the use case reads outside the store. -/
structure IssueView where
  policy : Option OwnerPolicy
  strategyEntryEnabled : Bool
  selection : Option SelectionView
  currentUniverse : Option (NonBlankText × String)
  scope : Option RuntimeScope
  strategyAuthorityMatches : Bool
  exitBinding : Option ExitBinding
  incidentOpen : Bool
  activeFamilyTicketCount : ℤ
  activeStrategySideTicketCount : ℤ
  directionalRiskAtStop : ℚ

/-! ### Checks -/

inductive IssueTicketStatus where
  | issued
  | entryLaneOccupied
  | factsExpired
  | policyMissingOrStale
  | policyDisabled
  | scopeOrPolicyMismatch
  | strategyPaused
  | selectionEntryVacuum
  | selectionAuthorityInvalid
  | selectionTriggerSuppressed
  | exitBindingChanged
  | admissionIncidentOpen
  | activeNettingDomain
  | duplicateSignal
  | exposureFamilyCapacityExhausted
  | strategySideCapacityExhausted
  | budgetExhausted
  deriving DecidableEq, Repr

/-- A check that blocks with its status. -/
def block (bad : Prop) [Decidable bad] (status : IssueTicketStatus) : Option IssueTicketStatus :=
  if bad then some status else none

/-- The first check that blocks. -/
def firstBlock (checks : List (Option IssueTicketStatus)) : Option IssueTicketStatus :=
  checks.findSome? id

def selectionIssueStatus : SelectionEntryAuthorityStatus → IssueTicketStatus
  | .vacuumOpen => .selectionEntryVacuum
  | .triggerSuppressed => .selectionTriggerSuppressed
  | .ownerOrPolicyBlocked => .scopeOrPolicyMismatch
  | _ => .selectionAuthorityInvalid

/-- The vacuum of the selection control. -/
def vacuumBlocker (view : IssueView) : Option IssueTicketStatus :=
  match view.selection with
  | none => none
  | some selection => block (selection.vacuumBlocksNewEntry = true) .selectionEntryVacuum

/-- The authority of the selection control. -/
def selectionBlocker (view : IssueView) (claim : TicketClaim) (ticket : TradeTicket) :
    Option IssueTicketStatus :=
  match view.selection with
  | none => none
  | some selection => firstBlock [
      block (selection.signalAuthorityId ≠ some claim.selectionAuthorityId ∨
          selection.signalAuthorityId ≠ some ticket.selectionAuthorityId)
        .selectionAuthorityInvalid,
      block (selection.authority ≠ .valid) (selectionIssueStatus selection.authority)]

/-- The limits of the policy that the claim was made under are not the current ones. -/
def limitsDiffer (policy : OwnerPolicy) (claim : TicketClaim) (ticket : TradeTicket) : Prop :=
  policy.familyTicketLimit ticket.exposureFamily ≠ claim.familyTicketLimit ∨
    policy.maxSameStrategySide ≠ claim.maxSameStrategySide ∨
    policy.directionalStopRiskLimitFraction ≠ claim.directionalStopRiskLimitFraction ∨
    policy.minMaterializationRatio ≠ claim.minMaterializationRatio

instance (policy : OwnerPolicy) (claim : TicketClaim) (ticket : TradeTicket) :
    Decidable (limitsDiffer policy claim ticket) := inferInstanceAs (Decidable (_ ∨ _))

def bindingChanged (current : Option ExitBinding) (claim : TicketClaim) (ticket : TradeTicket) :
    Prop :=
  claim.exitBindingId = none ∨ claim.exitBindingSemanticHash = none ∨
    claim.exitBindingAuthorityVersion = none ∨
    current.map (fun binding => binding.exitBindingId) ≠ claim.exitBindingId ∨
    current.map (fun binding => binding.bindingSemanticHash) ≠ claim.exitBindingSemanticHash ∨
    current.map (fun binding => binding.projectionVersion) ≠ claim.exitBindingAuthorityVersion ∨
    ticket.exitBindingId ≠ claim.exitBindingId ∨
    ticket.exitBindingSemanticHash ≠ claim.exitBindingSemanticHash ∨
    ticket.exitBindingAuthorityVersion ≠ claim.exitBindingAuthorityVersion

instance (current : Option ExitBinding) (claim : TicketClaim) (ticket : TradeTicket) :
    Decidable (bindingChanged current claim ticket) := inferInstanceAs (Decidable (_ ∨ _))

/-- What the open Tickets of the account reserve, nothing without a row. -/
def currentExposure (exposure : Option AccountExposure) (account : AccountKey) :
    AccountExposure :=
  exposure.getD ⟨account, 0, 0, 0, 0, 0⟩

/-- The Ticket exceeds a limit of the policy, or the claim was made under other ones. -/
def budgetExhausted (policy : OwnerPolicy) (claim : TicketClaim) (ticket : TradeTicket)
    (current : AccountExposure) (directionalRiskAtStop : ℚ) : Prop :=
  policy.maxConcurrentTickets ≤ current.activeTicketCount ∨
    policy.maxLeverage < ticket.selectedLeverage ∨
    claim.marginModeAtClaim ≠ policy.supportedMarginMode ∨
    ticket.plannedStopRiskBudget < ticket.riskAtStop ∨
    ticket.postFillStopRiskLimit < ticket.plannedStopRiskBudget ∨
    policy.maxTicketStopRiskFraction ≠ claim.maxTicketStopRiskFraction ∨
    policy.maxGrossStopRiskFraction ≠ claim.maxGrossStopRiskFraction ∨
    policy.maxTicketInitialMarginFraction ≠ claim.maxTicketInitialMarginFraction ∨
    policy.maxGrossInitialMarginUtilization ≠ claim.maxGrossInitialMarginUtilization ∨
    policy.directionalStopRiskLimitFraction ≠ claim.directionalStopRiskLimitFraction ∨
    policy.minMaterializationRatio ≠ claim.minMaterializationRatio ∨
    claim.totalWalletBalanceAtClaim * policy.maxTicketStopRiskFraction < ticket.riskAtStop ∨
    claim.totalWalletBalanceAtClaim * policy.maxGrossStopRiskFraction <
      current.grossRiskAtStop + ticket.riskAtStop ∨
    claim.totalWalletBalanceAtClaim * policy.directionalStopRiskLimitFraction <
      directionalRiskAtStop + ticket.riskAtStop ∨
    ticket.riskAtStop < claim.minimumStopRiskBudget ∨
    claim.totalMarginBalanceAtClaim * policy.maxTicketInitialMarginFraction <
      ticket.reservedMargin ∨
    claim.totalMarginBalanceAtClaim * policy.maxGrossInitialMarginUtilization <
      current.currentReservedMargin + ticket.reservedMargin

instance (policy : OwnerPolicy) (claim : TicketClaim) (ticket : TradeTicket)
    (current : AccountExposure) (directionalRiskAtStop : ℚ) :
    Decidable (budgetExhausted policy claim ticket current directionalRiskAtStop) :=
  inferInstanceAs (Decidable (_ ∨ _))

/-- The checks that follow the policy's own. -/
def policyBlocker (store : Store) (view : IssueView) (claim : TicketClaim) (ticket : TradeTicket)
    (exposure : Option AccountExposure) (policy : OwnerPolicy) : Option IssueTicketStatus :=
  let runtime := ticket.identity.runtime
  firstBlock [
    block (policy.policyVersion ≠ ticket.ownerPolicyVersion) .policyMissingOrStale,
    block (¬ (policy.enabled = true ∧ policy.newEntrySubmitEnabled = true)) .policyDisabled,
    block (policy.authorizes runtime.eventSpecId runtime.runtimeProfileId = false)
      .scopeOrPolicyMismatch,
    block (view.strategyEntryEnabled = false) .strategyPaused,
    vacuumBlocker view,
    block (limitsDiffer policy claim ticket) .policyMissingOrStale,
    block (ticket.selectedLeverage ≠ fixedExchangeConfiguredLeverage ∨
        claim.configuredLeverageAtClaim ≠ fixedExchangeConfiguredLeverage ∨
        ticket.leverageChangeRequired = true) .scopeOrPolicyMismatch,
    block (view.currentUniverse ≠ some (ticket.universeVersionId, ticket.universeSemanticDigest))
      .scopeOrPolicyMismatch,
    block (scopeMatchesTicket view.scope ticket = false) .scopeOrPolicyMismatch,
    selectionBlocker view claim ticket,
    block (view.strategyAuthorityMatches = false) .scopeOrPolicyMismatch,
    block (bindingChanged view.exitBinding claim ticket) .exitBindingChanged,
    block (view.incidentOpen = true) .admissionIncidentOpen,
    block (∃ row ∈ store.tickets.rows, row.activeNettingDomainKey =
        some ticket.identity.nettingDomain.key) .activeNettingDomain,
    block (∃ row ∈ store.tickets.rows, row.ticket.identity.signalEventId =
        ticket.identity.signalEventId) .duplicateSignal,
    block (ticket.familyTicketLimit ≤ view.activeFamilyTicketCount)
      .exposureFamilyCapacityExhausted,
    block (∃ limit ∈ policy.maxSameStrategySide, limit ≤ view.activeStrategySideTicketCount)
      .strategySideCapacityExhausted,
    block (budgetExhausted policy claim ticket (currentExposure exposure ticket.account)
      view.directionalRiskAtStop) .budgetExhausted]

/-- The first check that the claim fails. -/
def blocker (store : Store) (view : IssueView) (claim : TicketClaim) (ticket : TradeTicket)
    (nowMs : ℤ) : Option IssueTicketStatus :=
  firstBlock [
    block (store.lane.ticketId ≠ none) .entryLaneOccupied,
    block (claim.expiresAtMs ≤ nowMs) .factsExpired,
    match view.policy with
    | none => some .policyMissingOrStale
    | some policy =>
        policyBlocker store view claim ticket (store.exposures.lookup ticket.account) policy]

/-! ### The use case -/

/-- The first event of the claim's Ticket. -/
def issueEvent (ticket : TradeTicket) (nowMs : ℤ) (timed : 0 < nowMs) : EventHeader where
  eventId := {
    text := strip ("event:" ++ ticket.identity.ticketId.text ++ ":1")
    stripped := strip_strip _
    nonempty := strip_ne_empty (c := 'e') (by simp) (by decide) }
  sequence := 1
  occurredAtMs := nowMs
  positive := ⟨by decide, timed⟩

/-- The Ticket with its reservations: the exposure of its account, the lane, and the row. -/
def openTicket (store : Store) (claim : TicketClaim) (ticket : TradeTicket) (nowMs : ℤ)
    (timed : 0 < nowMs) : Except Raised Store := do
  let exposures ← reserveAccountExposure store.exposures ticket.account ticket.reservation
    ((store.exposures.lookup ticket.account).map AccountExposure.projectionVersion)
  let lane ← claimGlobalLane store.lane ticket.identity.ticketId store.lane.version
  let header := issueEvent ticket nowMs timed
  let kernel ← Kernel.issue (some claim.toCapacityClaim) header ticket
  let tickets ← store.tickets.insert (TicketRow.issued header ticket kernel) .integrityError
  return ⟨tickets, exposures, lane⟩

def Store.issueTicket (store : Store) (view : IssueView) (claim : TicketClaim) (nowMs : ℤ)
    (timed : 0 < nowMs) : Except Raised (IssueTicketStatus × Store) := do
  let ticket ← claim.toTicket
  match blocker store view claim ticket nowMs with
  | some status => return (status, store)
  | none => do
      let store ← openTicket store claim ticket nowMs timed
      return (.issued, store)

end TradingKernel
