/-
**`commit_reduction`: one reduction made durable, with a command for every effect that asks for
one.**

`Kernel` is what the database holds of one Ticket: its aggregate, its commands, its open incidents,
and the capacity claim its first command is checked against. `materialise` carries out one effect
and `commitReduction` all of them in order, in one transaction. The budget, the entry lane, the
netting domain and the Owner's projection are other authorities, and their effects change nothing
here.
-/

import TradingKernel.Infrastructure.CommandTable
import TradingKernel.Lib.CanonicalJson

namespace TradingKernel

open Text Guard CanonicalJson

/-- What the commands read of a capacity claim. -/
structure CapacityClaim where
  capacityClaimId : NonBlankText
  ticketIdentity : TicketIdentity
  ownerPolicyId : NonBlankText
  ownerPolicyVersion : ℤ
  runtimeScopeId : NonBlankText
  runtimeScopeVersion : ℤ
  entryAdmissionSnapshotDigest : String
  markPriceAtClaim : ℚ
  selectedLeverage : ℤ
  configuredLeverageAtClaim : ℤ
  leverageChangeRequired : Bool
  digestShape : IsSha256Digest entryAdmissionSnapshotDigest

/-- What is stored of one Ticket. -/
structure Kernel where
  aggregate : TradeAggregate
  commands : CommandTable
  openIncidents : List String
  claim : Option CapacityClaim

/-! ### The claim of the first command -/

/-- The claim was made for another Ticket or policy, scope or leverage. -/
def differsFromTicket (claim : CapacityClaim) (ticket : TradeTicket) : Prop :=
  claim.capacityClaimId ≠ ticket.capacityClaimId ∨ claim.ticketIdentity ≠ ticket.identity ∨
    claim.ownerPolicyId ≠ ticket.ownerPolicyId ∨
    claim.ownerPolicyVersion ≠ ticket.ownerPolicyVersion ∨
    claim.runtimeScopeId ≠ ticket.runtimeScopeId ∨
    claim.runtimeScopeVersion ≠ ticket.runtimeScopeVersion ∨
    claim.selectedLeverage ≠ ticket.selectedLeverage ∨
    claim.leverageChangeRequired ≠ ticket.leverageChangeRequired

instance (claim : CapacityClaim) (ticket : TradeTicket) :
    Decidable (differsFromTicket claim ticket) :=
  inferInstanceAs (Decidable (_ ∨ _))

def initialCommandClaim (stored : Option CapacityClaim) (ticket : TradeTicket) :
    Except Raised CapacityClaim := do
  let claim ← demand stored
    (.unsupportedKernelEffect "initial command requires its immutable CapacityClaim")
  refuse (differsFromTicket claim ticket)
    (.unsupportedKernelEffect "initial command Claim differs from immutable Ticket authority")
  refuse (ticket.leverageChangeRequired =
      decide (claim.configuredLeverageAtClaim = ticket.selectedLeverage))
    (.unsupportedKernelEffect
      "initial command Claim has contradictory leverage-change evidence")
  return claim

/-- The leverage of the instrument as it was admitted, before any change. -/
def initialLeverageFactDigest (claim : CapacityClaim) : String :=
  canonicalDigest (.object [
    ("entry_admission_snapshot_digest", .text claim.entryAdmissionSnapshotDigest),
    ("instrument_facts", .object [
      ("exchange_instrument_id",
        .text claim.ticketIdentity.nettingDomain.exchangeInstrumentId.text),
      ("mark_price", .decimal claim.markPriceAtClaim),
      ("configured_leverage", .integer claim.configuredLeverageAtClaim)])])

/-! ### Commands -/

/-- A validator's refusal, raised. -/
def validated {α : Type} (outcome : Except ValidationError α) : Except Raised α :=
  outcome.mapError .validation

theorem validated_eq_ok {α : Type} {outcome : Except ValidationError α} {value : α} :
    validated outcome = .ok value ↔ outcome = .ok value := by
  cases outcome <;> simp [validated, Except.mapError]

/-- A new command of a Ticket: its identity digests its key, and the venue sees a digest of that,
except for a leverage change. -/
def newCommand (identity : TicketIdentity) (key : CommandKey) (payload : CommandPayload)
    (createdAtMs deadlineAtMs : ℤ) : Except Raised ExchangeCommand :=
  let commandId := buildCommandId identity.ticketId key.kind key.generation
  validated (CommandTerms.prepare {
    commandId := commandId
    ticketIdentity := identity
    kind := key.kind
    generation := key.generation
    idempotencyKey := commandId
    venueClientOrderId :=
      if key.kind = .setLeverage then none else some (buildVenueClientOrderId commandId)
    payload := payload
    createdAtMs := createdAtMs
    deadlineAtMs := deadlineAtMs })

/-- The terms of the entry order. A limit entry gets no time in force, which the validator of a
limit order requires. -/
def entryTerms (ticket : TradeTicket) (leverageVerificationDigest : String) : OrderTerms where
  side := if ticket.identity.nettingDomain.positionSide = .long then .buy else .sell
  quantity := ticket.quantity
  orderType := if ticket.entryOrderType = .market then .market else .limit
  reduceOnly := false
  limitPrice := ticket.entryLimitPrice
  requiredConfiguredLeverage := some ticket.selectedLeverage
  leverageVerificationDigest := some leverageVerificationDigest

def entryCommand (ticket : TradeTicket) (leverageVerificationDigest : String)
    (occurredAtMs : ℤ) : Except Raised ExchangeCommand := do
  let payload ← validated (entryTerms ticket leverageVerificationDigest).validate
  newCommand ticket.identity ⟨.entry, 1⟩ (.order payload) occurredAtMs ticket.expiresAtMs

def setLeverageCommand (ticket : TradeTicket) (claim : CapacityClaim) (occurredAtMs : ℤ) :
    Except Raised ExchangeCommand := do
  let payload ← validated (SetLeverageTerms.validate {
    desiredLeverage := ticket.selectedLeverage
    ownerPolicyVersion := ticket.ownerPolicyVersion
    entryAdmissionSnapshotDigest := claim.entryAdmissionSnapshotDigest
    leverageFactDigest := initialLeverageFactDigest claim })
  newCommand ticket.identity ⟨.setLeverage, 1⟩ (.setLeverage payload) occurredAtMs
    ticket.expiresAtMs

def closingSide (aggregate : TradeAggregate) : OrderSide :=
  if aggregate.identity.nettingDomain.positionSide = .long then .sell else .buy

/-- A stop that closes the position. -/
def stopTerms (aggregate : TradeAggregate) (quantity stopPrice : ℚ) : OrderTerms where
  side := closingSide aggregate
  quantity := quantity
  orderType := .stopMarket
  reduceOnly := true
  stopPrice := some stopPrice

def takeProfitTerms (aggregate : TradeAggregate) (quantity limitPrice : ℚ) : OrderTerms where
  side := closingSide aggregate
  quantity := quantity
  orderType := .limit
  reduceOnly := true
  limitPrice := some limitPrice
  timeInForce := some .gtx

def replacementTerms (aggregate : TradeAggregate) (quantity stopPrice : ℚ)
    (replacesExchangeOrderId : String) (sourceWatermarkMs : ℤ) : OrderTerms :=
  { stopTerms aggregate quantity stopPrice with
    replacesExchangeOrderId := some replacesExchangeOrderId
    sourceWatermarkMs := some sourceWatermarkMs }

/-- A market order that closes the position. -/
def marketTerms (aggregate : TradeAggregate) (quantity : ℚ) : OrderTerms where
  side := closingSide aggregate
  quantity := quantity
  orderType := .market
  reduceOnly := true

/-- How long a command about an open exposure can be claimed. -/
def commandWindowMs : ℤ := 30000

def orderCommand (aggregate : TradeAggregate) (key : CommandKey) (terms : OrderTerms)
    (occurredAtMs : ℤ) : Except Raised ExchangeCommand := do
  let payload ← validated terms.validate
  newCommand aggregate.identity key (.order payload) occurredAtMs (occurredAtMs + commandWindowMs)

/-- The cancel of an order: its id is stripped and required, and so is a vacuum's where there is
one. -/
def cancelCommand (aggregate : TradeAggregate) (generation : ℕ) (exchangeOrderId : String)
    (orderNamespace : OrderNamespace) (purpose : CancelPurpose) (entryVacuumId : Option String)
    (occurredAtMs : ℤ) : Except Raised ExchangeCommand := do
  let target ← demand (NonBlankText.ofText? exchangeOrderId)
    (.validation ⟨"cancel command requires exchange order identity"⟩)
  let payload ← validated (CancelTerms.validate {
    exchangeOrderId := target
    orderNamespace := orderNamespace
    purpose := purpose
    entryVacuumId := entryVacuumId.bind NonBlankText.ofText? })
  newCommand aggregate.identity ⟨.cancelOrder, generation⟩ (.cancel payload) occurredAtMs
    (occurredAtMs + commandWindowMs)

/-! ### Generations -/

def requireGenerationAllowed (prior : CommandRow) (generation : ℕ) : Except Raised Unit :=
  (requireNextGenerationAllowed prior.kind prior.status generation).mapError .commandGeneration

/-- The next generation of a kind, if its latest command may be followed. -/
def nextRetryableGeneration (commands : CommandTable) (kind : ExchangeCommandKind) :
    Except Raised ℕ :=
  let generation := commands.nextGeneration kind
  if generation = 1 then return generation
  else do
    let prior ← demand (commands.latest kind) (.valueError "max() arg is an empty sequence")
    requireGenerationAllowed prior generation
    return generation

/-- The next generation of a cancel. Only a cancel of the same order as the latest one is a
retry. -/
def nextCancelGeneration (commands : CommandTable) (exchangeOrderId : String) :
    Except Raised ℕ :=
  let generation := commands.nextGeneration .cancelOrder
  if generation = 1 then return generation
  else do
    let prior ← demand (commands.latest .cancelOrder)
      (.valueError "max() arg is an empty sequence")
    if CommandTable.Cancels exchangeOrderId prior.command then
      requireGenerationAllowed prior generation
    return generation

/-! ### Effects -/

namespace Kernel

variable (kernel : Kernel)

/-- The kernel with one more command. -/
def prepare (command : ExchangeCommand) : Except Raised Kernel := do
  let commands ← kernel.commands.add command
  return { kernel with commands := commands }

/-- The cancel of an entry order, which is numbered but never a retry. -/
def prepareEntryCancel (exchangeOrderId : String) (purpose : CancelPurpose)
    (entryVacuumId : Option String) (occurredAtMs : ℤ) : Except Raised Kernel := do
  let command ← cancelCommand kernel.aggregate (kernel.commands.nextGeneration .cancelOrder)
    exchangeOrderId .regular purpose entryVacuumId occurredAtMs
  kernel.prepare command

/-- A command of a kind that may be retried. -/
def prepareRetryable (kind : ExchangeCommandKind) (terms : OrderTerms) (occurredAtMs : ℤ) :
    Except Raised Kernel := do
  let generation ← nextRetryableGeneration kernel.commands kind
  let command ← orderCommand kernel.aggregate ⟨kind, generation⟩ terms occurredAtMs
  kernel.prepare command

/-- A command of a kind that is prepared once. -/
def prepareOnce (kind : ExchangeCommandKind) (terms : OrderTerms) (occurredAtMs : ℤ) :
    Except Raised Kernel := do
  let command ← orderCommand kernel.aggregate ⟨kind, 1⟩ terms occurredAtMs
  kernel.prepare command

/-- One effect, carried out on the kernel that holds the new aggregate. -/
def materialise (occurredAtMs : ℤ) (kernel : Kernel) : KernelEffect → Except Raised Kernel
  | .prepareEntryCommand ticket leverageVerificationDigest => do
      let claim ← initialCommandClaim kernel.claim ticket
      let command ← entryCommand ticket
        ((leverageVerificationDigest.filter fun digest => digest ≠ "").getD
          (initialLeverageFactDigest claim)) occurredAtMs
      kernel.prepare command
  | .prepareSetLeverageCommand ticket => do
      let claim ← initialCommandClaim kernel.claim ticket
      let command ← setLeverageCommand ticket claim occurredAtMs
      kernel.prepare command
  | .prepareInitialStopCommand _ quantity stopPrice =>
      kernel.prepareOnce .initialStop (stopTerms kernel.aggregate quantity stopPrice) occurredAtMs
  | .prepareTakeProfitCommand _ quantity limitPrice =>
      kernel.prepareRetryable .takeProfit
        (takeProfitTerms kernel.aggregate quantity limitPrice) occurredAtMs
  | .prepareProtectionReplacementCommand _ quantity stopPrice replaces watermarkMs =>
      kernel.prepareRetryable .replaceProtection
        (replacementTerms kernel.aggregate quantity stopPrice replaces watermarkMs) occurredAtMs
  | .prepareExitCommand _ quantity _ =>
      kernel.prepareRetryable .exit (marketTerms kernel.aggregate quantity) occurredAtMs
  | .cancelEntryRemainder _ => do
      let entryOrderId ← demand kernel.aggregate.entryExchangeOrderId
        (.unsupportedKernelEffect "partial fill has no authoritative ENTRY order identity")
      kernel.prepareEntryCancel entryOrderId .entryRemainder none occurredAtMs
  | .cancelVacuumEntryOrder _ exchangeOrderId entryVacuumId => do
      refuse (kernel.aggregate.entryExchangeOrderId ≠ some exchangeOrderId)
        (.unsupportedKernelEffect "Vacuum cancel differs from authoritative ENTRY order")
      kernel.prepareEntryCancel exchangeOrderId .selectionVacuumEntry (some entryVacuumId)
        occurredAtMs
  | .requestControlledFlatten _ quantity => do
      refuse (kernel.aggregate.status ≠ .partialFillIncident ∨
          kernel.aggregate.positionQty ≠ quantity)
        (.unsupportedKernelEffect "controlled flatten intent differs from partial exposure")
      return kernel
  | .prepareControlledFlattenCommand _ quantity =>
      kernel.prepareOnce .controlledFlatten (marketTerms kernel.aggregate quantity) occurredAtMs
  | .cancelProtectionOrders _ exchangeOrderId orderNamespace purpose => do
      let generation ← nextCancelGeneration kernel.commands exchangeOrderId
      let command ← cancelCommand kernel.aggregate generation exchangeOrderId orderNamespace
        purpose none occurredAtMs
      kernel.prepare command
  | .markCancelCommandReconciledAbsent _ exchangeOrderId => do
      let commands ← kernel.commands.markCancelReconciledAbsent exchangeOrderId occurredAtMs
      return { kernel with commands := commands }
  | .openIncident _ incidentKind =>
      return { kernel with openIncidents := incidentKind :: kernel.openIncidents }
  | .resolveIncident _ incidentKind => do
      refuse (incidentKind ∉ kernel.openIncidents)
        (.unsupportedKernelEffect "expected runtime incident is missing during resolution")
      return { kernel with openIncidents := kernel.openIncidents.erase incidentKind }
  | .resolveTicketIncidentsAtClosure _ => return { kernel with openIncidents := [] }
  | .releaseEntryLane _ | .releaseCapitalAuthorities .. | .releaseBudget _
  | .projectTerminalOwnerState _ => return kernel

/-- The effects, one after the other. -/
def materialiseAll (occurredAtMs : ℤ) : Kernel → List KernelEffect → Except Raised Kernel
  | kernel, [] => return kernel
  | kernel, effect :: effects => do
      let kernel ← kernel.materialise occurredAtMs effect
      materialiseAll occurredAtMs kernel effects

/-- The reduction of an event, committed. The event and its version check are one transaction with
the effects, so a reduction is committed on the aggregate it was made from. -/
def commitReduction (occurredAtMs : ℤ) (reduction : Reduction) : Except Raised Kernel :=
  materialiseAll occurredAtMs { kernel with aggregate := reduction.aggregate } reduction.effects

end Kernel

end TradingKernel
