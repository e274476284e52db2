/-
**`build_capacity_claim`: one claim from a single fresh admission snapshot.**

The use case refuses, with a status, or it sizes the Ticket, assesses the stop stress, and freezes a
claim. Between the refusals stand the input models that it builds on the way: the sizing request, the
stress request and the claim, each with the refusals of its validators, and these it does not catch.
-/

import TradingKernel.Application.FreezeClaim

namespace TradingKernel

open Text Guard CanonicalJson
open Detectors (RegisteredStrategyContract registeredStrategyContracts FactRole FactValue)

/-! ### Inputs and decisions -/

/-- The arguments of the use case. -/
structure CapacityClaimInputs where
  signal : StrategySignal
  runtimeProfileId : NonBlankText
  venueId : NonBlankText
  accountId : NonBlankText
  positionMode : String
  policy : CapacityPolicy
  usage : CapacityUsage
  instrumentRules : CapacityInstrumentRules
  admissionSnapshot : EntryAdmissionSnapshot
  accountEntryHealth : AccountEntryHealth
  instrumentEntryHealth : InstrumentEntryHealth
  entryOrderType : EntryOrderType
  currentExitBinding : CurrentEventExitBinding
  exitBinding : EventExitBinding
  exitProfile : ExitProfileRecord
  nettingDomainOccupied : Bool
  nowMs : ℤ

/-- The statuses of a decision without a claim. -/
inductive CapacityClaimRefusal where
  | signalInvalidOrStale
  | scopeOrPolicyMismatch
  | actionFactsInvalidOrStale
  | accountModeInvalid
  | instrumentRulesInvalid
  | nettingDomainOccupied
  | budgetExhausted
  | exposureFamilyCapacityExhausted
  | strategySideCapacityExhausted
  | directionalRiskExhausted
  | protectionUnavailable
  | exitLegMaterializationUnmet
  deriving DecidableEq, Repr

/-- A refusal, or `CLAIMED` with its claim. -/
inductive CapacityClaimDecision where
  | refused (status : CapacityClaimRefusal)
  | claimed (claim : FrozenCapacityClaim)

/-- A stage that may refuse, and the rest of the use case on its result. -/
def orRefuse {α : Type} (stage : Except CapacityClaimRefusal α)
    (rest : α → Except Raised CapacityClaimDecision) : Except Raised CapacityClaimDecision :=
  match stage with
  | .error status => .ok (.refused status)
  | .ok result => rest result

/-! ### Readings of the signal -/

/-- `strategy_contract_for`. -/
def strategyContractFor (eventSpecId : String) : Except Raised RegisteredStrategyContract :=
  match registeredStrategyContracts.filter fun contract => contract.eventSpecId = eventSpecId with
  | [contract] => .ok contract
  | _ => .error (.valueError "registered Event must resolve exactly one contract")

/-- The positive decimal of a fact. -/
def positiveDecimal : FactValue → Option ℚ
  | .boolean _ => none
  | .decimal value => if 0 < value then some value else none

/-- `_protection_reference`. -/
def protectionReference (signal : StrategySignal) : Option ℚ :=
  match signal.facts.filter fun fact => fact.role = .protectionReference with
  | [fact] => positiveDecimal fact.value
  | _ => none

/-- `_contract_decimal_fact`, for the lifecycle references. -/
def contractDecimalFact (signal : StrategySignal) (contract : RegisteredStrategyContract)
    (factName : Option String) : Option ℚ := do
  let name ← factName
  let expected ← contract.requiredFacts.find? fun requirement =>
    requirement.factName = name ∧ requirement.role = .lifecycleReference
  match signal.facts.filter fun fact =>
      fact.factDefinitionId = expected.factDefinitionId ∧ fact.role = .lifecycleReference with
  | [fact] => positiveDecimal fact.value
  | _ => none

/-! ### Prices -/

/-- `_round_stop`. -/
def roundStop (value tick : ℚ) : PositionSide → ℚ
  | .long => floorTo tick value
  | .short => ceilTo tick value

/-- `_round_take_profit`. -/
def roundTakeProfit (entryPrice riskPerUnit tick : ℚ) : PositionSide → ℚ
  | .long => ceilTo tick (entryPrice + riskPerUnit)
  | .short => floorTo tick (entryPrice - riskPerUnit)

/-- The stop is on the protective side of the entry. -/
def Protects (side : PositionSide) (stopPrice entryPrice : ℚ) : Prop :=
  match side with
  | .long => stopPrice < entryPrice
  | .short => entryPrice < stopPrice

instance (side : PositionSide) (stopPrice entryPrice : ℚ) :
    Decidable (Protects side stopPrice entryPrice) := by
  unfold Protects
  cases side <;> exact inferInstance

/-! ### Digests and identities -/

/-- `EntryAdmissionSnapshot.digest`. -/
def EntryAdmissionSnapshot.digest (snapshot : EntryAdmissionSnapshot) : String :=
  canonicalDigest (.object [("account_risk_snapshot", snapshot.accountRiskSnapshot.payload),
    ("best_bid_price", .decimal snapshot.bestBidPrice),
    ("best_ask_price", .decimal snapshot.bestAskPrice),
    ("open_orders", .array (snapshot.openOrders.map AdmissionOrder.payload)),
    ("observed_at_ms", .integer snapshot.observedAtMs),
    ("valid_until_ms", .integer snapshot.validUntilMs)])

/-- `build_ticket_id`. -/
def buildTicketId (signalEventId : NonBlankText) (runtime : RuntimeIdentity)
    (nettingDomain : NettingDomain) : NonBlankText :=
  digestIdentity "ticket:" (asciiJson (.object [("signal_event_id", .text signalEventId),
    ("runtime", runtime.payload), ("netting_domain", nettingDomain.payload)])) 32
    (solid_of_all (by decide)) (by decide)

/-! ### Sizing and stress -/

/-- `_sizing_refusal`. -/
def sizingRefusal : CapacitySizingStatus → CapacityClaimRefusal
  | .directionalRiskExhausted => .directionalRiskExhausted
  | .exitPlanUnexecutable => .exitLegMaterializationUnmet
  | .countExhausted | .stopRiskExhausted | .marginExhausted | .venueMinimumUnmet
  | .minimumMaterializationUnmet => .budgetExhausted
  | .selected | .invalidFacts => .instrumentRulesInvalid

/-- The selection of the sizing, or its refusal. -/
def sizedSelection (request : CapacitySizingRequest) :
    Except CapacityClaimRefusal CapacitySizingSelection :=
  let decision := selectCapacityCandidate request
  demand decision.selected (sizingRefusal decision.status)

/-- Evidence that passed, or its refusal. -/
def passedEvidence (evidence : CrossMarginStressEvidence) : Except CapacityClaimRefusal Unit := do
  refuse (evidence.proof.status = .factsContradictory) .instrumentRulesInvalid
  refuse (evidence.proof.status ≠ .passed) .protectionUnavailable

/-- `_canonicalize_projected_positions`: the sides in their order, each as it was given. -/
def sortedBySide (positions : List StressPosition) : List StressPosition :=
  (positions.filter fun position => position.positionSide = .long) ++
    positions.filter fun position => position.positionSide = .short

/-! ### The stages -/

/-- The prices of the Ticket and the plan of its exposure before TP1. -/
structure EntryLevels where
  entryPrice : ℚ
  stopPrice : ℚ
  takeProfitPrice : ℚ
  preTp1ReclaimPrice : Option ℚ
  exposureSessionEndMs : Option ℤ

namespace CapacityClaimInputs

variable (inputs : CapacityClaimInputs)

def account : AccountRiskSnapshot := inputs.admissionSnapshot.accountRiskSnapshot

def profile : ExitProfile := inputs.exitProfile.profile

/-- The refusals up to the strategy contract: freshness, scope, modes, health and count. -/
def admission : Except CapacityClaimRefusal Unit := do
  let account := inputs.account
  let health := inputs.instrumentEntryHealth.status
  refuse (inputs.nowMs < inputs.signal.observedAtMs ∨ inputs.signal.expiresAtMs ≤ inputs.nowMs)
    .signalInvalidOrStale
  refuse (account.venueId ≠ inputs.venueId ∨ account.accountId ≠ inputs.accountId ∨
      inputs.instrumentRules.venueId ≠ inputs.venueId ∨
      inputs.instrumentRules.exchangeInstrumentId ≠ inputs.signal.exchangeInstrumentId)
    .scopeOrPolicyMismatch
  refuse (inputs.nowMs < inputs.admissionSnapshot.observedAtMs ∨
      inputs.admissionSnapshot.validUntilMs ≤ inputs.nowMs ∨
      inputs.nowMs < inputs.instrumentRules.observedAtMs ∨
      inputs.instrumentRules.validUntilMs ≤ inputs.nowMs) .actionFactsInvalidOrStale
  -- The modes of an account snapshot and of a policy have one value each.
  refuse (inputs.positionMode ≠ "independent_sides" ∨
      account.configuredLeverage ≠ fixedExchangeConfiguredLeverage) .actionFactsInvalidOrStale
  refuse (inputs.accountEntryHealth.entryAdmissionSnapshotDigest ≠ inputs.admissionSnapshot.digest ∨
      inputs.instrumentEntryHealth.entryAdmissionSnapshotDigest ≠ inputs.admissionSnapshot.digest)
    .actionFactsInvalidOrStale
  refuse (inputs.accountEntryHealth.status ≠ .healthy) .budgetExhausted
  refuse (health = .sameDirectionOccupied) .nettingDomainOccupied
  refuse (health ≠ .healthyFlat ∧ health ≠ .healthyOppositeSide) .budgetExhausted
  refuse (inputs.nettingDomainOccupied = true) .nettingDomainOccupied
  refuse (inputs.policy.maxConcurrentTickets ≤ inputs.usage.activeTicketCount) .budgetExhausted

def familyTicketLimit (contract : RegisteredStrategyContract) : ℤ :=
  inputs.policy.familyTicketLimits contract.eventId.exposureFamily

/-- The refusals of the family, the strategy side and the direction. -/
def capacity (contract : RegisteredStrategyContract) : Except CapacityClaimRefusal Unit := do
  refuse (inputs.familyTicketLimit contract ≤ inputs.usage.activeFamilyTicketCount)
    .exposureFamilyCapacityExhausted
  refuse (∃ limit ∈ inputs.policy.maxSameStrategySide,
      limit ≤ inputs.usage.activeStrategySideTicketCount) .strategySideCapacityExhausted
  refuse (inputs.account.totalWalletBalance * inputs.policy.directionalStopRiskLimitFraction ≤
      inputs.usage.directionalRiskAtStop) .directionalRiskExhausted

def entryPrice : ℚ :=
  match inputs.signal.positionSide with
  | .long => inputs.admissionSnapshot.bestAskPrice
  | .short => inputs.admissionSnapshot.bestBidPrice

/-- The exit of another event, binding, profile or side. -/
def ExitMismatch : Prop :=
  inputs.exitProfile.active = false ∨
    inputs.currentExitBinding.eventSpecId ≠ inputs.signal.eventSpecId ∨
    inputs.exitBinding.eventSpecId ≠ inputs.signal.eventSpecId ∨
    inputs.currentExitBinding.exitBindingId ≠ inputs.exitBinding.exitBindingId ∨
    inputs.currentExitBinding.bindingSemanticHash ≠ inputs.exitBinding.bindingSemanticHash ∨
    inputs.exitBinding.exitProfileId ≠ inputs.profile.exitProfileId ∨
    inputs.exitBinding.exitProfileSemanticHash ≠ inputs.profile.semanticHash ∨
    inputs.profile.positionSide ≠ inputs.signal.positionSide

instance : Decidable inputs.ExitMismatch := inferInstanceAs (Decidable (_ ∨ _))

/-- The lifecycle reference of a guard, where the profile has that guard. -/
def guardFact (contract : RegisteredStrategyContract) (guard : PreTp1GuardKind)
    (factName : Option String) : Option ℚ :=
  if guard ∈ inputs.profile.preTp1Guards then contractDecimalFact inputs.signal contract factName
  else none

/-- The entry, the stop, the plan before TP1 and the take profit. -/
def entryLevels (contract : RegisteredStrategyContract) :
    Except CapacityClaimRefusal EntryLevels := do
  let side := inputs.signal.positionSide
  let tick := inputs.instrumentRules.priceTick
  let entryPrice := inputs.entryPrice
  let stopReference ← demand (protectionReference inputs.signal) .protectionUnavailable
  let stopPrice := roundStop stopReference tick side
  refuse (¬ Protects side stopPrice entryPrice) .protectionUnavailable
  refuse (inputs.account.exchangeInstrumentId ≠ inputs.signal.exchangeInstrumentId)
    .scopeOrPolicyMismatch
  refuse inputs.ExitMismatch .scopeOrPolicyMismatch
  let reclaim := inputs.guardFact contract .reclaimReference
    contract.eventId.preTp1ReclaimReferenceFact
  let sessionEnd := inputs.guardFact contract .sessionExpiry
    contract.eventId.exposureSessionEndReferenceFact
  refuse ((.reclaimReference ∈ inputs.profile.preTp1Guards ∧ reclaim = none) ∨
      (.sessionExpiry ∈ inputs.profile.preTp1Guards ∧ sessionEnd = none)) .protectionUnavailable
  refuse (∃ value ∈ sessionEnd, value.den ≠ 1) .protectionUnavailable
  return {
    entryPrice := entryPrice
    stopPrice := stopPrice
    takeProfitPrice := roundTakeProfit entryPrice
      (|entryPrice - stopPrice| * inputs.profile.tp1.rewardMultiple) tick side
    preTp1ReclaimPrice := reclaim
    exposureSessionEndMs := sessionEnd.map Rat.num }

/-- `CapacitySizingRequest(...)`, with the refusals of its validators. -/
def sizingRequest (levels : EntryLevels) : Except Raised CapacitySizingRequest :=
  if nonnegative : 0 ≤ inputs.account.totalMarginBalance then
    if positive : 0 < levels.entryPrice ∧ 0 < levels.stopPrice ∧ 0 < levels.takeProfitPrice then
      if differs : levels.stopPrice ≠ levels.entryPrice then .ok {
        totalWalletBalance := inputs.account.totalWalletBalance
        totalMarginBalance := inputs.account.totalMarginBalance
        totalInitialMargin := inputs.account.totalInitialMargin
        currentReservedMargin := inputs.usage.currentReservedMargin
        grossRiskAtStop := inputs.usage.grossRiskAtStop
        directionalRiskAtStop := inputs.usage.directionalRiskAtStop
        availableMargin := inputs.account.availableMargin
        activeTicketCount := inputs.usage.activeTicketCount
        maxConcurrentTickets := inputs.policy.maxConcurrentTickets
        maxTicketStopRiskFraction := inputs.policy.maxTicketStopRiskFraction
        maxGrossStopRiskFraction := inputs.policy.maxGrossStopRiskFraction
        maxTicketInitialMarginFraction := inputs.policy.maxTicketInitialMarginFraction
        maxGrossInitialMarginUtilization := inputs.policy.maxGrossInitialMarginUtilization
        directionalStopRiskLimitFraction := inputs.policy.directionalStopRiskLimitFraction
        minMaterializationRatio := inputs.policy.minMaterializationRatio
        permittedMaxLeverage :=
          min inputs.policy.maxLeverage inputs.instrumentRules.exchangeMaxLeverage
        configuredLeverage := inputs.account.configuredLeverage
        entryReferencePrice := levels.entryPrice
        initialStopPrice := levels.stopPrice
        takeProfitPrice := levels.takeProfitPrice
        quantityStep := inputs.instrumentRules.quantityStep
        minQuantity := inputs.instrumentRules.minQuantity
        minNotional := inputs.instrumentRules.minNotional
        tp1QuantityFraction := inputs.profile.tp1.quantityFraction
        nonnegative := ⟨inputs.account.balancesNonneg.1, nonnegative,
          inputs.account.balancesNonneg.2.1, inputs.usage.nonnegative.2.1,
          inputs.usage.nonnegative.1, inputs.usage.nonnegative.2.2,
          inputs.account.balancesNonneg.2.2.2⟩
        positive := ⟨positive.1, positive.2.1, positive.2.2, inputs.instrumentRules.positive.1,
          inputs.instrumentRules.positive.2.2.1, inputs.instrumentRules.positive.2.2.2.1⟩
        fractions := inputs.policy.fractions
        tp1Fraction := inputs.profile.tp1.fractionInRange
        counts := ⟨inputs.usage.countsNonneg.1, inputs.policy.countsPositive.2.1,
          lt_min inputs.policy.countsPositive.2.2 inputs.instrumentRules.leveragePositive,
          inputs.account.leveragePositive⟩
        stopDiffers := differs }
      else .error (.validation ⟨"initial stop must differ from entry reference"⟩)
    else .error (.validation ⟨"sizing prices, rules, and ratios must be finite and positive"⟩)
  else .error (.validation ⟨"account sizing facts must be finite and nonnegative"⟩)

/-- The open positions of the instrument, as projected sides. -/
def openPositions : List StressPosition :=
  (inputs.account.accountPositions.filter fun position =>
      position.exchangeInstrumentId = inputs.signal.exchangeInstrumentId).map fun position => {
    positionSide := position.positionSide
    quantity := position.quantity
    averageEntryPrice := position.averageEntryPrice
    positive := position.positive }

/-- `CrossMarginStressRequest(...)` for a quantity, with the refusals of its validators. -/
def stressRequest (levels : EntryLevels) (quantity : ℚ) :
    Except Raised CrossMarginStressRequest :=
  if entered : 0 < quantity ∧ 0 < levels.entryPrice then
    let entry : StressPosition :=
      ⟨inputs.signal.positionSide, quantity, levels.entryPrice, entered⟩
    let projected := sortedBySide (inputs.openPositions ++ [entry])
    if positive : 0 < levels.stopPrice then
      if unique : (projected.map StressPosition.positionSide).Nodup then
        if evaluated : inputs.signal.positionSide ∈ projected.map StressPosition.positionSide then
          if protective : Protects inputs.signal.positionSide levels.stopPrice
              levels.entryPrice then .ok {
            accountSnapshot := inputs.account
            maintenanceMarginBrackets := inputs.instrumentRules.maintenanceMarginBrackets
            maintenanceMarginBracketsDigest :=
              inputs.instrumentRules.maintenanceMarginBracketsDigest
            notionalCoefficient := inputs.instrumentRules.notionalCoefficient
            notionalCoefficientCertified := inputs.instrumentRules.notionalCoefficientCertified
            evaluatedSide := inputs.signal.positionSide
            referenceEntryPrice := levels.entryPrice
            initialStopPrice := levels.stopPrice
            postStopStressMultiple := inputs.policy.postStopStressMultiple
            projectedInstrumentPositions := projected
            bracketsDigestShape := inputs.instrumentRules.digestShape
            positive := ⟨inputs.instrumentRules.positive.2.2.2.2, entered.2, positive,
              inputs.policy.multiplePositive⟩
            bracketsNonempty := inputs.instrumentRules.bracketsNonempty
            sidesUnique := unique
            evaluatedProjected := evaluated
            stopProtective := by
              unfold Protects at protective
              split <;> simp_all }
          else .error (.validation ⟨"Initial Stop must be on the protective side"⟩)
        else .error (.validation ⟨"evaluated Side must exist in projected positions"⟩)
      else .error (.validation ⟨"projected stress position sides must be unique"⟩)
    else .error (.validation ⟨"stress request financial values must be finite and positive"⟩)
  else .error (.validation ⟨"stress position values must be finite and positive"⟩)

/-! ### The claim -/

def runtimeIdentity : RuntimeIdentity where
  runtimeProfileId := inputs.runtimeProfileId
  strategyGroupId := inputs.signal.strategyGroupId
  strategyVersionId := inputs.signal.strategyVersionId
  eventSpecId := inputs.signal.eventSpecId

def nettingDomain : NettingDomain where
  venueId := inputs.venueId
  accountId := inputs.accountId
  exchangeInstrumentId := inputs.signal.exchangeInstrumentId
  positionSide := inputs.signal.positionSide

def ticketIdentity : TicketIdentity where
  ticketId := buildTicketId inputs.signal.signalEventId inputs.runtimeIdentity inputs.nettingDomain
  exposureEpisodeId := inputs.signal.exposureEpisodeId
  signalEventId := inputs.signal.signalEventId
  runtime := inputs.runtimeIdentity
  nettingDomain := inputs.nettingDomain

/-- The arguments of `freeze_capacity_claim`, under a pending identity and digest. -/
def claimPayload (contract : RegisteredStrategyContract) (levels : EntryLevels)
    (selection : CapacitySizingSelection) (evidence : CrossMarginStressEvidence) :
    CapacityClaimTerms where
  capacityClaimId := .ofSolid "claim:pending" (solid_of_all (by decide)) (by decide)
  ticketIdentity := inputs.ticketIdentity
  ownerPolicyId := inputs.policy.ownerPolicyId
  ownerPolicyVersion := inputs.policy.policyVersion
  runtimeScopeId := inputs.signal.runtimeScopeId
  runtimeScopeVersion := inputs.signal.runtimeScopeVersion
  entryAdmissionSnapshotDigest := inputs.admissionSnapshot.digest
  markPriceAtClaim := inputs.account.markPrice
  selectedLeverage := selection.selectedLeverage
  configuredLeverageAtClaim := selection.configuredLeverage
  leverageChangeRequired := selection.leverageChangeRequired
  digestShape := isSha256Digest_canonicalDigest _
  universeVersionId := inputs.signal.universeVersionId
  universeSemanticDigest := inputs.signal.universeSemanticDigest
  factDigest := inputs.signal.factDigest
  exitPolicyId := inputs.profile.exitProfileId
  exitPolicySemanticHash := inputs.profile.semanticHash
  exitBindingId := some inputs.exitBinding.exitBindingId
  exitBindingSemanticHash := some inputs.exitBinding.bindingSemanticHash
  exitBindingAuthorityVersion := some inputs.currentExitBinding.projectionVersion
  totalWalletBalanceAtClaim := inputs.account.totalWalletBalance
  totalMarginBalanceAtClaim := inputs.account.totalMarginBalance
  marginModeAtClaim := .cross
  exposureFamily := contract.eventId.exposureFamily
  activeFamilyTicketCountAtClaim := inputs.usage.activeFamilyTicketCount
  familyTicketLimit := inputs.familyTicketLimit contract
  maxSameStrategySide := inputs.policy.maxSameStrategySide
  directionalRiskAtStopAtClaim := inputs.usage.directionalRiskAtStop
  maxTicketStopRiskFraction := inputs.policy.maxTicketStopRiskFraction
  maxGrossStopRiskFraction := inputs.policy.maxGrossStopRiskFraction
  directionalStopRiskLimitFraction := inputs.policy.directionalStopRiskLimitFraction
  maxTicketInitialMarginFraction := inputs.policy.maxTicketInitialMarginFraction
  maxGrossInitialMarginUtilization := inputs.policy.maxGrossInitialMarginUtilization
  minMaterializationRatio := inputs.policy.minMaterializationRatio
  minimumStopRiskBudget := selection.minimumStopRiskBudget
  plannedStopRiskBudget := selection.ticketStopRiskBudget
  postFillStopRiskLimit :=
    selection.ticketStopRiskBudget * (1 + inputs.policy.maxPostFillStopRiskOverrunFraction)
  postStopStressMultiple := inputs.policy.postStopStressMultiple
  claimStressProofDigest := evidence.proof.proofDigest
  reservedMargin := selection.reservedMargin
  createdAtMs := inputs.nowMs
  expiresAtMs := min (min inputs.signal.expiresAtMs inputs.admissionSnapshot.validUntilMs)
    inputs.instrumentRules.validUntilMs
  entryReferencePrice := levels.entryPrice
  quantity := selection.quantity
  notional := selection.notional
  riskAtStop := selection.plannedStopRisk
  entryOrderType := inputs.entryOrderType
  entryLimitPrice := if inputs.entryOrderType = .limit then some levels.entryPrice else none
  initialStopPrice := levels.stopPrice
  preTp1ReclaimPrice := levels.preTp1ReclaimPrice
  exposureSessionEndMs := levels.exposureSessionEndMs
  takeProfitPrices := [levels.takeProfitPrice]
  takeProfitQuantities := [selection.tp1Quantity]
  selectionAuthorityId := inputs.signal.selectionAuthorityId
  accountEntryHealthDigest := inputs.accountEntryHealth.decisionDigest
  instrumentEntryHealthDigest := inputs.instrumentEntryHealth.decisionDigest
  instrumentRulesProjectionVersion := inputs.instrumentRules.projectionVersion
  accountCapacityDomainKey := inputs.venueId.text ++ ":" ++ inputs.accountId.text
  leverageDomainKey := inputs.venueId.text ++ ":" ++ inputs.accountId.text ++ ":" ++
    inputs.signal.exchangeInstrumentId.text
  totalInitialMarginAtClaim := inputs.account.totalInitialMargin
  totalMaintenanceMarginAtClaim := inputs.account.totalMaintenanceMargin
  availableMarginAtClaim := inputs.account.availableMargin
  activeTicketCountAtClaim := inputs.usage.activeTicketCount
  remainingSlotsAtClaim := selection.remainingSlots
  activeStrategySideTicketCountAtClaim :=
    inputs.policy.maxSameStrategySide.map fun _ => inputs.usage.activeStrategySideTicketCount
  remainingFamilySlotsAtClaim :=
    inputs.familyTicketLimit contract - inputs.usage.activeFamilyTicketCount
  grossRiskAtStopAtClaim := inputs.usage.grossRiskAtStop
  currentReservedMarginAtClaim := inputs.usage.currentReservedMargin
  maxPostFillStopRiskOverrunFraction := inputs.policy.maxPostFillStopRiskOverrunFraction
  ticketMarginBudget := selection.ticketMarginBudget
  requiredLeverage := selection.requiredLeverage
  exchangeMaxLeverage := inputs.instrumentRules.exchangeMaxLeverage
  crossMarginStressEvidence := evidence
  decisionDigest := "sha256:" ++ String.ofList (List.replicate 64 '0')
  stressProofBound := rfl

/-- The stress evidence of a quantity. -/
def stressEvidence (levels : EntryLevels) (quantity : ℚ) :
    Except Raised CrossMarginStressEvidence := do
  let request ← inputs.stressRequest levels quantity
  demand (evaluateCrossMarginStress request) (.valueError "min() iterable argument is empty")

end CapacityClaimInputs

/-- `build_capacity_claim`. -/
def buildCapacityClaim (inputs : CapacityClaimInputs) : Except Raised CapacityClaimDecision :=
  orRefuse inputs.admission fun _ => do
  let contract ← strategyContractFor inputs.signal.eventSpecId
  orRefuse (inputs.capacity contract) fun _ =>
  orRefuse (inputs.entryLevels contract) fun levels => do
  let request ← inputs.sizingRequest levels
  orRefuse (sizedSelection request) fun selection => do
  let evidence ← inputs.stressEvidence levels selection.quantity
  orRefuse (passedEvidence evidence) fun _ => do
  let claim ← freezeCapacityClaim (inputs.claimPayload contract levels selection evidence)
  return .claimed claim

end TradingKernel
