/-
**`freeze_capacity_claim`: the claim of one Ticket, as it is stored.**

Every amount of the payload is rounded to a stored decimal, what is there to spend down and what is
spent or reserved up. The digest of the rounded payload names the claim, and the validator judges it:
the relations between its amounts, and its agreement with the stress evidence.
-/

import TradingKernel.Application.IssueTicket
import TradingKernel.Domain.EntryAdmission
import TradingKernel.Domain.StressEvaluation

namespace TradingKernel

open Text Guard CanonicalJson

/-! ### The terms of a claim -/

/-- A capacity claim: what its Ticket is made of, and the rest of the evidence it was decided on. -/
structure CapacityClaimTerms extends TicketClaim where
  accountEntryHealthDigest : String
  instrumentEntryHealthDigest : String
  instrumentRulesProjectionVersion : ℤ
  accountCapacityDomainKey : String
  leverageDomainKey : String
  totalInitialMarginAtClaim : ℚ
  totalMaintenanceMarginAtClaim : ℚ
  availableMarginAtClaim : ℚ
  activeTicketCountAtClaim : ℤ
  remainingSlotsAtClaim : ℤ
  activeStrategySideTicketCountAtClaim : Option ℤ
  remainingFamilySlotsAtClaim : ℤ
  grossRiskAtStopAtClaim : ℚ
  currentReservedMarginAtClaim : ℚ
  maxPostFillStopRiskOverrunFraction : ℚ
  ticketMarginBudget : ℚ
  requiredLeverage : ℤ
  exchangeMaxLeverage : ℤ
  crossMarginStressEvidence : CrossMarginStressEvidence
  decisionDigest : String
  stressProofBound : claimStressProofDigest = crossMarginStressEvidence.proof.proofDigest

/-! ### The digest -/

def ExposureFamily.value : ExposureFamily → String
  | .longContinuation => "long_continuation"
  | .openingRange => "opening_range"
  | .rallyFailureShort => "rally_failure_short"

def EntryOrderType.value : EntryOrderType → String
  | .market => "market"
  | .limit => "limit"

def MarginMode.value : MarginMode → String
  | .cross => "cross"
  | .isolated => "isolated"

def RuntimeIdentity.payload (runtime : RuntimeIdentity) : Canonical :=
  .object [("runtime_profile_id", .text runtime.runtimeProfileId),
    ("strategy_group_id", .text runtime.strategyGroupId),
    ("strategy_version_id", .text runtime.strategyVersionId),
    ("event_spec_id", .text runtime.eventSpecId)]

def NettingDomain.payload (domain : NettingDomain) : Canonical :=
  .object [("venue_id", .text domain.venueId), ("account_id", .text domain.accountId),
    ("exchange_instrument_id", .text domain.exchangeInstrumentId),
    ("position_side", .text domain.positionSide.value)]

def TicketIdentity.payload (identity : TicketIdentity) : Canonical :=
  .object [("ticket_id", .text identity.ticketId),
    ("exposure_episode_id", .text identity.exposureEpisodeId),
    ("signal_event_id", .text identity.signalEventId), ("runtime", identity.runtime.payload),
    ("netting_domain", identity.nettingDomain.payload)]

def CrossMarginStressProof.payload (proof : CrossMarginStressProof) : Canonical :=
  .object [("model_id", .text "cross-margin-stop-stress-v1"),
    ("snapshot_digest", .text proof.snapshotDigest),
    ("maintenance_margin_brackets_digest", .text proof.maintenanceMarginBracketsDigest),
    ("status", .text proof.status.value), ("stress_price", .decimal proof.stressPrice),
    ("stress_boundary_clamped_to_zero", .boolean proof.stressBoundaryClampedToZero),
    ("minimum_margin_surplus", .optional .decimal proof.minimumMarginSurplus),
    ("minimum_margin_surplus_price", .optional .decimal proof.minimumMarginSurplusPrice),
    ("evaluated_point_count", .integer proof.evaluatedPointCount),
    ("contradiction_reason", .optional .text proof.contradictionReason),
    ("proof_digest", .text proof.proofDigest)]

def CrossMarginStressEvidence.payload (evidence : CrossMarginStressEvidence) : Canonical :=
  .object [("request", evidence.request.payload), ("proof", evidence.proof.payload)]

namespace CapacityClaimTerms

variable (claim : CapacityClaimTerms)

/-- The fields of the digest that an absent authority leaves out. -/
def optionalFields : List (String × Canonical) :=
  (match claim.selectionAuthorityId with
    | none => []
    | some authority => [("selection_authority_id", .text authority)]) ++
  (if claim.maxSameStrategySide = none ∧ claim.activeStrategySideTicketCountAtClaim = none then []
    else [("max_same_strategy_side", .optional .integer claim.maxSameStrategySide),
      ("active_strategy_side_ticket_count_at_claim",
        .optional .integer claim.activeStrategySideTicketCountAtClaim)]) ++
  (match claim.exitBindingId with
    | none => []
    | some binding => [("exit_binding_id", .text binding),
        ("exit_binding_semantic_hash", .optional .text claim.exitBindingSemanticHash),
        ("exit_binding_authority_version", .optional .integer claim.exitBindingAuthorityVersion)])

/-- The amounts among the fields of the digest. -/
def amountFields : List (String × Canonical) := [
  ("total_wallet_balance_at_claim", .decimal claim.totalWalletBalanceAtClaim),
  ("total_margin_balance_at_claim", .decimal claim.totalMarginBalanceAtClaim),
  ("total_initial_margin_at_claim", .decimal claim.totalInitialMarginAtClaim),
  ("total_maintenance_margin_at_claim", .decimal claim.totalMaintenanceMarginAtClaim),
  ("available_margin_at_claim", .decimal claim.availableMarginAtClaim),
  ("mark_price_at_claim", .decimal claim.markPriceAtClaim),
  ("gross_risk_at_stop_at_claim", .decimal claim.grossRiskAtStopAtClaim),
  ("directional_risk_at_stop_at_claim", .decimal claim.directionalRiskAtStopAtClaim),
  ("current_reserved_margin_at_claim", .decimal claim.currentReservedMarginAtClaim),
  ("max_ticket_stop_risk_fraction", .decimal claim.maxTicketStopRiskFraction),
  ("max_gross_stop_risk_fraction", .decimal claim.maxGrossStopRiskFraction),
  ("directional_stop_risk_limit_fraction", .decimal claim.directionalStopRiskLimitFraction),
  ("max_ticket_initial_margin_fraction", .decimal claim.maxTicketInitialMarginFraction),
  ("max_gross_initial_margin_utilization", .decimal claim.maxGrossInitialMarginUtilization),
  ("min_materialization_ratio", .decimal claim.minMaterializationRatio),
  ("minimum_stop_risk_budget", .decimal claim.minimumStopRiskBudget),
  ("planned_stop_risk_budget", .decimal claim.plannedStopRiskBudget),
  ("max_post_fill_stop_risk_overrun_fraction",
    .decimal claim.maxPostFillStopRiskOverrunFraction),
  ("post_fill_stop_risk_limit", .decimal claim.postFillStopRiskLimit),
  ("post_stop_stress_multiple", .decimal claim.postStopStressMultiple),
  ("ticket_margin_budget", .decimal claim.ticketMarginBudget),
  ("reserved_margin", .decimal claim.reservedMargin),
  ("entry_reference_price", .decimal claim.entryReferencePrice),
  ("quantity", .decimal claim.quantity), ("notional", .decimal claim.notional),
  ("risk_at_stop", .decimal claim.riskAtStop),
  ("entry_limit_price", .optional .decimal claim.entryLimitPrice),
  ("initial_stop_price", .decimal claim.initialStopPrice),
  ("pre_tp1_reclaim_price", .optional .decimal claim.preTp1ReclaimPrice),
  ("take_profit_prices", .array (claim.takeProfitPrices.map .decimal)),
  ("take_profit_quantities", .array (claim.takeProfitQuantities.map .decimal))]

/-- What is digested: the claim without its identity and its digest. -/
def payload : Canonical :=
  .object ([("ticket_identity", claim.ticketIdentity.payload),
    ("owner_policy_id", .text claim.ownerPolicyId),
    ("owner_policy_version", .integer claim.ownerPolicyVersion),
    ("runtime_scope_id", .text claim.runtimeScopeId),
    ("runtime_scope_version", .integer claim.runtimeScopeVersion),
    ("universe_version_id", .text claim.universeVersionId),
    ("universe_semantic_digest", .text claim.universeSemanticDigest),
    ("fact_digest", .text claim.factDigest), ("exit_policy_id", .text claim.exitPolicyId),
    ("exit_policy_semantic_hash", .text claim.exitPolicySemanticHash),
    ("entry_admission_snapshot_digest", .text claim.entryAdmissionSnapshotDigest),
    ("account_entry_health_digest", .text claim.accountEntryHealthDigest),
    ("instrument_entry_health_digest", .text claim.instrumentEntryHealthDigest),
    ("instrument_rules_projection_version", .integer claim.instrumentRulesProjectionVersion),
    ("account_capacity_domain_key", .text claim.accountCapacityDomainKey),
    ("leverage_domain_key", .text claim.leverageDomainKey),
    ("position_mode_at_claim", .text "independent_sides"),
    ("margin_mode_at_claim", .text claim.marginModeAtClaim.value),
    ("active_ticket_count_at_claim", .integer claim.activeTicketCountAtClaim),
    ("remaining_slots_at_claim", .integer claim.remainingSlotsAtClaim),
    ("exposure_family", .text claim.exposureFamily.value),
    ("active_family_ticket_count_at_claim", .integer claim.activeFamilyTicketCountAtClaim),
    ("family_ticket_limit", .integer claim.familyTicketLimit),
    ("remaining_family_slots_at_claim", .integer claim.remainingFamilySlotsAtClaim),
    ("required_leverage", .integer claim.requiredLeverage),
    ("selected_leverage", .integer claim.selectedLeverage),
    ("configured_leverage_at_claim", .integer claim.configuredLeverageAtClaim),
    ("leverage_change_required", .boolean claim.leverageChangeRequired),
    ("exchange_max_leverage", .integer claim.exchangeMaxLeverage),
    ("cross_margin_stress_evidence", claim.crossMarginStressEvidence.payload),
    ("created_at_ms", .integer claim.createdAtMs), ("expires_at_ms", .integer claim.expiresAtMs),
    ("entry_order_type", .text claim.entryOrderType.value),
    ("exposure_session_end_ms", .optional .integer claim.exposureSessionEndMs)] ++
    claim.amountFields ++ claim.optionalFields)

/-- `build_capacity_claim_digest`. -/
def buildCapacityClaimDigest : String := canonicalDigest claim.payload

/-- The identity of a claim: the first digits of its digest. -/
def claimId : NonBlankText :=
  digestIdentity "claim:" (render claim.payload) 32 (solid_of_all (by decide)) (by decide)

/-! ### Storage -/

/-- The amounts that are rounded for storage. -/
def storedAmounts : List ℚ :=
  [claim.totalWalletBalanceAtClaim, claim.totalMarginBalanceAtClaim,
    claim.availableMarginAtClaim, claim.ticketMarginBudget, claim.maxTicketStopRiskFraction,
    claim.maxGrossStopRiskFraction, claim.maxTicketInitialMarginFraction,
    claim.maxGrossInitialMarginUtilization, claim.postStopStressMultiple,
    claim.maxPostFillStopRiskOverrunFraction, claim.quantity, claim.totalInitialMarginAtClaim,
    claim.totalMaintenanceMarginAtClaim, claim.grossRiskAtStopAtClaim,
    claim.directionalRiskAtStopAtClaim, claim.currentReservedMarginAtClaim,
    claim.minimumStopRiskBudget, claim.plannedStopRiskBudget, claim.postFillStopRiskLimit,
    claim.reservedMargin, claim.notional, claim.riskAtStop, claim.markPriceAtClaim,
    claim.entryReferencePrice, claim.initialStopPrice] ++
  claim.entryLimitPrice.toList ++ claim.takeProfitPrices ++ claim.takeProfitQuantities

/-- The claim with its amounts rounded. -/
def rounded : CapacityClaimTerms :=
  { claim with
    totalWalletBalanceAtClaim := quantizeStorageDecimal claim.totalWalletBalanceAtClaim
    totalMarginBalanceAtClaim := quantizeStorageDecimal claim.totalMarginBalanceAtClaim
    availableMarginAtClaim := quantizeStorageDecimal claim.availableMarginAtClaim
    ticketMarginBudget := quantizeStorageDecimal claim.ticketMarginBudget
    maxTicketStopRiskFraction := quantizeStorageDecimal claim.maxTicketStopRiskFraction
    maxGrossStopRiskFraction := quantizeStorageDecimal claim.maxGrossStopRiskFraction
    maxTicketInitialMarginFraction :=
      quantizeStorageDecimal claim.maxTicketInitialMarginFraction
    maxGrossInitialMarginUtilization :=
      quantizeStorageDecimal claim.maxGrossInitialMarginUtilization
    postStopStressMultiple := quantizeStorageDecimal claim.postStopStressMultiple
    maxPostFillStopRiskOverrunFraction :=
      quantizeStorageDecimal claim.maxPostFillStopRiskOverrunFraction
    quantity := quantizeStorageDecimal claim.quantity
    totalInitialMarginAtClaim := quantizeStorageDecimalUp claim.totalInitialMarginAtClaim
    totalMaintenanceMarginAtClaim :=
      quantizeStorageDecimalUp claim.totalMaintenanceMarginAtClaim
    grossRiskAtStopAtClaim := quantizeStorageDecimalUp claim.grossRiskAtStopAtClaim
    directionalRiskAtStopAtClaim := quantizeStorageDecimalUp claim.directionalRiskAtStopAtClaim
    currentReservedMarginAtClaim := quantizeStorageDecimalUp claim.currentReservedMarginAtClaim
    minimumStopRiskBudget := quantizeStorageDecimalUp claim.minimumStopRiskBudget
    plannedStopRiskBudget := quantizeStorageDecimalUp claim.plannedStopRiskBudget
    postFillStopRiskLimit := quantizeStorageDecimalUp claim.postFillStopRiskLimit
    reservedMargin := quantizeStorageDecimalUp claim.reservedMargin
    notional := quantizeStorageDecimalUp claim.notional
    riskAtStop := quantizeStorageDecimalUp claim.riskAtStop
    markPriceAtClaim := quantizeStorageDecimal claim.markPriceAtClaim
    entryReferencePrice := quantizeStorageDecimal claim.entryReferencePrice
    initialStopPrice := quantizeStorageDecimal claim.initialStopPrice
    entryLimitPrice := claim.entryLimitPrice.map quantizeStorageDecimal
    takeProfitPrices := claim.takeProfitPrices.map quantizeStorageDecimal
    takeProfitQuantities := claim.takeProfitQuantities.map quantizeStorageDecimal }

/-- `_normalize_claim_decimals_for_storage`. -/
def normalizeClaimDecimalsForStorage : Except Raised CapacityClaimTerms := do
  refuse (∃ value ∈ claim.storedAmounts, value < 0)
    (.valueError "CapacityClaim financial values must be finite and nonnegative")
  return claim.rounded

/-! ### The validator -/

/-- The digests that have to be canonical. -/
def digests : List String :=
  [claim.universeSemanticDigest, claim.factDigest, claim.exitPolicySemanticHash,
    claim.entryAdmissionSnapshotDigest, claim.accountEntryHealthDigest,
    claim.instrumentEntryHealthDigest, claim.decisionDigest]

def positiveFinancials : List ℚ :=
  [claim.totalWalletBalanceAtClaim, claim.totalMarginBalanceAtClaim, claim.availableMarginAtClaim,
    claim.markPriceAtClaim, claim.maxTicketStopRiskFraction, claim.maxGrossStopRiskFraction,
    claim.directionalStopRiskLimitFraction, claim.maxTicketInitialMarginFraction,
    claim.maxGrossInitialMarginUtilization, claim.minMaterializationRatio,
    claim.plannedStopRiskBudget, claim.postFillStopRiskLimit, claim.postStopStressMultiple,
    claim.ticketMarginBudget, claim.reservedMargin, claim.entryReferencePrice, claim.quantity,
    claim.notional, claim.initialStopPrice]

def nonnegativeFinancials : List ℚ :=
  [claim.totalInitialMarginAtClaim, claim.totalMaintenanceMarginAtClaim,
    claim.grossRiskAtStopAtClaim, claim.directionalRiskAtStopAtClaim,
    claim.currentReservedMarginAtClaim]

/-- The field validators. -/
def fieldCheck : Except Raised Unit := do
  refuse (∃ digest ∈ claim.digests, ¬ IsSha256Digest digest)
    (.validation ⟨"CapacityClaim digests must be canonical sha256 values"⟩)
  refuse (∃ hash ∈ claim.exitBindingSemanticHash, ¬ IsSha256Digest hash)
    (.validation ⟨"CapacityClaim Binding hash must be canonical"⟩)
  refuse (∃ version ∈ claim.exitBindingAuthorityVersion, version ≤ 0)
    (.validation ⟨"CapacityClaim Binding version must be positive"⟩)
  refuse (∃ value ∈ claim.positiveFinancials, value ≤ 0)
    (.validation ⟨"CapacityClaim financial values must be positive"⟩)
  refuse (∃ value ∈ claim.nonnegativeFinancials, value < 0)
    (.validation ⟨"CapacityClaim account margin facts cannot be negative"⟩)
  refuse (claim.riskAtStop < 0) (.validation ⟨"CapacityClaim risk cannot be negative"⟩)
  refuse (∃ price ∈ claim.preTp1ReclaimPrice, price ≤ 0)
    (.validation ⟨"CapacityClaim pre-TP1 reclaim must be positive"⟩)
  refuse (∃ count ∈ [claim.activeTicketCountAtClaim, claim.activeFamilyTicketCountAtClaim,
      claim.remainingFamilySlotsAtClaim], count < 0)
    (.validation ⟨"CapacityClaim active count cannot be negative"⟩)
  refuse (∃ count ∈ [claim.remainingSlotsAtClaim, claim.familyTicketLimit,
      claim.requiredLeverage, claim.selectedLeverage, claim.configuredLeverageAtClaim,
      claim.exchangeMaxLeverage], count ≤ 0)
    (.validation ⟨"CapacityClaim integer evidence must be positive"⟩)

/-- The authorities of the claim: its side limit, its binding, its versions and times, its slots. -/
def authorityCheck : Except Raised Unit := do
  refuse (claim.maxSameStrategySide.isSome ≠ claim.activeStrategySideTicketCountAtClaim.isSome)
    (.validation ⟨"strategy-side Claim evidence must be all-null or all-present"⟩)
  refuse (∃ limit ∈ claim.maxSameStrategySide,
      ∃ count ∈ claim.activeStrategySideTicketCountAtClaim, limit ≤ 0 ∨ count < 0 ∨ limit ≤ count)
    (.validation ⟨"strategy-side Claim count must fit its frozen limit"⟩)
  refuse (claim.exitBindingId.isSome ≠ claim.exitBindingSemanticHash.isSome ∨
      claim.exitBindingId.isSome ≠ claim.exitBindingAuthorityVersion.isSome)
    (.validation ⟨"CapacityClaim Binding lineage must be all-null or all-present"⟩)
  refuse (claim.ownerPolicyVersion ≤ 0 ∨ claim.runtimeScopeVersion ≤ 0 ∨
      claim.instrumentRulesProjectionVersion ≤ 0 ∨ claim.createdAtMs ≤ 0 ∨
      claim.expiresAtMs ≤ claim.createdAtMs)
    (.validation ⟨"CapacityClaim authority and time must be positive"⟩)
  refuse (claim.remainingFamilySlotsAtClaim ≠
      claim.familyTicketLimit - claim.activeFamilyTicketCountAtClaim)
    (.validation ⟨"CapacityClaim Family slot evidence differs"⟩)

/-- The order and the legs of its exit. -/
def orderCheck : Except Raised Unit := do
  refuse (claim.entryOrderType = .market ∧ claim.entryLimitPrice ≠ none)
    (.validation ⟨"market CapacityClaim forbids a limit price"⟩)
  refuse (claim.entryOrderType = .limit ∧ ∀ price ∈ claim.entryLimitPrice, price ≤ 0)
    (.validation ⟨"limit CapacityClaim requires a positive limit price"⟩)
  refuse (claim.preTp1ReclaimPrice.isSome ≠ claim.exposureSessionEndMs.isSome)
    (.validation ⟨"CapacityClaim pre-TP1 plan fields must be paired"⟩)
  refuse (∃ sessionEnd ∈ claim.exposureSessionEndMs, sessionEnd ≤ 0)
    (.validation ⟨"CapacityClaim Session end must be positive"⟩)
  refuse (claim.takeProfitPrices.length ≠ claim.takeProfitQuantities.length)
    (.validation ⟨"CapacityClaim take-profit legs must align"⟩)
  refuse (∃ value ∈ claim.takeProfitPrices, value ≤ 0)
    (.validation ⟨"CapacityClaim take-profit prices must be positive"⟩)
  refuse (∃ value ∈ claim.takeProfitQuantities, value ≤ 0)
    (.validation ⟨"CapacityClaim take-profit quantities must be positive"⟩)
  refuse (claim.quantity ≤ claim.takeProfitQuantities.sum)
    (.validation ⟨"CapacityClaim take-profit legs must preserve a runner"⟩)
  refuse (claim.exchangeMaxLeverage < claim.selectedLeverage)
    (.validation ⟨"CapacityClaim selected leverage exceeds exchange maximum"⟩)

def remainingGrossRisk : ℚ :=
  claim.totalWalletBalanceAtClaim * claim.maxGrossStopRiskFraction - claim.grossRiskAtStopAtClaim

def remainingDirectionalRisk : ℚ :=
  claim.totalWalletBalanceAtClaim * claim.directionalStopRiskLimitFraction -
    claim.directionalRiskAtStopAtClaim

def expectedMinimum : ℚ :=
  claim.totalWalletBalanceAtClaim * claim.maxTicketStopRiskFraction *
    claim.minMaterializationRatio

def remainingGrossMargin : ℚ :=
  claim.totalMarginBalanceAtClaim * claim.maxGrossInitialMarginUtilization -
    max claim.totalInitialMarginAtClaim claim.currentReservedMarginAtClaim

/-- The limits of risk and margin. -/
def limitCheck : Except Raised Unit := do
  refuse (claim.plannedStopRiskBudget < claim.riskAtStop)
    (.validation ⟨"CapacityClaim stop risk exceeds its planned budget"⟩)
  refuse (claim.postFillStopRiskLimit < claim.plannedStopRiskBudget)
    (.validation ⟨"CapacityClaim post-fill limit undercuts planned risk"⟩)
  refuse (claim.totalWalletBalanceAtClaim * claim.maxTicketStopRiskFraction <
      claim.plannedStopRiskBudget)
    (.validation ⟨"CapacityClaim exceeds the per-Ticket stop-risk limit"⟩)
  refuse (claim.remainingGrossRisk < claim.plannedStopRiskBudget)
    (.validation ⟨"CapacityClaim exceeds remaining gross stop risk"⟩)
  refuse (claim.remainingDirectionalRisk < claim.plannedStopRiskBudget)
    (.validation ⟨"CapacityClaim exceeds remaining directional stop risk"⟩)
  refuse (claim.minimumStopRiskBudget ≠ claim.expectedMinimum)
    (.validation ⟨"CapacityClaim minimum materialization differs"⟩)
  refuse (claim.riskAtStop < claim.minimumStopRiskBudget)
    (.validation ⟨"CapacityClaim is below minimum materialization"⟩)
  refuse (claim.totalMarginBalanceAtClaim * claim.maxTicketInitialMarginFraction <
      claim.ticketMarginBudget)
    (.validation ⟨"CapacityClaim exceeds the per-Ticket margin limit"⟩)
  refuse (claim.ticketMarginBudget < claim.reservedMargin)
    (.validation ⟨"CapacityClaim reserved margin exceeds its frozen ticket budget"⟩)
  refuse (claim.remainingGrossMargin < claim.ticketMarginBudget)
    (.validation ⟨"CapacityClaim exceeds remaining gross margin"⟩)

/-- The evidence was made on other facts than the claim's. -/
def factsDiffer (request : CrossMarginStressRequest) : Prop :=
  request.accountSnapshot.totalWalletBalance ≠ claim.totalWalletBalanceAtClaim ∨
    request.accountSnapshot.totalMarginBalance ≠ claim.totalMarginBalanceAtClaim ∨
    request.accountSnapshot.totalInitialMargin ≠ claim.totalInitialMarginAtClaim ∨
    request.accountSnapshot.totalMaintenanceMargin ≠ claim.totalMaintenanceMarginAtClaim ∨
    request.accountSnapshot.availableMargin ≠ claim.availableMarginAtClaim ∨
    request.accountSnapshot.markPrice ≠ claim.markPriceAtClaim ∨
    request.accountSnapshot.configuredLeverage ≠ claim.configuredLeverageAtClaim ∨
    request.referenceEntryPrice ≠ claim.entryReferencePrice ∨
    request.initialStopPrice ≠ claim.initialStopPrice

instance (request : CrossMarginStressRequest) : Decidable (claim.factsDiffer request) :=
  inferInstanceAs (Decidable (_ ∨ _))

/-- The stress evidence is that of the claim. -/
def evidenceCheck : Except Raised Unit := do
  let evidence := claim.crossMarginStressEvidence
  let domain := claim.ticketIdentity.nettingDomain
  refuse (evidence.proof.status ≠ .passed)
    (.validation ⟨"CapacityClaim requires a passed stress proof"⟩)
  refuse (evidence.request.postStopStressMultiple ≠ claim.postStopStressMultiple)
    (.validation ⟨"CapacityClaim stress proof differs from policy"⟩)
  refuse (evidence.request.evaluatedSide ≠ domain.positionSide)
    (.validation ⟨"CapacityClaim stress proof differs from Ticket Side"⟩)
  refuse (evidence.request.accountSnapshot.exchangeInstrumentId ≠ domain.exchangeInstrumentId)
    (.validation ⟨"CapacityClaim stress proof differs from instrument"⟩)
  refuse (claim.factsDiffer evidence.request)
    (.validation ⟨"CapacityClaim stress proof differs from Claim facts"⟩)
  let target := evidence.request.projectedInstrumentPositions.find? fun position =>
    position.positionSide = domain.positionSide
  refuse (∀ position ∈ target, position.quantity ≠ claim.quantity ∨
      position.averageEntryPrice ≠ claim.entryReferencePrice)
    (.validation ⟨"CapacityClaim stress projection differs from sizing"⟩)

/-- The claim is named by its digest. -/
def identityCheck : Except Raised Unit := do
  refuse (claim.buildCapacityClaimDigest ≠ claim.decisionDigest)
    (.validation ⟨"CapacityClaim decision digest differs from its payload"⟩)
  refuse (claim.capacityClaimId ≠ claim.claimId)
    (.validation ⟨"CapacityClaim identity differs from its decision digest"⟩)

/-- `_validate_claim`, after the field validators. -/
def check : Except Raised Unit := do
  claim.fieldCheck
  claim.authorityCheck
  claim.orderCheck
  claim.limitCheck
  claim.evidenceCheck
  claim.identityCheck

/-- The claim under its digest. -/
def identified : CapacityClaimTerms :=
  { claim with
    capacityClaimId := claim.claimId
    decisionDigest := claim.buildCapacityClaimDigest }

end CapacityClaimTerms

/-- A claim that its validator accepts. -/
structure FrozenCapacityClaim extends CapacityClaimTerms where
  valid : toCapacityClaimTerms.check = .ok ()

/-- `freeze_capacity_claim`, on the payload under its pending identity and digest. -/
def freezeCapacityClaim (payload : CapacityClaimTerms) : Except Raised FrozenCapacityClaim := do
  let stored ← payload.normalizeClaimDecimalsForStorage
  certify stored.identified.check fun valid => ⟨stored.identified, valid⟩

end TradingKernel
