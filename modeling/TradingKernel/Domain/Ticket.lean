/-
**The Trade Ticket: one immutable execution decision, valid by construction.**

`TicketTerms` are the fields of a Ticket after their own validators; `TicketTerms.Valid` is what the
remaining validators demand of them, and a `TradeTicket` is terms that are valid.
-/

import Mathlib.Algebra.Order.Ring.Rat
import TradingKernel.Domain.Identities

namespace TradingKernel

open Text

inductive ExposureFamily where
  | longContinuation
  | openingRange
  | rallyFailureShort
  deriving DecidableEq, Repr

inductive EntryOrderType where
  | market
  | limit
  deriving DecidableEq, Repr

inductive TicketStatus where
  | issued
  | expiredBeforeSubmit
  | leverageRejected
  | entryRejected
  | entryReconciledAbsent
  | terminal
  deriving DecidableEq, Repr

/-- The fields of a Ticket. -/
structure TicketTerms where
  identity : TicketIdentity
  ownerPolicyId : NonBlankText
  ownerPolicyVersion : ℤ
  runtimeScopeId : NonBlankText
  runtimeScopeVersion : ℤ
  universeVersionId : NonBlankText
  universeSemanticDigest : String
  factDigest : String
  exposureFamily : ExposureFamily
  activeFamilyTicketCountAtClaim : ℤ
  familyTicketLimit : ℤ
  directionalRiskAtStopAtClaim : ℚ
  directionalStopRiskLimitFraction : ℚ
  minMaterializationRatio : ℚ
  minimumStopRiskBudget : ℚ
  exitPolicyId : NonBlankText
  exitPolicySemanticHash : String
  exitBindingId : Option NonBlankText
  exitBindingSemanticHash : Option String
  exitBindingAuthorityVersion : Option ℤ
  capacityClaimId : NonBlankText
  createdAtMs : ℤ
  expiresAtMs : ℤ
  entryReferencePrice : ℚ
  quantity : ℚ
  notional : ℚ
  plannedStopRiskBudget : ℚ
  postFillStopRiskLimit : ℚ
  selectedLeverage : ℤ
  leverageChangeRequired : Bool
  reservedMargin : ℚ
  riskReservationBasis : NonBlankText
  postStopStressMultiple : ℚ
  claimStressProofDigest : String
  riskAtStop : ℚ
  entryOrderType : EntryOrderType
  entryLimitPrice : Option ℚ
  initialStopPrice : ℚ
  preTp1ReclaimPrice : Option ℚ
  exposureSessionEndMs : Option ℤ
  takeProfitPrices : List ℚ
  takeProfitQuantities : List ℚ
  status : TicketStatus
  selectionAuthorityId : Option NonBlankText

namespace TicketTerms

/-- The financial values that have to be positive. -/
def positiveDecimals (terms : TicketTerms) : List ℚ :=
  [terms.quantity, terms.notional, terms.plannedStopRiskBudget, terms.postFillStopRiskLimit,
    terms.reservedMargin, terms.entryReferencePrice, terms.initialStopPrice,
    terms.postStopStressMultiple, terms.directionalStopRiskLimitFraction,
    terms.minMaterializationRatio, terms.minimumStopRiskBudget]

/-- The digests that have to be exact SHA-256 identities. -/
def digests (terms : TicketTerms) : List String :=
  [terms.factDigest, terms.universeSemanticDigest, terms.claimStressProofDigest,
    terms.exitPolicySemanticHash] ++ terms.exitBindingSemanticHash.toList

/-- The field validators: signs of numbers and shapes of digests. -/
def FieldsValid (terms : TicketTerms) : Prop :=
  (∀ value ∈ terms.positiveDecimals, 0 < value) ∧
  (∀ digest ∈ terms.digests, IsSha256Digest digest) ∧
  (∀ version ∈ terms.exitBindingAuthorityVersion.toList, 0 < version) ∧
  0 < terms.ownerPolicyVersion ∧ 0 < terms.runtimeScopeVersion ∧
  0 ≤ terms.riskAtStop ∧ 0 ≤ terms.directionalRiskAtStopAtClaim ∧
  (∀ price ∈ terms.preTp1ReclaimPrice.toList, 0 < price) ∧
  0 < terms.selectedLeverage ∧ 0 ≤ terms.activeFamilyTicketCountAtClaim ∧
  0 < terms.familyTicketLimit ∧
  (∀ price ∈ terms.takeProfitPrices, 0 < price) ∧
  (∀ quantity ∈ terms.takeProfitQuantities, 0 < quantity)

instance (terms : TicketTerms) : Decidable terms.FieldsValid := by
  delta FieldsValid
  exact inferInstance

/-- The binding lineage is all-null or all-present. -/
def BindingLineageWhole (terms : TicketTerms) : Prop :=
  terms.exitBindingId.isSome = terms.exitBindingSemanticHash.isSome ∧
    terms.exitBindingId.isSome = terms.exitBindingAuthorityVersion.isSome

/-- A limit entry has a positive limit price, and a market entry has none. -/
def OrderShapeValid (terms : TicketTerms) : Prop :=
  match terms.entryOrderType with
  | .limit => ∃ price ∈ terms.entryLimitPrice.toList, 0 < price
  | .market => terms.entryLimitPrice = none

instance (terms : TicketTerms) : Decidable terms.OrderShapeValid := by
  delta OrderShapeValid
  cases terms.entryOrderType <;> exact inferInstance

/-- The model validator: deadline, order shape, exit legs, risk, family and session plan. -/
def ShapeValid (terms : TicketTerms) : Prop :=
  terms.BindingLineageWhole ∧
  terms.createdAtMs < terms.expiresAtMs ∧
  terms.OrderShapeValid ∧
  terms.takeProfitPrices.length = terms.takeProfitQuantities.length ∧
  terms.takeProfitQuantities.sum < terms.quantity ∧
  terms.riskAtStop ≤ terms.plannedStopRiskBudget ∧
  terms.plannedStopRiskBudget ≤ terms.postFillStopRiskLimit ∧
  terms.activeFamilyTicketCountAtClaim < terms.familyTicketLimit ∧
  terms.minimumStopRiskBudget ≤ terms.riskAtStop ∧
  terms.preTp1ReclaimPrice.isSome = terms.exposureSessionEndMs.isSome ∧
  (∀ sessionEnd ∈ terms.exposureSessionEndMs.toList, 0 < sessionEnd)

instance (terms : TicketTerms) : Decidable terms.ShapeValid := by
  delta ShapeValid BindingLineageWhole
  exact inferInstance

end TicketTerms

/-- The complete decision consumed by the trading kernel. -/
structure TradeTicket extends TicketTerms where
  fieldsValid : toTicketTerms.FieldsValid
  shapeValid : toTicketTerms.ShapeValid

namespace TradeTicket

variable (ticket : TradeTicket)

theorem positiveDecimal {value : ℚ} (member : value ∈ ticket.positiveDecimals) : 0 < value :=
  ticket.fieldsValid.1 value member

theorem quantity_pos : 0 < ticket.quantity :=
  ticket.positiveDecimal (by simp [TicketTerms.positiveDecimals])

theorem initialStopPrice_pos : 0 < ticket.initialStopPrice :=
  ticket.positiveDecimal (by simp [TicketTerms.positiveDecimals])

theorem plannedStopRiskBudget_pos : 0 < ticket.plannedStopRiskBudget :=
  ticket.positiveDecimal (by simp [TicketTerms.positiveDecimals])

theorem postFillStopRiskLimit_pos : 0 < ticket.postFillStopRiskLimit :=
  ticket.positiveDecimal (by simp [TicketTerms.positiveDecimals])

theorem notional_pos : 0 < ticket.notional :=
  ticket.positiveDecimal (by simp [TicketTerms.positiveDecimals])

theorem reservedMargin_pos : 0 < ticket.reservedMargin :=
  ticket.positiveDecimal (by simp [TicketTerms.positiveDecimals])

theorem riskAtStop_nonneg : 0 ≤ ticket.riskAtStop := ticket.fieldsValid.2.2.2.2.2.1

theorem limit_covers_budget : ticket.plannedStopRiskBudget ≤ ticket.postFillStopRiskLimit :=
  ticket.shapeValid.2.2.2.2.2.2.1

theorem takeProfitQuantity_pos {quantity : ℚ} (leg : quantity ∈ ticket.takeProfitQuantities) :
    0 < quantity :=
  ticket.fieldsValid.2.2.2.2.2.2.2.2.2.2.2.2 quantity leg

/-- Every exit leg has a price, and every price a leg. -/
theorem takeProfit_aligned :
    ticket.takeProfitPrices.length = ticket.takeProfitQuantities.length :=
  ticket.shapeValid.2.2.2.1

end TradeTicket

end TradingKernel
