/-
**`decide_unknown_recovery`: what a venue lookup settles of a command with an unknown outcome.**

A lookup finds an order, finds none, or fails. For a command that places an order, an order that is
found is compared with the command in all its parts; for a cancel, with the target it names. That
nothing was found counts as absence only from the visibility deadline on, and only without evidence
of a submission.
-/

import Mathlib.Algebra.Order.Ring.Rat
import TradingKernel.Domain.Commands

namespace TradingKernel

open Text Guard

/-! ### Truth of the venue -/

/-- An order as a lookup returns it. -/
structure VenueOrderTruth where
  exchangeOrderId : NonBlankText
  venueClientOrderId : NonBlankText
  exchangeInstrumentId : NonBlankText
  positionSide : PositionSide
  orderSide : OrderSide
  quantity : ℚ
  reduceOnly : Bool
  orderNamespace : OrderNamespace
  isOpen : Bool
  positive : 0 < quantity

/-- A visible lookup has one order, an absent one has neither order nor reason, and a failed one has
its reason. -/
inductive VenueLookup where
  | visible (order : VenueOrderTruth)
  | absent
  | lookupFailed (reason : String) (given : ¬ Blank reason)

/-- The facts of one lookup. -/
structure VenueTruthSnapshot where
  lookup : VenueLookup
  positionQuantity : ℚ
  matchingFillQuantity : ℚ
  regularOpenClientOrderIds : List String
  conditionalOpenClientOrderIds : List String
  observedAtMs : ℤ
  nonnegative : 0 ≤ positionQuantity ∧ 0 ≤ matchingFillQuantity
  observed : 0 < observedAtMs

/-! ### Decisions -/

inductive UnknownRecoveryStatus where
  | pendingVisibility
  | reconciledSubmitted
  | reconciledAbsent
  | cancelTargetStillOpen
  | identityContradiction
  | lookupFailed
  deriving DecidableEq, Repr

/-- A decision: a submitted command has its order id, every other decision its reason. -/
structure UnknownRecoveryDecision where
  status : UnknownRecoveryStatus
  observedAtMs : ℤ
  exchangeOrderId : Option NonBlankText := none
  reason : Option String := none
  named : exchangeOrderId.isSome = true ↔ status = .reconciledSubmitted
  reasoned : if status = .reconciledSubmitted then reason = none
    else ∃ given, reason = some given ∧ ¬ Blank given

/-- What the decision refuses to look at. -/
inductive RecoveryRefusal where
  | valueError (message : String)
  | typeError (message : String)
  deriving DecidableEq, Repr

/-- A decision with a reason. -/
def decision (status : UnknownRecoveryStatus) (truth : VenueTruthSnapshot) (reason : String)
    (given : ¬ Blank reason := by decide) (other : status ≠ .reconciledSubmitted := by decide) :
    UnknownRecoveryDecision where
  status := status
  observedAtMs := truth.observedAtMs
  reason := some reason
  named := by simp [other]
  reasoned := by simp [other, given]

/-- The decision that an order was submitted. -/
def submittedAs (order : VenueOrderTruth) (truth : VenueTruthSnapshot) :
    UnknownRecoveryDecision where
  status := .reconciledSubmitted
  observedAtMs := truth.observedAtMs
  exchangeOrderId := some order.exchangeOrderId
  named := by simp
  reasoned := by simp

/-- How an order that was found differs from the one that was looked for. -/
inductive IdentityContradiction where
  | clientOrderId
  | instrument
  | positionSide
  | commandKind
  | orderSide
  | quantity
  | reduceOnly
  | targetOrderId
  | targetNamespace
  deriving DecidableEq, Repr

def IdentityContradiction.reason : IdentityContradiction → String
  | clientOrderId => "client_order_id_mismatch"
  | instrument => "instrument_mismatch"
  | positionSide => "position_side_mismatch"
  | commandKind => "command_kind_not_order_lookup"
  | orderSide => "order_side_mismatch"
  | quantity => "quantity_mismatch"
  | reduceOnly => "reduce_only_mismatch"
  | targetOrderId => "cancel_target_order_id_mismatch"
  | targetNamespace => "cancel_target_order_namespace_mismatch"

theorem IdentityContradiction.given (contradiction : IdentityContradiction) :
    ¬ Blank contradiction.reason := by
  cases contradiction <;> decide

/-- The first difference between a command and the order that was found for it. -/
def identityContradiction (command : ExchangeCommand) (order : VenueOrderTruth) :
    Option IdentityContradiction :=
  let domain := command.ticketIdentity.nettingDomain
  if some order.venueClientOrderId ≠ command.venueClientOrderId then some .clientOrderId
  else if order.exchangeInstrumentId ≠ domain.exchangeInstrumentId then some .instrument
  else if order.positionSide ≠ domain.positionSide then some .positionSide
  else
    match command.payload with
    | .order payload =>
        if order.orderSide ≠ payload.side then some .orderSide
        else if order.quantity ≠ payload.quantity then some .quantity
        else if order.reduceOnly ≠ payload.reduceOnly then some .reduceOnly
        else none
    | _ => some .commandKind

/-- The first difference between a cancel's target and the order that was found for it. -/
def targetContradiction (command : ExchangeCommand) (payload : CancelCommandPayload)
    (order : VenueOrderTruth) : Option IdentityContradiction :=
  let domain := command.ticketIdentity.nettingDomain
  if order.exchangeOrderId ≠ payload.exchangeOrderId then some .targetOrderId
  else if order.exchangeInstrumentId ≠ domain.exchangeInstrumentId then some .instrument
  else if order.positionSide ≠ domain.positionSide then some .positionSide
  else if order.orderNamespace ≠ payload.orderNamespace then some .targetNamespace
  else none

/-- Nothing was found, but something shows that the command reached the venue. -/
def submissionEvidence (command : ExchangeCommand) (truth : VenueTruthSnapshot) : Prop :=
  command.kind = .entry ∧ 0 < truth.positionQuantity ∨ 0 < truth.matchingFillQuantity ∨
    (∃ client ∈ command.venueClientOrderId, client.text ∈ truth.regularOpenClientOrderIds) ∨
    ∃ client ∈ command.venueClientOrderId, client.text ∈ truth.conditionalOpenClientOrderIds

instance (command : ExchangeCommand) (truth : VenueTruthSnapshot) :
    Decidable (submissionEvidence command truth) :=
  inferInstanceAs (Decidable (_ ∨ _))

/-- The decision about a command that places an order. -/
def decideOrderRecovery (command : ExchangeCommand) (truth : VenueTruthSnapshot)
    (visibilityDeadlineMs : ℤ) : UnknownRecoveryDecision :=
  match truth.lookup with
  | .visible order =>
      match identityContradiction command order with
      | some contradiction =>
          decision .identityContradiction truth contradiction.reason contradiction.given
      | none => submittedAs order truth
  | _ =>
      if submissionEvidence command truth then
        decision .pendingVisibility truth "submission_evidence_without_order_identity"
      else if truth.observedAtMs < visibilityDeadlineMs then
        decision .pendingVisibility truth "visibility_window_open"
      else decision .reconciledAbsent truth "authoritative_absence_after_visibility_window"

/-- The decision about a cancel. -/
def decideCancelRecovery (command : ExchangeCommand) (payload : CancelCommandPayload)
    (truth : VenueTruthSnapshot) (visibilityDeadlineMs : ℤ) : UnknownRecoveryDecision :=
  match truth.lookup with
  | .visible order =>
      match targetContradiction command payload order with
      | some contradiction =>
          decision .identityContradiction truth contradiction.reason contradiction.given
      | none =>
          if order.isOpen = false then
            decision .reconciledAbsent truth "cancel_target_terminal"
          else if visibilityDeadlineMs ≤ truth.observedAtMs then
            decision .cancelTargetStillOpen truth
              "cancel_target_still_open_after_visibility_window"
          else decision .pendingVisibility truth "cancel_target_still_visible"
  | _ =>
      if truth.observedAtMs < visibilityDeadlineMs then
        decision .pendingVisibility truth "visibility_window_open"
      else decision .reconciledAbsent truth "cancel_target_absent_after_visibility_window"

def decideUnknownRecovery (command : ExchangeCommand) (truth : VenueTruthSnapshot)
    (visibilityDeadlineMs : ℤ) : Except RecoveryRefusal UnknownRecoveryDecision := do
  refuse (command.status ≠ .outcomeUnknown)
    (.valueError "only unknown commands may enter venue-truth recovery")
  refuse (visibilityDeadlineMs ≤ command.createdAtMs)
    (.valueError "visibility deadline must follow command creation")
  match truth.lookup with
  | .lookupFailed reason given => return decision .lookupFailed truth reason given
  | _ =>
      if command.kind = .cancelOrder then
        match command.payload with
        | .cancel payload =>
            return decideCancelRecovery command payload truth visibilityDeadlineMs
        | _ => .error (.typeError "cancel recovery requires exact target order identity")
      else return decideOrderRecovery command truth visibilityDeadlineMs

/-! ### What a decision rests on -/

section Decided

variable {command : ExchangeCommand} {truth : VenueTruthSnapshot} {visibilityDeadlineMs : ℤ}
  {order : VenueOrderTruth} {payload : CancelCommandPayload}

/-- The order is the one the command asked for. -/
structure Carries (command : ExchangeCommand) (order : VenueOrderTruth) : Prop where
  client : some order.venueClientOrderId = command.venueClientOrderId
  instrument :
    order.exchangeInstrumentId = command.ticketIdentity.nettingDomain.exchangeInstrumentId
  side : order.positionSide = command.ticketIdentity.nettingDomain.positionSide
  terms : ∃ payload, command.payload = .order payload ∧ order.orderSide = payload.side ∧
    order.quantity = payload.quantity ∧ order.reduceOnly = payload.reduceOnly

theorem identityContradiction_eq_none :
    identityContradiction command order = none ↔ Carries command order := by
  unfold identityContradiction
  constructor
  · intro none
    dsimp only at none
    split_ifs at none with client instrument side
    split at none
    · rename_i payload isOrder
      split_ifs at none with orderSide quantity reduceOnly
      exact ⟨not_not.mp client, not_not.mp instrument, not_not.mp side, payload, isOrder,
        not_not.mp orderSide, not_not.mp quantity, not_not.mp reduceOnly⟩
    · simp at none
  · rintro ⟨client, instrument, side, payload, isOrder, orderSide, quantity, reduceOnly⟩
    simp [client, instrument, side, isOrder, orderSide, quantity, reduceOnly]

theorem targetContradiction_eq_none : targetContradiction command payload order = none →
    order.exchangeOrderId = payload.exchangeOrderId ∧
      order.orderNamespace = payload.orderNamespace := by
  unfold targetContradiction
  intro none
  dsimp only at none
  split_ifs at none with id instrument side orderNamespace
  exact ⟨not_not.mp id, not_not.mp orderNamespace⟩

/-- The decisions, each with what it rests on. -/
inductive Decided (command : ExchangeCommand) (truth : VenueTruthSnapshot)
    (visibilityDeadlineMs : ℤ) (decided : UnknownRecoveryDecision) : Prop
  | lookupFailed (failed : decided.status = .lookupFailed)
  | pending (waits : decided.status = .pendingVisibility)
  | contradiction (differs : decided.status = .identityContradiction)
  | submitted (order : VenueOrderTruth) (isSubmitted : decided = submittedAs order truth)
      (places : command.kind ≠ .cancelOrder) (found : truth.lookup = .visible order)
      (carries : Carries command order)
  | absent (isAbsent : decided.status = .reconciledAbsent) (places : command.kind ≠ .cancelOrder)
      (none : truth.lookup = .absent) (unsubmitted : ¬ submissionEvidence command truth)
      (due : visibilityDeadlineMs ≤ truth.observedAtMs)
  | targetClosed (payload : CancelCommandPayload) (order : VenueOrderTruth)
      (isAbsent : decided.status = .reconciledAbsent) (cancels : command.kind = .cancelOrder)
      (carried : command.payload = .cancel payload) (found : truth.lookup = .visible order)
      (target : order.exchangeOrderId = payload.exchangeOrderId ∧
        order.orderNamespace = payload.orderNamespace) (closed : order.isOpen = false)
  | targetAbsent (payload : CancelCommandPayload) (isAbsent : decided.status = .reconciledAbsent)
      (cancels : command.kind = .cancelOrder) (carried : command.payload = .cancel payload)
      (none : truth.lookup = .absent) (due : visibilityDeadlineMs ≤ truth.observedAtMs)
  | targetOpen (payload : CancelCommandPayload)
      (stillOpen : decided.status = .cancelTargetStillOpen)
      (cancels : command.kind = .cancelOrder) (carried : command.payload = .cancel payload)

/-- **What a decision rests on.** -/
theorem Decided.of_decide {decided : UnknownRecoveryDecision}
    (returned : decideUnknownRecovery command truth visibilityDeadlineMs = .ok decided) :
    Decided command truth visibilityDeadlineMs decided := by
  simp only [decideUnknownRecovery, refuse_bind_eq_ok] at returned
  obtain ⟨-, -, rest⟩ := returned
  split at rest
  · exact .lookupFailed (congrArg UnknownRecoveryDecision.status (pure_eq_ok.mp rest))
  · rename_i failed
    split_ifs at rest with cancels
    · split at rest
      · rename_i payload carried
        obtain rfl := pure_eq_ok.mp rest
        unfold decideCancelRecovery
        split
        · rename_i order found
          split
          · exact .contradiction rfl
          · rename_i same
            split_ifs with closed due
            · exact .targetClosed payload order rfl cancels carried found
                (targetContradiction_eq_none same) closed
            · exact .targetOpen payload rfl cancels carried
            · exact .pending rfl
        · rename_i hidden
          split_ifs with early
          · exact .pending rfl
          · refine .targetAbsent payload rfl cancels carried ?_ (not_lt.mp early)
            cases lookup : truth.lookup with
            | visible order => exact absurd lookup (hidden order)
            | absent => rfl
            | lookupFailed reason given => exact absurd lookup (failed reason given)
      · simp at rest
    · obtain rfl := pure_eq_ok.mp rest
      unfold decideOrderRecovery
      split
      · rename_i order found
        split
        · exact .contradiction rfl
        · rename_i same
          exact .submitted order rfl cancels found (identityContradiction_eq_none.mp same)
      · rename_i hidden
        split_ifs with evidence early
        · exact .pending rfl
        · exact .pending rfl
        · refine .absent rfl cancels ?_ evidence (not_lt.mp early)
          cases lookup : truth.lookup with
          | visible order => exact absurd lookup (hidden order)
          | absent => rfl
          | lookupFailed reason given => exact absurd lookup (failed reason given)

end Decided

end TradingKernel
