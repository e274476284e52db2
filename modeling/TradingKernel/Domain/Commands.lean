/-
**Exchange commands: payloads, validation, identities and the retry rule.**

A payload or a command is its terms together with the fact that their validator returned
(`OrderTerms.check`, `CancelTerms.check`, `SetLeverageTerms.check`, `CommandTerms.check`); the
validators name the first refusal. A command's identity is a digest of its Ticket, kind and
generation, and its venue client order id a digest of that; both have passed their own validators
whatever the Ticket is (`buildCommandId`, `buildVenueClientOrderId`).
-/

import Mathlib.Algebra.Order.Ring.Rat
import TradingKernel.Domain.Effects
import TradingKernel.Lib.Guard
import TradingKernel.Lib.Sha256

namespace TradingKernel

open Text Guard Sha256

/-! ### Kinds and statuses -/

inductive ExchangeCommandKind where
  | setLeverage
  | entry
  | initialStop
  | takeProfit
  | exit
  | cancelOrder
  | replaceProtection
  | controlledFlatten
  deriving DecidableEq, Repr

def ExchangeCommandKind.value : ExchangeCommandKind → String
  | .setLeverage => "set_leverage"
  | .entry => "entry"
  | .initialStop => "initial_stop"
  | .takeProfit => "take_profit"
  | .exit => "exit"
  | .cancelOrder => "cancel_order"
  | .replaceProtection => "replace_protection"
  | .controlledFlatten => "controlled_flatten"

inductive ExchangeCommandStatus where
  | prepared
  | claimed
  | superseded
  | accepted
  | rejected
  | outcomeUnknown
  | reconciledAbsent
  | reconciledAccepted
  deriving DecidableEq, Repr

def ExchangeCommandStatus.value : ExchangeCommandStatus → String
  | .prepared => "prepared"
  | .claimed => "claimed"
  | .superseded => "superseded"
  | .accepted => "accepted"
  | .rejected => "rejected"
  | .outcomeUnknown => "outcome_unknown"
  | .reconciledAbsent => "reconciled_absent"
  | .reconciledAccepted => "reconciled_accepted"

inductive OrderSide where
  | buy
  | sell
  deriving DecidableEq, Repr

inductive OrderType where
  | market
  | limit
  | stopMarket
  | takeProfitMarket
  deriving DecidableEq, Repr

def OrderType.conditional : OrderType → Bool
  | .stopMarket => true
  | .takeProfitMarket => true
  | _ => false

/-- The namespace that orders of a type are placed in. -/
def OrderType.orderNamespace (orderType : OrderType) : OrderNamespace :=
  if orderType.conditional then .conditional else .regular

inductive TimeInForce where
  | gtc
  | gtx
  deriving DecidableEq, Repr

/-! ### Payloads -/

/-- A value a validator refuses. -/
structure ValidationError where
  message : String
  deriving DecidableEq, Repr

/-- The terms of an order. -/
structure OrderTerms where
  side : OrderSide
  quantity : ℚ
  orderType : OrderType
  reduceOnly : Bool
  limitPrice : Option ℚ := none
  timeInForce : Option TimeInForce := none
  stopPrice : Option ℚ := none
  replacesExchangeOrderId : Option String := none
  sourceWatermarkMs : Option ℤ := none
  requiredConfiguredLeverage : Option ℤ := none
  leverageVerificationDigest : Option String := none
  deriving DecidableEq, Repr

namespace OrderTerms

variable (terms : OrderTerms)

/-- A limit order has a limit price and a time in force; another order has neither. -/
def checkLimit : Except ValidationError Unit :=
  if terms.orderType = .limit then do
    refuse (terms.limitPrice = none) ⟨"limit order requires limit_price"⟩
    refuse (terms.timeInForce = none) ⟨"limit order requires time_in_force"⟩
  else do
    refuse (terms.limitPrice ≠ none) ⟨"non-limit order forbids limit_price"⟩
    refuse (terms.timeInForce ≠ none) ⟨"non-limit order forbids time_in_force"⟩

/-- A conditional order has a stop price; another order has none. -/
def checkStop : Except ValidationError Unit :=
  if terms.orderType.conditional then
    refuse (terms.stopPrice = none) ⟨"conditional order requires stop_price"⟩
  else
    refuse (terms.stopPrice ≠ none) ⟨"non-conditional order forbids stop_price"⟩

def hasReplacementMetadata : Prop :=
  terms.replacesExchangeOrderId ≠ none ∨ terms.sourceWatermarkMs ≠ none

instance : Decidable terms.hasReplacementMetadata :=
  inferInstanceAs (Decidable (_ ∨ _))

def checkReplacement : Except ValidationError Unit :=
  if terms.hasReplacementMetadata then do
    refuse (Blank (terms.replacesExchangeOrderId.getD ""))
      ⟨"replacement payload requires prior order identity"⟩
    refuse (terms.sourceWatermarkMs.getD 0 ≤ 0)
      ⟨"replacement payload requires a positive watermark"⟩
  else .ok ()

/-- The evidence of a verified leverage, whole or absent. -/
def checkLeverage : Except ValidationError Unit :=
  if terms.requiredConfiguredLeverage ≠ none ∨ terms.leverageVerificationDigest ≠ none then do
    refuse (terms.requiredConfiguredLeverage.getD 0 ≤ 0)
      ⟨"entry leverage requirement must be a positive integer"⟩
    refuse (¬ IsSha256Digest (terms.leverageVerificationDigest.getD ""))
      ⟨"entry leverage verification requires a sha256 digest"⟩
  else .ok ()

def check : Except ValidationError Unit := do
  refuse (terms.quantity ≤ 0) ⟨"command quantity must be positive"⟩
  refuse (∃ price ∈ terms.limitPrice.toList ++ terms.stopPrice.toList, price ≤ 0)
    ⟨"command price must be positive"⟩
  terms.checkLimit
  terms.checkStop
  terms.checkReplacement
  terms.checkLeverage

end OrderTerms

structure OrderCommandPayload extends OrderTerms where
  valid : toOrderTerms.check = .ok ()

def OrderTerms.validate (terms : OrderTerms) : Except ValidationError OrderCommandPayload :=
  certify terms.check fun valid => ⟨terms, valid⟩

/-- A payload is what its terms validate to. -/
theorem OrderTerms.validate_eq_ok {terms : OrderTerms} {payload : OrderCommandPayload} :
    terms.validate = .ok payload ↔ payload.toOrderTerms = terms := by
  constructor
  · intro returned
    obtain ⟨_, rfl⟩ := certify_eq_ok.mp returned
    rfl
  · rintro rfl
    exact certify_eq_ok.mpr ⟨payload.valid, rfl⟩

/-- The terms of a cancel. -/
structure CancelTerms where
  exchangeOrderId : NonBlankText
  orderNamespace : OrderNamespace
  purpose : CancelPurpose
  entryVacuumId : Option NonBlankText := none
  deriving DecidableEq, Repr

def CancelTerms.check (terms : CancelTerms) : Except ValidationError Unit :=
  refuse (¬ (terms.purpose = .selectionVacuumEntry ↔ terms.entryVacuumId.isSome = true))
    ⟨"selection Vacuum cancel requires exclusive Vacuum lineage"⟩

structure CancelCommandPayload extends CancelTerms where
  valid : toCancelTerms.check = .ok ()

def CancelTerms.validate (terms : CancelTerms) : Except ValidationError CancelCommandPayload :=
  certify terms.check fun valid => ⟨terms, valid⟩

theorem CancelTerms.validate_eq_ok {terms : CancelTerms} {payload : CancelCommandPayload} :
    terms.validate = .ok payload ↔ payload.toCancelTerms = terms := by
  constructor
  · intro returned
    obtain ⟨_, rfl⟩ := certify_eq_ok.mp returned
    rfl
  · rintro rfl
    exact certify_eq_ok.mpr ⟨payload.valid, rfl⟩

/-- The terms of the leverage mutation requested before a new ENTRY. -/
structure SetLeverageTerms where
  desiredLeverage : ℤ
  ownerPolicyVersion : ℤ
  entryAdmissionSnapshotDigest : String
  leverageFactDigest : String
  deriving DecidableEq, Repr

def SetLeverageTerms.check (terms : SetLeverageTerms) : Except ValidationError Unit := do
  refuse (terms.desiredLeverage ≤ 0 ∨ terms.ownerPolicyVersion ≤ 0)
    ⟨"leverage command integers must be positive integers"⟩
  refuse (¬ (IsSha256Digest terms.entryAdmissionSnapshotDigest ∧
      IsSha256Digest terms.leverageFactDigest))
    ⟨"leverage command requires canonical sha256 digests"⟩

structure SetLeverageCommandPayload extends SetLeverageTerms where
  valid : toSetLeverageTerms.check = .ok ()

def SetLeverageTerms.validate (terms : SetLeverageTerms) :
    Except ValidationError SetLeverageCommandPayload :=
  certify terms.check fun valid => ⟨terms, valid⟩

theorem SetLeverageTerms.validate_eq_ok {terms : SetLeverageTerms}
    {payload : SetLeverageCommandPayload} :
    terms.validate = .ok payload ↔ payload.toSetLeverageTerms = terms := by
  constructor
  · intro returned
    obtain ⟨_, rfl⟩ := certify_eq_ok.mp returned
    rfl
  · rintro rfl
    exact certify_eq_ok.mpr ⟨payload.valid, rfl⟩

inductive CommandPayload where
  | order (payload : OrderCommandPayload)
  | cancel (payload : CancelCommandPayload)
  | setLeverage (payload : SetLeverageCommandPayload)

/-! ### Commands -/

/-- The immutable part of a command. -/
structure CommandTerms where
  commandId : NonBlankText
  ticketIdentity : TicketIdentity
  kind : ExchangeCommandKind
  generation : ℕ
  idempotencyKey : NonBlankText
  venueClientOrderId : Option NonBlankText
  payload : CommandPayload
  createdAtMs : ℤ
  deadlineAtMs : ℤ

namespace CommandTerms

/-- Only an ENTRY carries leverage evidence, and only a replacement names what it replaces. -/
def checkOrder (kind : ExchangeCommandKind) (order : OrderCommandPayload) :
    Except ValidationError Unit := do
  if kind = .entry then
    refuse (order.requiredConfiguredLeverage = none ∨ order.leverageVerificationDigest = none)
      ⟨"ENTRY command requires leverage verification evidence"⟩
  else
    refuse (order.requiredConfiguredLeverage ≠ none ∨ order.leverageVerificationDigest ≠ none)
      ⟨"only ENTRY command allows leverage verification evidence"⟩
  if kind = .replaceProtection then
    refuse (¬ order.hasReplacementMetadata)
      ⟨"protection replacement command requires replacement metadata"⟩
  else
    refuse order.hasReplacementMetadata
      ⟨"only protection replacement commands allow replacement metadata"⟩

/-- The payload is of the kind's own shape. -/
def checkPayload (terms : CommandTerms) : Except ValidationError Unit :=
  if terms.kind = .setLeverage then do
    refuse (terms.venueClientOrderId ≠ none)
      ⟨"SET_LEVERAGE command forbids venue_client_order_id"⟩
    match terms.payload with
    | .setLeverage _ => .ok ()
    | _ => .error ⟨"SET_LEVERAGE command requires leverage payload"⟩
  else do
    refuse (terms.venueClientOrderId = none)
      ⟨"order command requires deterministic venue_client_order_id"⟩
    if terms.kind = .cancelOrder then
      match terms.payload with
      | .cancel _ => .ok ()
      | _ => .error ⟨"cancel command requires cancel payload"⟩
    else
      match terms.payload with
      | .order order => checkOrder terms.kind order
      | _ => .error ⟨"order command requires order payload"⟩

def check (terms : CommandTerms) : Except ValidationError Unit := do
  refuse (terms.generation ≤ 0 ∨ terms.createdAtMs ≤ 0 ∨ terms.deadlineAtMs ≤ 0)
    ⟨"command generation and time must be positive"⟩
  refuse ((terms.kind = .setLeverage ∨ terms.kind = .entry) ∧ terms.generation ≠ 1)
    ⟨terms.kind.value.toUpper ++ " command cannot have a retry generation"⟩
  refuse (terms.deadlineAtMs ≤ terms.createdAtMs) ⟨"command deadline must be after creation"⟩
  refuse (∃ client ∈ terms.venueClientOrderId.toList, 36 < client.text.length)
    ⟨"venue client order id exceeds supported boundary"⟩
  terms.checkPayload

end CommandTerms

structure ExchangeCommand extends CommandTerms where
  valid : toCommandTerms.check = .ok ()
  status : ExchangeCommandStatus

/-- A new command, prepared. -/
def CommandTerms.prepare (terms : CommandTerms) : Except ValidationError ExchangeCommand :=
  certify terms.check fun valid => ⟨terms, valid, .prepared⟩

/-- A prepared command is its terms. -/
theorem CommandTerms.prepare_eq_ok {terms : CommandTerms} {command : ExchangeCommand} :
    terms.prepare = .ok command ↔
      command.toCommandTerms = terms ∧ command.status = .prepared := by
  constructor
  · intro returned
    obtain ⟨_, rfl⟩ := certify_eq_ok.mp returned
    exact ⟨rfl, rfl⟩
  · rintro ⟨rfl, prepared⟩
    refine certify_eq_ok.mpr ⟨command.valid, ?_⟩
    rw [← prepared]

/-! ### Results -/

/-- What the venue answered to an order or a cancel. -/
structure CommandResultTerms where
  status : ExchangeCommandStatus
  observedAtMs : ℤ
  exchangeOrderId : Option String := none
  reason : Option String := none
  deriving DecidableEq, Repr

/-- A result is an acceptance with an order id, or a refusal or an unknown outcome with its
reason. -/
def CommandResultTerms.check (terms : CommandResultTerms) : Except ValidationError Unit := do
  refuse (terms.observedAtMs ≤ 0) ⟨"command result time must be positive"⟩
  refuse (terms.status ∉ [.accepted, .rejected, .outcomeUnknown])
    ⟨"command result must be authoritative or unknown"⟩
  if terms.status = .accepted then do
    refuse (Blank (terms.exchangeOrderId.getD ""))
      ⟨"accepted command requires exchange order identity"⟩
    refuse (terms.reason ≠ none) ⟨"accepted command forbids rejection reason"⟩
  else do
    refuse (Blank (terms.reason.getD "")) ⟨"rejected or unknown command requires reason"⟩
    refuse (terms.exchangeOrderId ≠ none)
      ⟨"non-accepted result forbids exchange order identity"⟩

structure ExchangeCommandResult extends CommandResultTerms where
  valid : toCommandResultTerms.check = .ok ()

theorem ExchangeCommandResult.status_mem (result : ExchangeCommandResult) : result.status ∈
    ([.accepted, .rejected, .outcomeUnknown] : List ExchangeCommandStatus) := by
  have valid := result.valid
  simp only [CommandResultTerms.check, refuse_bind_eq_ok, not_not] at valid
  exact valid.2.1

/-- The confirmation of an exact leverage. -/
structure SetLeverageCommandResult where
  exchangeConfiguredLeverage : ℤ
  leverageVerifiedAtMs : ℤ
  leverageVerificationDigest : String
  positive : 0 < exchangeConfiguredLeverage ∧ 0 < leverageVerifiedAtMs
  digestShape : IsSha256Digest leverageVerificationDigest

/-! ### Identities -/

/-- A scheme followed by the first digits of a digest. -/
def digestIdentity (scheme text : String) (digits : ℕ)
    (solid : ∀ c ∈ scheme.toList, isSpace c = false) (named : scheme ≠ "") : NonBlankText :=
  NonBlankText.ofSolid (scheme ++ String.ofList ((hexDigits text).take digits))
    (by
      intro c member
      rw [String.toList_append, String.toList_ofList, List.mem_append] at member
      rcases member with ofScheme | ofDigest
      · exact solid c ofScheme
      · exact isSpace_of_isHexDigit
          (List.all_eq_true.mp (hexDigits_isHexDigit text) c (List.mem_of_mem_take ofDigest)))
    (by
      intro empty
      exact named (String.append_eq_empty_iff.mp empty).1)

/-- The identity of a command: a digest of its Ticket, kind and (positive) generation. -/
def buildCommandId (ticketId : NonBlankText) (kind : ExchangeCommandKind) (generation : ℕ) :
    NonBlankText :=
  digestIdentity "command:" (ticketId.text ++ "|" ++ kind.value ++ "|" ++ toString generation) 32
    (solid_of_all (by decide)) (by decide)

/-- The order identity a command shows the venue. -/
def buildVenueClientOrderId (commandId : NonBlankText) : NonBlankText :=
  digestIdentity "brc-" commandId.text 28 (solid_of_all (by decide)) (by decide)

/-- A client order id stays within the venue's bound of 36 characters. -/
theorem buildVenueClientOrderId_length (commandId : NonBlankText) :
    (buildVenueClientOrderId commandId).text.length = 32 := by
  have scheme : "brc-".length = 4 := by decide
  simp [buildVenueClientOrderId, digestIdentity, NonBlankText.ofSolid, scheme]

/-! ### Retries -/

structure CommandGenerationError where
  message : String
  deriving DecidableEq, Repr

/-- Whether a command of a kind may follow one of that kind with the given status. -/
def requireNextGenerationAllowed (kind : ExchangeCommandKind) (priorStatus : ExchangeCommandStatus)
    (nextGeneration : ℕ) : Except CommandGenerationError Unit := do
  refuse (nextGeneration ≤ 1) ⟨"next generation must be greater than one"⟩
  refuse (kind = .entry ∨ kind = .setLeverage) ⟨kind.value.toUpper ++ " is never retried"⟩
  refuse (priorStatus = .outcomeUnknown) ⟨"unknown outcome must be reconciled first"⟩
  refuse (¬ (kind = .replaceProtection ∧
        (priorStatus = .accepted ∨ priorStatus = .reconciledAccepted)) ∧
      ¬ (priorStatus = .rejected ∨ priorStatus = .reconciledAbsent))
    ⟨"new generation not allowed after " ++ priorStatus.value⟩

end TradingKernel
