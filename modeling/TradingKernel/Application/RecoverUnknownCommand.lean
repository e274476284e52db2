/-
**`recover_unknown_command`: an unknown outcome settled by a look at the venue.**

The use case looks the command up, decides (`decideUnknownRecovery`), and records a settled decision:
the fact it stands for (`recoveryFact`) and the command's row, in one transaction
(`Kernel.recoverUnknownCommand`). A leverage change is settled by the leverage that the venue reads
back (`Kernel.reconcileLeverage`).
-/

import TradingKernel.Application.DispatchCommand
import TradingKernel.Domain.VenueTruth

namespace TradingKernel

open Text Guard CanonicalJson

/-! ### The event of a decision -/

/-- The status that an unknown cancel of the purpose leaves its Ticket in. -/
def CancelPurpose.unknownStatus : CancelPurpose → AggregateStatus
  | .entryRemainder => .partialFillCancelOutcomeUnknown
  | .selectionVacuumEntry => .entryVacuumCancelOutcomeUnknown
  | .runnerOldStop => .runnerOldStopCancelOutcomeUnknown
  | .reconciliationCleanup => .cancelOutcomeUnknown

/-- What a recovery says of a status that does not belong to its cancel. -/
def CancelPurpose.incompatible : CancelPurpose → Raised
  | .selectionVacuumEntry =>
      .runtimeError "Vacuum cancel purpose is incompatible with aggregate state"
  | _ => .runtimeError "cancel purpose is incompatible with aggregate state"

/-- The fact of a command that the venue has. -/
def submittedFact (aggregate : TradeAggregate) (command : ExchangeCommand)
    (exchangeOrderId : String) : Except Raised PlainFact :=
  match command.kind with
  | .entry => plain (.entryAccepted exchangeOrderId)
  | .initialStop => plain (.initialStopConfirmed exchangeOrderId aggregate.positionQty)
  | .takeProfit => do
      let payload ← orderPayload command "TP1 recovery payload is invalid"
      plain (.takeProfitConfirmed exchangeOrderId payload.quantity)
  | .replaceProtection => do
      let payload ← orderPayload command "replacement recovery payload is invalid"
      let stopPrice ← demand payload.stopPrice
        (.runtimeError "replacement recovery payload is invalid")
      let replaces ← demand payload.replacesExchangeOrderId
        (.runtimeError "replacement recovery prior order is missing")
      let watermarkMs ← demand payload.sourceWatermarkMs
        (.runtimeError "replacement recovery watermark is missing")
      plain (.protectionReplacementConfirmed {
        exchangeOrderId := exchangeOrderId
        protectedQty := payload.quantity
        stopPrice := stopPrice
        replacesExchangeOrderId := replaces
        sourceWatermarkMs := watermarkMs })
  | .exit => plain (.exitAccepted exchangeOrderId)
  | .controlledFlatten => plain (.controlledFlattenAccepted exchangeOrderId)
  | kind => .error (.runtimeError ("submitted recovery is not mapped for " ++ kind.value))

theorem entryRemainderCancelConfirmed_plain (exchangeOrderId : String) :
    (TicketFact.entryRemainderCancelConfirmed exchangeOrderId).venueObservedAtMs = none := rfl

theorem entryVacuumCancelConfirmed_plain (exchangeOrderId : String) :
    (TicketFact.entryVacuumCancelConfirmed exchangeOrderId).venueObservedAtMs = none := rfl

/-- The fact of a cancel whose target is gone. -/
def cancelAbsentFact (payload : CancelCommandPayload) (status : AggregateStatus) :
    Except Raised PlainFact := do
  refuse (status ≠ payload.purpose.unknownStatus) payload.purpose.incompatible
  match payload.purpose with
  | .entryRemainder =>
      plain (.entryRemainderCancelConfirmed payload.exchangeOrderId)
        (entryRemainderCancelConfirmed_plain _)
  | .selectionVacuumEntry =>
      plain (.entryVacuumCancelConfirmed payload.exchangeOrderId)
        (entryVacuumCancelConfirmed_plain _)
  | .reconciliationCleanup => plain (.cancelOrderAbsenceConfirmed payload.exchangeOrderId)
  | .runnerOldStop => plain (.protectionCancelAbsenceConfirmed payload.exchangeOrderId)

/-- The fact of a cancel whose target is still open: a vacuum's cancel was rejected, and a cleanup
may be tried again. -/
def stillOpenFact (payload : CancelCommandPayload) (status : AggregateStatus) :
    Except Raised PlainFact :=
  match payload.purpose with
  | .selectionVacuumEntry => do
      refuse (status ≠ .entryVacuumCancelOutcomeUnknown)
        CancelPurpose.selectionVacuumEntry.incompatible
      plain (.entryVacuumCancelRejected payload.exchangeOrderId "cancel_target_still_open")
  | .reconciliationCleanup => plain (.cancelOrderStillOpenConfirmed payload.exchangeOrderId)
  | _ => .error (.runtimeError "cancel purpose cannot enter generic still-open recovery")

/-- The fact of a command that never reached the venue. -/
def absentFact (aggregate : TradeAggregate) (command : ExchangeCommand) :
    Except Raised PlainFact :=
  match command.kind with
  | .entry => plain (.entryAbsenceConfirmed command.commandId)
  | .initialStop => plain (.initialStopAbsenceConfirmed command.commandId)
  | .takeProfit => plain (.takeProfitAbsenceConfirmed command.commandId)
  | .replaceProtection => plain (.protectionReplacementAbsenceConfirmed command.commandId)
  | .exit => plain (.exitAbsenceConfirmed command.commandId)
  | .controlledFlatten => plain (.controlledFlattenAbsenceConfirmed command.commandId)
  | .cancelOrder =>
      match command.payload with
      | .cancel payload => cancelAbsentFact payload aggregate.status
      | _ => .error (.runtimeError "cancel recovery payload is invalid")
  | kind => .error (.runtimeError ("absence recovery is not mapped for " ++ kind.value))

/-- The fact that a settled decision stands for. -/
def recoveryFact (aggregate : TradeAggregate) (command : ExchangeCommand)
    (decided : UnknownRecoveryDecision) : Except Raised PlainFact :=
  match decided.status with
  | .reconciledSubmitted =>
      submittedFact aggregate command ((decided.exchangeOrderId.map NonBlankText.text).getD "")
  | .reconciledAbsent => absentFact aggregate command
  | .cancelTargetStillOpen =>
      match command.payload with
      | .cancel payload => stillOpenFact payload aggregate.status
      | _ => .error (.runtimeError "cancel recovery payload is invalid")
  | _ => .error (.runtimeError "non-terminal recovery decision cannot create an event")

/-! ### The transactions -/

/-- What a decision refuses to look at, raised. -/
def RecoveryRefusal.raised : RecoveryRefusal → Raised
  | .valueError message => .valueError message
  | .typeError message => .typeError message

/-- What the venue reads back of an instrument: its leverage, its positions and its orders. -/
structure LeverageTruthSnapshot where
  exchangeConfiguredLeverage : ℤ
  longPositionQuantity : ℚ
  shortPositionQuantity : ℚ
  regularOpenOrderIds : List String
  conditionalOpenOrderIds : List String
  observedAtMs : ℤ
  configured : 0 < exchangeConfiguredLeverage
  nonnegative : 0 ≤ longPositionQuantity ∧ 0 ≤ shortPositionQuantity
  observed : 0 < observedAtMs

/-- What is read of the venue: the leverage for a leverage change, and an order for any other
command. -/
inductive VenueReading where
  | order (truth : VenueTruthSnapshot) (visibilityDeadlineMs : ℤ)
  | leverage (truth : LeverageTruthSnapshot)

/-- There is a position or an order on the instrument. -/
def LeverageTruthSnapshot.HasExternalExposure (truth : LeverageTruthSnapshot) : Prop :=
  truth.longPositionQuantity ≠ 0 ∨ truth.shortPositionQuantity ≠ 0 ∨
    truth.regularOpenOrderIds ≠ [] ∨ truth.conditionalOpenOrderIds ≠ []

instance (truth : LeverageTruthSnapshot) : Decidable truth.HasExternalExposure :=
  inferInstanceAs (Decidable (_ ∨ _))

/-- The leverage that was read back, as the fact that it is confirmed. -/
def leverageConfirmedFact (command : ExchangeCommand) (payload : SetLeverageCommandPayload)
    (truth : LeverageTruthSnapshot) : PlainFact :=
  ⟨.leverageConfirmed {
    exchangeConfiguredLeverage := truth.exchangeConfiguredLeverage
    leverageVerifiedAtMs := truth.observedAtMs
    leverageVerificationDigest := canonicalDigest (.object [
      ("command_id", .text command.commandId),
      ("desired_leverage", .integer payload.desiredLeverage),
      ("exchange_configured_leverage", .integer truth.exchangeConfiguredLeverage),
      ("observed_at_ms", .integer truth.observedAtMs)])
    positive := ⟨truth.configured, truth.observed⟩
    digestShape := isSha256Digest_canonicalDigest _ }, rfl⟩

/-- The fact that the leverage is another one. -/
def leverageRejectedFact : PlainFact :=
  ⟨.leverageRejected (.ofSolid "configured_leverage_mismatch" (solid_of_all (by decide))
    (by decide)), rfl⟩

namespace Kernel

variable (kernel : Kernel)

/-- The row of a command that may be recovered. -/
def unknownRow (key : CommandKey) : Except Raised CommandRow := do
  let row ← demand (kernel.row key)
    (.valueError "unknown recovery command does not exist")
  refuse (row.status ≠ .outcomeUnknown) (.valueError "command is not in unknown-outcome state")
  return row

/-- The rows after a settled decision. The target of a cancel that is gone is marked by the commit
of its event. -/
def recoveredCommands (row : CommandRow) (decided : UnknownRecoveryDecision) :
    Except Raised CommandTable :=
  if decided.status = .reconciledSubmitted then
    kernel.commands.reconcileUnknownSubmitted row.key decided.observedAtMs
  else if row.kind ≠ .cancelOrder ∨ decided.status = .cancelTargetStillOpen then
    kernel.commands.reconcileUnknownAbsent row.key decided.observedAtMs
  else return kernel.commands

/-- A decision recorded: nothing while it is pending, an incident for a contradiction, and for a
settled one the row and the event. -/
def recordRecovery (row : CommandRow) (decided : UnknownRecoveryDecision) :
    Except Raised Kernel :=
  match decided.status with
  | .pendingVisibility | .lookupFailed => return kernel
  | .identityContradiction => return { kernel with
      openIncidents := "venue_identity_contradiction" :: kernel.openIncidents }
  | _ => do
      let fact ← recoveryFact kernel.aggregate row.command decided
      let commands ← kernel.recoveredCommands row decided
      kernel.commitResult fact decided.observedAtMs commands

/-- A leverage change, read back and settled. A position or an order on the instrument leaves it as
it is. -/
def reconcileLeverage (row : CommandRow) (truth : LeverageTruthSnapshot) : Except Raised Kernel :=
  match row.command.payload with
  | .setLeverage payload =>
      if truth.HasExternalExposure then return kernel
      else if truth.exchangeConfiguredLeverage = payload.desiredLeverage then do
        let commands ← kernel.commands.reconcileUnknownLeverageConfirmed row.key
          truth.observedAtMs
        kernel.commitResult (leverageConfirmedFact row.command payload truth) truth.observedAtMs
          commands
      else do
        let commands ← kernel.commands.reconcileUnknownAbsent row.key truth.observedAtMs
        kernel.commitResult leverageRejectedFact truth.observedAtMs commands
  | _ => .error (.typeError "SET_LEVERAGE command payload is invalid")

/-- The venue is read for an unknown command, and what it shows is recorded. -/
def recoverUnknownCommand (key : CommandKey) (reading : VenueReading) : Except Raised Kernel := do
  let row ← kernel.unknownRow key
  match reading with
  | .leverage truth => do
      refuse (row.kind ≠ .setLeverage) (.valueError "command is not SET_LEVERAGE")
      kernel.reconcileLeverage row truth
  | .order truth visibilityDeadlineMs => do
      refuse (row.command.venueClientOrderId = none)
        (.runtimeError "unknown order command lacks venue client order identity")
      let decided ← (decideUnknownRecovery row.command truth visibilityDeadlineMs).mapError
        RecoveryRefusal.raised
      kernel.recordRecovery row decided

end Kernel

end TradingKernel
