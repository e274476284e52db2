/-
**`dispatch_one_command`: claim a command, and record what the venue answered.**

The use case has three transactions of its own, each a function on the kernel: an expired claim is
recorded as an unknown outcome (`recordExpiredClaim`), a prepared command is claimed or superseded
(`claimCommand`), and the result of a claimed command is recorded with the event it stands for
(`recordDispatchResult`). The call to the venue is between the last two.
-/

import TradingKernel.Infrastructure.CommitReduction

namespace TradingKernel

open Text Guard

/-! ### Applicable commands -/

/-- The status a cancel of the purpose is dispatched in. -/
def CancelPurpose.applicableStatus : CancelPurpose → AggregateStatus
  | .entryRemainder => .partialFillIncident
  | .selectionVacuumEntry => .entryVacuumCancelPending
  | .runnerOldStop => .runnerOldStopCancelPending
  | .reconciliationCleanup => .reconciliationPending

/-- The statuses a command of the kind is dispatched in. -/
def ExchangeCommandKind.applicableStatuses : ExchangeCommandKind → List AggregateStatus
  | .setLeverage => [.leveragePending]
  | .entry => [.entryPending, .leverageConfirmed]
  | .initialStop => [.protectionPending]
  | .takeProfit => [.tp1Pending]
  | .replaceProtection => [.runnerReplacementPending]
  | .exit => [.exitPending]
  | .controlledFlatten => [.controlledFlattenPending]
  | .cancelOrder =>
      [.partialFillIncident, .entryVacuumCancelPending, .runnerOldStopCancelPending,
        .reconciliationPending]

def commandIsApplicable (command : ExchangeCommand) (status : AggregateStatus) : Bool :=
  if command.kind ≠ .cancelOrder then status ∈ command.kind.applicableStatuses
  else
    match command.payload with
    | .cancel payload => status = payload.purpose.applicableStatus
    | _ => false

/-! ### The event of a result -/

/-- What the venue answered. -/
inductive DispatchResult where
  | order (result : ExchangeCommandResult)
  | leverage (result : SetLeverageCommandResult)

namespace DispatchResult

def occurredAtMs : DispatchResult → ℤ
  | .order result => result.observedAtMs
  | .leverage result => result.leverageVerifiedAtMs

/-- The status the command is recorded with. -/
def status : DispatchResult → ExchangeCommandStatus
  | .order result => result.status
  | .leverage _ => .accepted

end DispatchResult

namespace ExchangeCommandResult

variable (result : ExchangeCommandResult)

/-- The order id as the event's text. -/
def orderIdText : String := result.exchangeOrderId.getD "None"

/-- The reason as the event's text. -/
def reasonText : String := result.reason.getD "None"

end ExchangeCommandResult

/-- A fact without a validator of its own. -/
def plain (fact : TicketFact) (late : fact.venueObservedAtMs = none := by rfl) :
    Except Raised PlainFact := .ok ⟨fact, late⟩

/-- The fact of a reason that its validator strips and requires. -/
def reasonFact (reason required : String) (fact : NonBlankText → TicketFact)
    (late : ∀ reason, (fact reason).venueObservedAtMs = none := by intro _; rfl) :
    Except Raised PlainFact := do
  let reason ← demand (NonBlankText.ofText? reason) (.valueError required)
  return ⟨fact reason, late reason⟩

def setLeverageResultFact (result : DispatchResult) : Except Raised PlainFact :=
  match result with
  | .leverage result => plain (.leverageConfirmed {
      exchangeConfiguredLeverage := result.exchangeConfiguredLeverage
      leverageVerifiedAtMs := result.leverageVerifiedAtMs
      leverageVerificationDigest := result.leverageVerificationDigest
      positive := result.positive
      digestShape := result.digestShape })
  | .order result =>
      match result.status with
      | .rejected =>
          reasonFact result.reasonText "leverage rejection requires reason" .leverageRejected
      | .outcomeUnknown =>
          reasonFact result.reasonText "unknown leverage outcome requires reason"
            .leverageOutcomeUnknown
      | _ => .error (.runtimeError "SET_LEVERAGE result is invalid")

/-- The result of a cancel, in the status its purpose is dispatched in. -/
def cancelResultFact (payload : CancelCommandPayload) (status : AggregateStatus)
    (result : ExchangeCommandResult) : Except Raised PlainFact :=
  let id := payload.exchangeOrderId.text
  let reason := result.reasonText
  if status ≠ payload.purpose.applicableStatus then
    .error (.runtimeError "cancel purpose is incompatible with aggregate state")
  else
    match payload.purpose, result.status with
    | .selectionVacuumEntry, .accepted => plain (.entryVacuumCancelConfirmed id)
    | .selectionVacuumEntry, .rejected => plain (.entryVacuumCancelRejected id reason)
    | .selectionVacuumEntry, .outcomeUnknown =>
        plain (.entryVacuumCancelOutcomeUnknown id reason)
    | .entryRemainder, .accepted => plain (.entryRemainderCancelConfirmed id)
    | .entryRemainder, .rejected => plain (.entryRemainderCancelRejected id reason)
    | .entryRemainder, .outcomeUnknown => plain (.entryRemainderCancelOutcomeUnknown id reason)
    | .runnerOldStop, .accepted => plain (.protectionCancelConfirmed id)
    | .runnerOldStop, .rejected => plain (.protectionCancelRejected id reason)
    | .runnerOldStop, .outcomeUnknown => plain (.protectionCancelOutcomeUnknown id reason)
    | .reconciliationCleanup, .accepted => plain (.ownedOrphanCancelConfirmed id)
    | .reconciliationCleanup, .rejected => plain (.cancelOrderRejected id reason)
    | .reconciliationCleanup, .outcomeUnknown => plain (.cancelOrderOutcomeUnknown id reason)
    | _, _ => .error (.runtimeError "cancel command has an unsupported result status")

/-- The payload of an order command. -/
def orderPayload (command : ExchangeCommand) (message : String) :
    Except Raised OrderCommandPayload :=
  match command.payload with
  | .order payload => .ok payload
  | _ => .error (.runtimeError message)

/-- The replacement that a payload asked for, under the id the venue gave it. -/
def replacementFact (payload : OrderCommandPayload) (exchangeOrderId : String) :
    Except Raised ProtectionReplacementConfirmed := do
  let stopPrice ← demand payload.stopPrice
    (.runtimeError "protection replacement stop price is missing")
  let replaces ← demand payload.replacesExchangeOrderId
    (.runtimeError "protection replacement prior order is missing")
  let watermarkMs ← demand payload.sourceWatermarkMs
    (.runtimeError "protection replacement watermark is missing")
  return {
    exchangeOrderId := exchangeOrderId
    protectedQty := payload.quantity
    stopPrice := stopPrice
    replacesExchangeOrderId := replaces
    sourceWatermarkMs := watermarkMs }

/-- The fact of an order's result. -/
def orderResultFact (command : ExchangeCommand) (aggregate : TradeAggregate)
    (result : ExchangeCommandResult) : Except Raised PlainFact :=
  let id := result.orderIdText
  let reason := result.reasonText
  match command.kind, result.status with
  | .entry, .accepted => plain (.entryAccepted id)
  | .entry, .rejected => plain (.entryRejected reason)
  | .entry, .outcomeUnknown => plain (.entryOutcomeUnknown reason)
  | .takeProfit, status => do
      let payload ← orderPayload command "TP1 command payload is invalid"
      match status with
      | .accepted => plain (.takeProfitConfirmed id payload.quantity)
      | .rejected => plain (.takeProfitRejected reason)
      | .outcomeUnknown => plain (.takeProfitOutcomeUnknown reason)
      | _ => .error (.runtimeError "unsupported take_profit result status")
  | .replaceProtection, status => do
      let payload ← orderPayload command "protection replacement payload is invalid"
      let replacement ← replacementFact payload id
      match status with
      | .accepted => plain (.protectionReplacementConfirmed replacement)
      | .rejected => plain (.protectionReplacementRejected reason)
      | .outcomeUnknown => plain (.protectionReplacementOutcomeUnknown reason)
      | _ => .error (.runtimeError "unsupported replace_protection result status")
  | .initialStop, .accepted => plain (.initialStopConfirmed id aggregate.positionQty)
  | .initialStop, .rejected => plain (.initialStopRejected reason)
  | .initialStop, .outcomeUnknown => plain (.initialStopOutcomeUnknown reason)
  | .exit, .accepted => plain (.exitAccepted id)
  | .exit, .rejected => plain (.exitRejected reason)
  | .exit, .outcomeUnknown => plain (.exitOutcomeUnknown reason)
  | .controlledFlatten, .accepted => plain (.controlledFlattenAccepted id)
  | .controlledFlatten, .rejected => plain (.controlledFlattenRejected reason)
  | .controlledFlatten, .outcomeUnknown => plain (.controlledFlattenOutcomeUnknown reason)
  | .cancelOrder, _ =>
      match command.payload with
      | .cancel payload => cancelResultFact payload aggregate.status result
      | _ => .error (.runtimeError "cancel command payload is invalid")
  | kind, status => .error (.runtimeError
      ("unsupported " ++ kind.value ++ " result status: " ++ status.value))

/-- The fact that the result of a command stands for. -/
def commandResultFact (command : ExchangeCommand) (aggregate : TradeAggregate)
    (result : DispatchResult) : Except Raised PlainFact :=
  if command.kind = .setLeverage then setLeverageResultFact result
  else
    match result with
    | .order result => orderResultFact command aggregate result
    | .leverage _ => .error (.runtimeError "order command result is invalid")

/-! ### Unknown outcomes -/

/-- An unknown outcome with a fixed reason. -/
def unknownResult (reason : String) (observedAtMs : ℤ) (timed : 0 < observedAtMs)
    (given : ¬ Blank reason := by decide) : ExchangeCommandResult where
  status := .outcomeUnknown
  observedAtMs := observedAtMs
  reason := some reason
  valid := by
    simp [CommandResultTerms.check, refuse_bind_eq_ok, refuse_eq_ok, given, timed]

/-- A leverage that the venue reads back as another one is an unknown outcome. -/
def checkedResult (command : ExchangeCommand) (result : DispatchResult) : DispatchResult :=
  match command.payload, result with
  | .setLeverage payload, .leverage confirmed =>
      if command.kind = .setLeverage ∧
          confirmed.exchangeConfiguredLeverage ≠ payload.desiredLeverage then
        .order (unknownResult "leverage_readback_mismatch" confirmed.leverageVerifiedAtMs
          confirmed.positive.2)
      else result
  | _, _ => result

/-! ### The transactions -/

namespace Kernel

variable (kernel : Kernel)

/-- The row of a key. -/
def row (key : CommandKey) : Option CommandRow :=
  kernel.commands.rows.find? fun row => row.key = key

/-- The fact of a result, as the next event, committed after the command's row has changed. -/
def commitResult (fact : PlainFact) (occurredAtMs : ℤ) (commands : CommandTable) :
    Except Raised Kernel := do
  let (_, reduction) ← reduceNext kernel.aggregate fact occurredAtMs
  Kernel.commitReduction { kernel with commands := commands } occurredAtMs reduction

/-- The result of a claimed command is recorded with its event. -/
def recordDispatchResult (key : CommandKey) (workerId : NonBlankText) (answer : DispatchResult) :
    Except Raised Kernel := do
  let row ← demand (kernel.row key) (.runtimeError "claimed command is missing")
  let result := checkedResult row.command answer
  let fact ← commandResultFact row.command kernel.aggregate result
  let commands ← match result with
    | .leverage confirmed =>
        kernel.commands.recordLeverageResult key workerId confirmed.leverageVerifiedAtMs
    | .order result =>
        kernel.commands.recordResult key workerId result.status result.observedAtMs
  kernel.commitResult fact result.occurredAtMs commands

/-- A claim whose lease is over is recorded as an unknown outcome. -/
def recordExpiredClaim (key : CommandKey) (nowMs : ℤ) (timed : 0 < nowMs) :
    Except Raised Kernel := do
  let row ← demand (kernel.row key) (.runtimeError "expired command is missing")
  let result := unknownResult "stale_claim_after_restart" nowMs timed
  let fact ← commandResultFact row.command kernel.aggregate (.order result)
  let commands ← kernel.commands.recordExpiredClaimUnknown key nowMs
  kernel.commitResult fact nowMs commands

/-- The claimed command is superseded by an entry vacuum, and its Ticket ends. -/
def supersedeForVacuum (row : CommandRow) (workerId : NonBlankText) (nowMs : ℤ)
    (entryVacuumId : NonBlankText) (commands : CommandTable) : Except Raised Kernel := do
  let commands ← commands.markClaimedSuperseded row.key workerId nowMs
  kernel.commitResult ⟨.entryVacuumSuperseded {
    entryVacuumId := entryVacuumId
    commandId := row.command.commandId
    identities := ⟨entryVacuumId.not_blank, row.command.commandId.not_blank⟩ }, rfl⟩ nowMs commands

/-- A prepared command is claimed. One that its Ticket has moved on from is superseded, and so is a
first command that an entry vacuum blocks. -/
def claimCommand (key : CommandKey) (workerId : NonBlankText) (nowMs leaseUntilMs : ℤ)
    (blockingVacuum : Option NonBlankText) : Except Raised Kernel := do
  let commands ← kernel.commands.claimOnePrepared key workerId nowMs leaseUntilMs
  let row ← demand (kernel.row key) (.runtimeError "claimed command is missing")
  if ¬ commandIsApplicable row.command kernel.aggregate.status then do
    let commands ← commands.markClaimedSuperseded key workerId nowMs
    return { kernel with commands := commands }
  else
    match blockingVacuum with
    | some entryVacuumId =>
        if row.kind = .setLeverage ∨ row.kind = .entry then
          kernel.supersedeForVacuum row workerId nowMs entryVacuumId commands
        else return { kernel with commands := commands }
    | none => return { kernel with commands := commands }

end Kernel

end TradingKernel
