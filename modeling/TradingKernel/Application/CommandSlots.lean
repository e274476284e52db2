/-
**What a command is about, and which fact reports its outcome.**

A command's slot is its kind, and for a cancel its purpose. Both the worker that dispatches a
command and the one that recovers it turn its outcome into a fact (`commandResultFact`,
`recoveryFact`), and the fact names the slot and the outcome (`TicketFact.answers`): no command is
ever reported as another one.
-/

import TradingKernel.Application.RecoverUnknownCommand
import TradingKernel.Infrastructure.Materialised

namespace TradingKernel

open Text Guard

/-! ### Slots -/

/-- A kind of command, and the purpose of a cancel. -/
inductive CommandSlot where
  | setLeverage
  | entry
  | initialStop
  | takeProfit
  | exit
  | replaceProtection
  | controlledFlatten
  | cancel (purpose : CancelPurpose)
  deriving DecidableEq, Repr

namespace CommandSlot

/-- Every slot. -/
def all : List CommandSlot :=
  [.setLeverage, .entry, .initialStop, .takeProfit, .exit, .replaceProtection, .controlledFlatten,
    .cancel .entryRemainder, .cancel .selectionVacuumEntry, .cancel .runnerOldStop,
    .cancel .reconciliationCleanup]

theorem mem_all (slot : CommandSlot) : slot ∈ all := by
  cases slot with
  | cancel purpose => cases purpose <;> decide
  | _ => decide

/-- The kind of the slot's commands. -/
def kind : CommandSlot → ExchangeCommandKind
  | setLeverage => .setLeverage
  | entry => .entry
  | initialStop => .initialStop
  | takeProfit => .takeProfit
  | exit => .exit
  | replaceProtection => .replaceProtection
  | controlledFlatten => .controlledFlatten
  | cancel _ => .cancelOrder

/-- The statuses a command of the slot is dispatched in. -/
def applicableStatuses : CommandSlot → List AggregateStatus
  | cancel purpose => [purpose.applicableStatus]
  | slot => slot.kind.applicableStatuses

end CommandSlot

/-- The slot of a command. A cancel has a cancel payload, so the last case is none. -/
def ExchangeCommand.slot (command : ExchangeCommand) : CommandSlot :=
  match command.kind, command.payload with
  | .setLeverage, _ => .setLeverage
  | .entry, _ => .entry
  | .initialStop, _ => .initialStop
  | .takeProfit, _ => .takeProfit
  | .exit, _ => .exit
  | .replaceProtection, _ => .replaceProtection
  | .controlledFlatten, _ => .controlledFlatten
  | .cancelOrder, .cancel payload => .cancel payload.purpose
  | .cancelOrder, _ => .cancel .reconciliationCleanup

/-- The slot of the command that the effect asks for. -/
def KernelEffect.slot : KernelEffect → Option CommandSlot
  | .prepareSetLeverageCommand _ => some .setLeverage
  | .prepareEntryCommand .. => some .entry
  | .prepareInitialStopCommand .. => some .initialStop
  | .prepareTakeProfitCommand .. => some .takeProfit
  | .prepareExitCommand .. => some .exit
  | .prepareProtectionReplacementCommand .. => some .replaceProtection
  | .prepareControlledFlattenCommand .. => some .controlledFlatten
  | .cancelEntryRemainder _ => some (.cancel .entryRemainder)
  | .cancelVacuumEntryOrder .. => some (.cancel .selectionVacuumEntry)
  | .cancelProtectionOrders _ _ _ purpose => some (.cancel purpose)
  | _ => none

section Slots

variable {command : ExchangeCommand} {effect : KernelEffect} {aggregate : TradeAggregate}
  {payload : CancelCommandPayload}

theorem slot_kind (command : ExchangeCommand) : command.slot.kind = command.kind := by
  unfold ExchangeCommand.slot
  split <;> simp_all [CommandSlot.kind]

/-- A cancel is in the slot of its purpose. -/
theorem slot_of_cancel (cancels : command.kind = .cancelOrder)
    (carried : command.payload = .cancel payload) : command.slot = .cancel payload.purpose := by
  unfold ExchangeCommand.slot
  rw [cancels, carried]

/-- A cancel carries a cancel payload. -/
theorem exists_cancel_payload (cancels : command.kind = .cancelOrder) :
    ∃ payload, command.payload = .cancel payload := by
  have valid := command.valid
  simp only [CommandTerms.check, refuse_bind_eq_ok, CommandTerms.checkPayload, cancels,
    reduceCtorEq, if_false, if_true] at valid
  cases carried : command.payload with
  | cancel payload => exact ⟨payload, rfl⟩
  | _ => simp [carried] at valid

/-- Only a cancel carries a cancel payload. -/
theorem kind_of_cancel_payload (carried : command.payload = .cancel payload) :
    command.kind = .cancelOrder := by
  have valid := command.valid
  by_contra other
  simp only [CommandTerms.check, refuse_bind_eq_ok, CommandTerms.checkPayload, carried, other,
    if_false] at valid
  split_ifs at valid <;> simp_all [refuse_bind_eq_ok]

/-- A cancel of a purpose. -/
theorem cancel_of_slot {purpose : CancelPurpose} (same : command.slot = .cancel purpose) :
    command.kind = .cancelOrder ∧
      ∃ payload, command.payload = .cancel payload ∧ payload.purpose = purpose := by
  have cancels : command.kind = .cancelOrder := by
    rw [← slot_kind, same]
    rfl
  obtain ⟨payload, carried⟩ := exists_cancel_payload cancels
  rw [slot_of_cancel cancels carried] at same
  exact ⟨cancels, payload, carried, CommandSlot.cancel.inj same⟩

/-- Of every kind but the cancels there is one slot. -/
theorem slot_of_kind {slot : CommandSlot} (same : command.kind = slot.kind)
    (order : slot.kind ≠ .cancelOrder := by decide) : command.slot = slot := by
  have kinds : command.slot.kind = slot.kind := (slot_kind command).trans same
  revert kinds order
  cases command.slot <;> cases slot <;> simp [CommandSlot.kind]

/-- A command that carries out an effect is in the slot of the effect. -/
theorem slot_of_carriedOutBy (carries : effect.CarriedOutBy aggregate command) :
    effect.slot = some command.slot := by
  cases effect with
  | prepareEntryCommand ticket digest =>
    obtain ⟨_, isOrder⟩ := carries
    exact congrArg some (slot_of_kind isOrder.1).symm
  | prepareSetLeverageCommand ticket =>
    exact congrArg some (slot_of_kind carries.1).symm
  | cancelEntryRemainder ticketId =>
    obtain ⟨_, -, cancels, payload, carried, -, purpose⟩ := carries
    rw [slot_of_cancel cancels carried, purpose]
    rfl
  | cancelVacuumEntryOrder ticketId id vacuumId =>
    obtain ⟨cancels, payload, carried, -, purpose⟩ := carries
    rw [slot_of_cancel cancels carried, purpose]
    rfl
  | cancelProtectionOrders ticketId id orderNamespace purpose =>
    obtain ⟨cancels, payload, carried, -, same⟩ := carries
    rw [slot_of_cancel cancels carried, same]
    rfl
  | prepareInitialStopCommand => exact congrArg some (slot_of_kind carries.1).symm
  | prepareTakeProfitCommand => exact congrArg some (slot_of_kind carries.1).symm
  | prepareProtectionReplacementCommand => exact congrArg some (slot_of_kind carries.1).symm
  | prepareExitCommand => exact congrArg some (slot_of_kind carries.1).symm
  | prepareControlledFlattenCommand => exact congrArg some (slot_of_kind carries.1).symm
  | _ => exact absurd carries id

/-- A command is applicable in the statuses of its slot. -/
theorem commandIsApplicable_iff {status : AggregateStatus} :
    commandIsApplicable command status = true ↔ status ∈ command.slot.applicableStatuses := by
  by_cases cancels : command.kind = .cancelOrder
  · obtain ⟨payload, carried⟩ := exists_cancel_payload cancels
    rw [slot_of_cancel cancels carried]
    simp [commandIsApplicable, cancels, carried, CommandSlot.applicableStatuses]
  · have same := slot_kind command
    rw [commandIsApplicable, if_pos cancels, decide_eq_true_eq, ← same]
    rw [← same] at cancels
    revert cancels
    cases command.slot <;> simp [CommandSlot.kind, CommandSlot.applicableStatuses]

end Slots

/-! ### Outcomes -/

/-- What became of a command: it was carried out, refused, never reached the venue, or nobody
knows. -/
inductive CommandOutcome where
  | confirmed
  | refused
  | unknown
  | absent
  deriving DecidableEq, Repr

/-- The slot whose command a fact is about, and its outcome. -/
def TicketFact.answers : TicketFact → Option (CommandSlot × CommandOutcome)
  | .leverageConfirmed _ => some (.setLeverage, .confirmed)
  | .leverageRejected _ => some (.setLeverage, .refused)
  | .leverageOutcomeUnknown _ => some (.setLeverage, .unknown)
  | .entryAccepted _ => some (.entry, .confirmed)
  | .entryRejected _ => some (.entry, .refused)
  | .entryOutcomeUnknown _ => some (.entry, .unknown)
  | .entryAbsenceConfirmed _ => some (.entry, .absent)
  | .entryRemainderCancelConfirmed _ => some (.cancel .entryRemainder, .confirmed)
  | .entryRemainderCancelRejected _ _ => some (.cancel .entryRemainder, .refused)
  | .entryRemainderCancelOutcomeUnknown _ _ => some (.cancel .entryRemainder, .unknown)
  | .entryVacuumCancelConfirmed _ => some (.cancel .selectionVacuumEntry, .confirmed)
  | .entryVacuumCancelRejected _ _ => some (.cancel .selectionVacuumEntry, .refused)
  | .entryVacuumCancelOutcomeUnknown _ _ => some (.cancel .selectionVacuumEntry, .unknown)
  | .initialStopConfirmed _ _ => some (.initialStop, .confirmed)
  | .initialStopRejected _ => some (.initialStop, .refused)
  | .initialStopOutcomeUnknown _ => some (.initialStop, .unknown)
  | .initialStopAbsenceConfirmed _ => some (.initialStop, .absent)
  | .takeProfitConfirmed _ _ => some (.takeProfit, .confirmed)
  | .takeProfitRejected _ => some (.takeProfit, .refused)
  | .takeProfitOutcomeUnknown _ => some (.takeProfit, .unknown)
  | .takeProfitAbsenceConfirmed _ => some (.takeProfit, .absent)
  | .protectionReplacementConfirmed _ => some (.replaceProtection, .confirmed)
  | .protectionReplacementRejected _ => some (.replaceProtection, .refused)
  | .protectionReplacementOutcomeUnknown _ => some (.replaceProtection, .unknown)
  | .protectionReplacementAbsenceConfirmed _ => some (.replaceProtection, .absent)
  | .exitAccepted _ => some (.exit, .confirmed)
  | .exitRejected _ => some (.exit, .refused)
  | .exitOutcomeUnknown _ => some (.exit, .unknown)
  | .exitAbsenceConfirmed _ => some (.exit, .absent)
  | .controlledFlattenAccepted _ => some (.controlledFlatten, .confirmed)
  | .controlledFlattenRejected _ => some (.controlledFlatten, .refused)
  | .controlledFlattenOutcomeUnknown _ => some (.controlledFlatten, .unknown)
  | .controlledFlattenAbsenceConfirmed _ => some (.controlledFlatten, .absent)
  | .protectionCancelConfirmed _ => some (.cancel .runnerOldStop, .confirmed)
  | .protectionCancelRejected _ _ => some (.cancel .runnerOldStop, .refused)
  | .protectionCancelOutcomeUnknown _ _ => some (.cancel .runnerOldStop, .unknown)
  | .protectionCancelAbsenceConfirmed _ => some (.cancel .runnerOldStop, .absent)
  | .ownedOrphanCancelConfirmed _ => some (.cancel .reconciliationCleanup, .confirmed)
  | .cancelOrderRejected _ _ => some (.cancel .reconciliationCleanup, .refused)
  | .cancelOrderOutcomeUnknown _ _ => some (.cancel .reconciliationCleanup, .unknown)
  | .cancelOrderAbsenceConfirmed _ => some (.cancel .reconciliationCleanup, .absent)
  | .cancelOrderStillOpenConfirmed _ => some (.cancel .reconciliationCleanup, .refused)
  | _ => none

/-- The outcome that a venue's answer stands for. -/
def DispatchResult.outcome : DispatchResult → CommandOutcome
  | .leverage _ => .confirmed
  | .order result =>
      match result.status with
      | .accepted => .confirmed
      | .rejected => .refused
      | _ => .unknown

section Answers

variable {command : ExchangeCommand} {aggregate : TradeAggregate} {fact : PlainFact}

theorem plain_eq_ok {said : TicketFact} {late : said.venueObservedAtMs = none} :
    plain said late = .ok fact ↔ fact = ⟨said, late⟩ := by
  rw [plain, Except.ok.injEq, eq_comm]

theorem reasonFact_eq_ok {reason required : String} {said : NonBlankText → TicketFact}
    {late : ∀ reason, (said reason).venueObservedAtMs = none}
    (returned : reasonFact reason required said late = .ok fact) :
    ∃ given, fact = ⟨said given, late given⟩ := by
  obtain ⟨given, -, returned⟩ := demand_bind_eq_ok.mp returned
  exact ⟨given, pure_eq_ok.mp returned⟩

/-! ### The facts of a dispatch -/

theorem answers_of_setLeverageResultFact {answer : DispatchResult}
    (returned : setLeverageResultFact answer = .ok fact) :
    fact.val.answers = some (.setLeverage, answer.outcome) := by
  cases answer with
  | leverage confirmed =>
    obtain rfl := plain_eq_ok.mp returned
    rfl
  | order result =>
    cases status : result.status with
    | rejected =>
      simp only [setLeverageResultFact, status] at returned
      obtain ⟨given, rfl⟩ := reasonFact_eq_ok returned
      simp [TicketFact.answers, DispatchResult.outcome, status]
    | outcomeUnknown =>
      simp only [setLeverageResultFact, status] at returned
      obtain ⟨given, rfl⟩ := reasonFact_eq_ok returned
      simp [TicketFact.answers, DispatchResult.outcome, status]
    | _ => simp [setLeverageResultFact, status] at returned

theorem answers_of_cancelResultFact {payload : CancelCommandPayload} {status : AggregateStatus}
    {result : ExchangeCommandResult}
    (returned : cancelResultFact payload status result = .ok fact) :
    fact.val.answers = some (.cancel payload.purpose, (DispatchResult.order result).outcome) := by
  unfold cancelResultFact at returned
  dsimp only at returned
  split_ifs at returned
  split at returned
  all_goals first
    | (rename_i purpose outcome
       obtain rfl := plain_eq_ok.mp returned
       simp [TicketFact.answers, DispatchResult.outcome, purpose, outcome])
    | simp at returned

/-- A plain fact about the slot of the command's kind. -/
theorem answers_of_plain (slot : CommandSlot) {outcome : CommandOutcome} {said : TicketFact}
    {late : said.venueObservedAtMs = none} (returned : plain said late = .ok fact)
    (same : command.kind = slot.kind) (reports : said.answers = some (slot, outcome))
    (order : slot.kind ≠ .cancelOrder := by decide) :
    fact.val.answers = some (command.slot, outcome) := by
  obtain rfl := plain_eq_ok.mp returned
  rw [slot_of_kind same order]
  exact reports

/-- The outcome of a result by its status. -/
theorem outcome_of_status (result : ExchangeCommandResult) :
    (result.status = .accepted → (DispatchResult.order result).outcome = .confirmed) ∧
      (result.status = .rejected → (DispatchResult.order result).outcome = .refused) ∧
      (result.status = .outcomeUnknown → (DispatchResult.order result).outcome = .unknown) := by
  refine ⟨fun status => ?_, fun status => ?_, fun status => ?_⟩
  all_goals rw [DispatchResult.outcome, status]

theorem answers_of_orderResultFact {result : ExchangeCommandResult}
    (returned : orderResultFact command aggregate result = .ok fact) :
    fact.val.answers = some (command.slot, (DispatchResult.order result).outcome) := by
  obtain ⟨accepted, rejected, unknown⟩ := outcome_of_status result
  unfold orderResultFact at returned
  dsimp only at returned
  split at returned
  · rename_i kind status
    rw [accepted status]
    exact answers_of_plain .entry returned kind rfl
  · rename_i kind status
    rw [rejected status]
    exact answers_of_plain .entry returned kind rfl
  · rename_i kind status
    rw [unknown status]
    exact answers_of_plain .entry returned kind rfl
  · rename_i kind
    obtain ⟨payload, -, returned⟩ := bind_eq_ok.mp returned
    split at returned
    · rename_i status
      rw [accepted status]
      exact answers_of_plain .takeProfit returned kind rfl
    · rename_i status
      rw [rejected status]
      exact answers_of_plain .takeProfit returned kind rfl
    · rename_i status
      rw [unknown status]
      exact answers_of_plain .takeProfit returned kind rfl
    · simp at returned
  · rename_i kind
    obtain ⟨payload, -, returned⟩ := bind_eq_ok.mp returned
    obtain ⟨replacement, -, returned⟩ := bind_eq_ok.mp returned
    split at returned
    · rename_i status
      rw [accepted status]
      exact answers_of_plain .replaceProtection returned kind rfl
    · rename_i status
      rw [rejected status]
      exact answers_of_plain .replaceProtection returned kind rfl
    · rename_i status
      rw [unknown status]
      exact answers_of_plain .replaceProtection returned kind rfl
    · simp at returned
  · rename_i kind status
    rw [accepted status]
    exact answers_of_plain .initialStop returned kind rfl
  · rename_i kind status
    rw [rejected status]
    exact answers_of_plain .initialStop returned kind rfl
  · rename_i kind status
    rw [unknown status]
    exact answers_of_plain .initialStop returned kind rfl
  · rename_i kind status
    rw [accepted status]
    exact answers_of_plain .exit returned kind rfl
  · rename_i kind status
    rw [rejected status]
    exact answers_of_plain .exit returned kind rfl
  · rename_i kind status
    rw [unknown status]
    exact answers_of_plain .exit returned kind rfl
  · rename_i kind status
    rw [accepted status]
    exact answers_of_plain .controlledFlatten returned kind rfl
  · rename_i kind status
    rw [rejected status]
    exact answers_of_plain .controlledFlatten returned kind rfl
  · rename_i kind status
    rw [unknown status]
    exact answers_of_plain .controlledFlatten returned kind rfl
  · rename_i cancels
    split at returned
    · rename_i payload carried
      rw [slot_of_cancel cancels carried]
      exact answers_of_cancelResultFact returned
    · simp at returned
  · simp at returned

/-- **A dispatched command's fact is about its slot, and says what the venue answered.** -/
theorem answers_of_commandResultFact {answer : DispatchResult}
    (returned : commandResultFact command aggregate answer = .ok fact) :
    fact.val.answers = some (command.slot, answer.outcome) := by
  unfold commandResultFact at returned
  split_ifs at returned with leverage
  · have slot : command.slot = .setLeverage := slot_of_kind leverage
    rw [slot]
    exact answers_of_setLeverageResultFact returned
  · cases answer with
    | leverage confirmed => simp at returned
    | order result => exact answers_of_orderResultFact returned

/-! ### The facts of a recovery -/

/-- **A recovered command's fact is about its slot.** A submitted command is confirmed; one that is
absent is so, or a cancel whose target is gone; a cancel whose target is still open was refused. -/
theorem answers_of_recoveryFact {decided : UnknownRecoveryDecision}
    (returned : recoveryFact aggregate command decided = .ok fact) :
    decided.status = .reconciledSubmitted ∧ command.kind ≠ .cancelOrder ∧
        fact.val.answers = some (command.slot, .confirmed) ∨
      decided.status = .reconciledAbsent ∧
        fact.val.answers = some (command.slot, .absent) ∨
      decided.status = .reconciledAbsent ∧ command.kind = .cancelOrder ∧
        fact.val.answers = some (command.slot, .confirmed) ∨
      decided.status = .cancelTargetStillOpen ∧
        fact.val.answers = some (command.slot, .refused) := by
  unfold recoveryFact at returned
  split at returned
  · rename_i submitted
    refine .inl ⟨submitted, ?_⟩
    unfold submittedFact at returned
    split at returned
    · rename_i kind
      exact ⟨by simp [kind], answers_of_plain .entry returned kind rfl⟩
    · rename_i kind
      exact ⟨by simp [kind], answers_of_plain .initialStop returned kind rfl⟩
    · rename_i kind
      obtain ⟨payload, -, returned⟩ := bind_eq_ok.mp returned
      exact ⟨by simp [kind], answers_of_plain .takeProfit returned kind rfl⟩
    · rename_i kind
      obtain ⟨payload, -, returned⟩ := bind_eq_ok.mp returned
      obtain ⟨stopPrice, -, returned⟩ := demand_bind_eq_ok.mp returned
      obtain ⟨replaces, -, returned⟩ := demand_bind_eq_ok.mp returned
      obtain ⟨watermarkMs, -, returned⟩ := demand_bind_eq_ok.mp returned
      exact ⟨by simp [kind], answers_of_plain .replaceProtection returned kind rfl⟩
    · rename_i kind
      exact ⟨by simp [kind], answers_of_plain .exit returned kind rfl⟩
    · rename_i kind
      exact ⟨by simp [kind], answers_of_plain .controlledFlatten returned kind rfl⟩
    · simp at returned
  · rename_i absent
    refine .inr ?_
    unfold absentFact at returned
    split at returned
    · rename_i kind
      exact .inl ⟨absent, answers_of_plain .entry returned kind rfl⟩
    · rename_i kind
      exact .inl ⟨absent, answers_of_plain .initialStop returned kind rfl⟩
    · rename_i kind
      exact .inl ⟨absent, answers_of_plain .takeProfit returned kind rfl⟩
    · rename_i kind
      exact .inl ⟨absent, answers_of_plain .replaceProtection returned kind rfl⟩
    · rename_i kind
      exact .inl ⟨absent, answers_of_plain .exit returned kind rfl⟩
    · rename_i kind
      exact .inl ⟨absent, answers_of_plain .controlledFlatten returned kind rfl⟩
    · rename_i cancels
      split at returned
      · rename_i payload carried
        rw [slot_of_cancel cancels carried]
        unfold cancelAbsentFact at returned
        obtain ⟨-, returned⟩ := refuse_bind_eq_ok.mp returned
        split at returned
        all_goals
          rename_i purpose
          obtain rfl := plain_eq_ok.mp returned
          rw [purpose]
        · exact .inr (.inl ⟨absent, cancels, rfl⟩)
        · exact .inr (.inl ⟨absent, cancels, rfl⟩)
        · exact .inl ⟨absent, rfl⟩
        · exact .inl ⟨absent, rfl⟩
      · simp at returned
    · simp at returned
  · rename_i stillOpen
    refine .inr (.inr (.inr ⟨stillOpen, ?_⟩))
    split at returned
    · rename_i payload carried
      rw [slot_of_cancel (kind_of_cancel_payload carried) carried]
      unfold stillOpenFact at returned
      split at returned
      · rename_i purpose
        obtain ⟨-, returned⟩ := refuse_bind_eq_ok.mp returned
        obtain rfl := plain_eq_ok.mp returned
        rw [purpose]
        rfl
      · rename_i purpose
        obtain rfl := plain_eq_ok.mp returned
        rw [purpose]
        rfl
      · simp at returned
    · simp at returned
  · simp at returned

/-! ### Where cancels are reported -/

/-- The result of a cancel is reported in the status it is dispatched in. -/
theorem applicable_of_commandResultFact {answer : DispatchResult} {payload : CancelCommandPayload}
    (carried : command.payload = .cancel payload)
    (returned : commandResultFact command aggregate answer = .ok fact) :
    aggregate.status = payload.purpose.applicableStatus := by
  have cancels := kind_of_cancel_payload carried
  unfold commandResultFact at returned
  rw [if_neg (by simp [cancels])] at returned
  cases answer with
  | leverage confirmed => simp at returned
  | order result =>
    simp only [orderResultFact, cancels, carried] at returned
    unfold cancelResultFact at returned
    dsimp only at returned
    by_contra other
    rw [if_pos other] at returned
    simp at returned

/-- The target of an unknown cancel is found gone in the status of its unknown outcome. -/
theorem unknown_of_recoveryFact {decided : UnknownRecoveryDecision}
    {payload : CancelCommandPayload} (carried : command.payload = .cancel payload)
    (absent : decided.status = .reconciledAbsent)
    (returned : recoveryFact aggregate command decided = .ok fact) :
    aggregate.status = payload.purpose.unknownStatus := by
  have cancels := kind_of_cancel_payload carried
  simp only [recoveryFact, absent, absentFact, cancels, carried] at returned
  unfold cancelAbsentFact at returned
  exact not_not.mp (refuse_bind_eq_ok.mp returned).1

end Answers

end TradingKernel
