/-
**A command that its aggregate waits for, and the result it will have.**

`Awaited aggregate command` says that the command is dispatched in the aggregate's status and has
the quantities, prices and order ids that the status waits for. Whatever the venue answers to such a
command, the answer stands for a fact, and the reducer accepts that fact (`Awaited.accepted`): one
case for each kind of command and each status of a result.
-/

import TradingKernel.Application.DispatchCommand

namespace TradingKernel

open Text Guard Reducer

/-! ### Awaited commands -/

/-- A cancel names the order that its purpose is about. -/
def CancelPurpose.target (aggregate : TradeAggregate) : CancelPurpose → Option String
  | .entryRemainder => aggregate.entryExchangeOrderId
  | .selectionVacuumEntry => aggregate.pendingCancelExchangeOrderId
  | .runnerOldStop => aggregate.pendingReplacedStopExchangeOrderId
  | .reconciliationCleanup => aggregate.pendingCancelExchangeOrderId

/-- A replacement has the quantity of the position, the pending price and watermark, and replaces
the active stop. -/
structure ReplacesActiveStop (aggregate : TradeAggregate) (payload : OrderCommandPayload) :
    Prop where
  quantity : payload.quantity = aggregate.positionQty
  price : ∃ price, payload.stopPrice = some price ∧ aggregate.pendingStopPrice = some price
  replaces : ∃ id, payload.replacesExchangeOrderId = some id ∧
    aggregate.activeStopExchangeOrderId = some id
  watermark : ∃ watermark, payload.sourceWatermarkMs = some watermark ∧
    aggregate.pendingStopWatermarkMs = some watermark

/-- The command has the terms that the aggregate waits for. -/
def MatchesTerms (aggregate : TradeAggregate) (command : ExchangeCommand) : Prop :=
  match command.kind, command.payload with
  | .setLeverage, .setLeverage payload =>
      payload.desiredLeverage = aggregate.ticket.selectedLeverage
  | .takeProfit, .order payload => payload.quantity = aggregate.tp1TargetQty
  | .replaceProtection, .order payload => ReplacesActiveStop aggregate payload
  | .cancelOrder, .cancel payload =>
      payload.purpose.target aggregate = some payload.exchangeOrderId.text
  | .entry, .order _ | .initialStop, .order _ | .exit, .order _ | .controlledFlatten, .order _ =>
      True
  | _, _ => False

/-- The aggregate waits for the command. -/
structure Awaited (aggregate : TradeAggregate) (command : ExchangeCommand) : Prop where
  applicable : commandIsApplicable command aggregate.status = true
  terms : MatchesTerms aggregate command

/-! ### Results -/

namespace ExchangeCommandResult

variable (result : ExchangeCommandResult)

theorem observed_pos : 0 < result.observedAtMs := by
  have valid := result.valid
  simp only [CommandResultTerms.check, refuse_bind_eq_ok] at valid
  exact not_le.mp valid.1

/-- An acceptance names the order. -/
theorem named (accepted : result.status = .accepted) : ¬ Blank result.orderIdText := by
  have valid := result.valid
  simp only [CommandResultTerms.check, refuse_bind_eq_ok, refuse_eq_ok, accepted, if_pos] at valid
  cases id : result.exchangeOrderId with
  | none =>
    have empty : Blank "" := by decide
    simp [id, empty] at valid
  | some text => simpa [orderIdText, id] using valid.2.2.1

/-- A refusal and an unknown outcome give their reason. -/
theorem reasoned (refused : result.status ≠ .accepted) : ¬ Blank result.reasonText := by
  have valid := result.valid
  simp only [CommandResultTerms.check, refuse_bind_eq_ok, refuse_eq_ok, refused, if_false] at valid
  cases reason : result.reason with
  | none =>
    have empty : Blank "" := by decide
    simp [reason, empty] at valid
  | some text => simpa [reasonText, reason] using valid.2.2.1

end ExchangeCommandResult

/-- A venue answers a leverage change with the verified leverage, and anything else with an order
result; a leverage change that it refuses or that stays unknown is an order result too. -/
def DispatchResult.Fits (kind : ExchangeCommandKind) : DispatchResult → Prop
  | .leverage _ => kind = .setLeverage
  | .order result => kind = .setLeverage → result.status ≠ .accepted

/-- The verified leverage is the one that was asked for. -/
def DispatchResult.Verified (aggregate : TradeAggregate) : DispatchResult → Prop
  | .leverage confirmed =>
      confirmed.exchangeConfiguredLeverage = aggregate.ticket.selectedLeverage
  | .order _ => True

theorem DispatchResult.occurred_pos (result : DispatchResult) : 0 < result.occurredAtMs := by
  cases result with
  | order result => exact result.observed_pos
  | leverage result => exact result.positive.2

/-! ### Acceptance -/

/-- The fact exists, and the reducer accepts it in any event. -/
def FactAccepted (aggregate : TradeAggregate) (outcome : Except Raised PlainFact) : Prop :=
  ∃ fact, outcome = .ok fact ∧ ∀ event, ∃ reduction,
    reduceFact aggregate event fact.val = .ok reduction

section Acceptance

variable {aggregate : TradeAggregate} {command : ExchangeCommand}
  {result : ExchangeCommandResult}

theorem factAccepted_plain {fact : TicketFact} {late : fact.venueObservedAtMs = none}
    (accepts : ∀ event, ∃ reduction, reduceFact aggregate event fact = .ok reduction) :
    FactAccepted aggregate (plain fact late) :=
  ⟨⟨fact, late⟩, rfl, accepts⟩

theorem factAccepted_reason {reason required : String} {fact : NonBlankText → TicketFact}
    {late : ∀ reason, (fact reason).venueObservedAtMs = none} (given : ¬ Blank reason)
    (accepts : ∀ reason event, ∃ reduction,
      reduceFact aggregate event (fact reason) = .ok reduction) :
    FactAccepted aggregate (reasonFact reason required fact late) := by
  have stripped : ∃ value, NonBlankText.ofText? reason = some value := by
    exact ⟨_, dif_neg given⟩
  obtain ⟨value, isValue⟩ := stripped
  refine ⟨⟨fact value, late value⟩, ?_, accepts value⟩
  rw [reasonFact, isValue]
  rfl

/-- A result of a status that the kind's command is dispatched in. -/
theorem Awaited.mem (awaited : Awaited aggregate command) (order : command.kind ≠ .cancelOrder) :
    aggregate.status ∈ command.kind.applicableStatuses := by
  have applicable := awaited.applicable
  rwa [commandIsApplicable, if_pos order, decide_eq_true_eq] at applicable

theorem accepted_setLeverage {answer : DispatchResult}
    (status : aggregate.status = .leveragePending) (fits : answer.Fits .setLeverage)
    (verified : answer.Verified aggregate) :
    FactAccepted aggregate (setLeverageResultFact answer) := by
  have pending : aggregate.status ∈ ([.leveragePending, .leverageOutcomeUnknown] :
      List AggregateStatus) := by simp [status]
  cases answer with
  | leverage confirmed =>
    exact factAccepted_plain fun event =>
      ⟨_, leverageConfirmed_eq_ok.mpr ⟨pending, verified, rfl⟩⟩
  | order result =>
    have refused : result.status ≠ .accepted := fits rfl
    have reasoned := result.reasoned refused
    cases outcome : result.status with
    | rejected =>
      simp only [setLeverageResultFact, outcome]
      exact factAccepted_reason reasoned fun reason event =>
        ⟨_, leverageRejected_eq_ok.mpr ⟨pending, rfl⟩⟩
    | outcomeUnknown =>
      simp only [setLeverageResultFact, outcome]
      exact factAccepted_reason reasoned fun reason event =>
        ⟨_, reported_eq_ok.mpr ⟨requireStatus_eq_ok.mpr status, reason.not_blank, rfl⟩⟩
    | _ =>
      have member := result.status_mem
      simp [outcome] at member refused

theorem requireStatus_requireSameOrder {status : AggregateStatus} {id message : String}
    {held : Option String} (at_status : aggregate.status = status) (holds : held = some id) :
    (do requireStatus aggregate status; requireSameOrder id held message) = .ok () := by
  rw [requireStatus_bind_eq_ok, requireSameOrder, refuse_eq_ok, not_not]
  exact ⟨at_status, holds.symm⟩

theorem accepted_cancel {payload : CancelCommandPayload}
    (status : aggregate.status = payload.purpose.applicableStatus)
    (target : payload.purpose.target aggregate = some payload.exchangeOrderId.text) :
    FactAccepted aggregate (cancelResultFact payload aggregate.status result) := by
  have member := result.status_mem
  have named := payload.exchangeOrderId.not_blank
  unfold cancelResultFact
  rw [if_neg (not_not.mpr status)]
  cases purpose : payload.purpose with
  | entryRemainder =>
    rw [purpose] at status target
    cases outcome : result.status with
    | accepted =>
      exact factAccepted_plain fun event => ⟨_, entryRemainderCancelConfirmed_eq_ok.mpr
        ⟨by simp [status, CancelPurpose.applicableStatus], target, rfl⟩⟩
    | rejected =>
      exact factAccepted_plain fun event => ⟨_, reported_eq_ok.mpr
        ⟨requireStatus_requireSameOrder status target, result.reasoned (by simp [outcome]), rfl⟩⟩
    | outcomeUnknown =>
      exact factAccepted_plain fun event => ⟨_, reported_eq_ok.mpr
        ⟨requireStatus_requireSameOrder status target, result.reasoned (by simp [outcome]), rfl⟩⟩
    | _ => simp [outcome] at member
  | selectionVacuumEntry =>
    rw [purpose] at status target
    cases outcome : result.status with
    | accepted =>
      exact factAccepted_plain fun event => ⟨_, entryVacuumCancelConfirmed_eq_ok.mpr
        ⟨by simp [status, CancelPurpose.applicableStatus], target, rfl⟩⟩
    | rejected =>
      exact factAccepted_plain fun event => ⟨_, entryVacuumCancelRejected_eq_ok.mpr
        ⟨by simp [status, CancelPurpose.applicableStatus], target, rfl⟩⟩
    | outcomeUnknown =>
      exact factAccepted_plain fun event => ⟨_, entryVacuumCancelOutcomeUnknown_eq_ok.mpr
        ⟨status, target, rfl⟩⟩
    | _ => simp [outcome] at member
  | runnerOldStop =>
    rw [purpose] at status target
    cases outcome : result.status with
    | accepted =>
      exact factAccepted_plain fun event => ⟨_, protectionCancelConfirmed_eq_ok.mpr
        (.inl ⟨status, target, rfl⟩)⟩
    | rejected =>
      exact factAccepted_plain fun event => ⟨_, reported_eq_ok.mpr
        ⟨requireStatus_requireSameOrder status target, result.reasoned (by simp [outcome]), rfl⟩⟩
    | outcomeUnknown =>
      exact factAccepted_plain fun event => ⟨_, reported_eq_ok.mpr
        ⟨requireStatus_requireSameOrder status target, result.reasoned (by simp [outcome]), rfl⟩⟩
    | _ => simp [outcome] at member
  | reconciliationCleanup =>
    rw [purpose] at status target
    cases outcome : result.status with
    | accepted =>
      exact factAccepted_plain fun event => ⟨_, ownedOrphanCancelConfirmed_eq_ok.mpr
        ⟨status, named, target, rfl⟩⟩
    | rejected =>
      exact factAccepted_plain fun event => ⟨_, reported_eq_ok.mpr
        ⟨requireStatus_requireSameOrder status target, result.reasoned (by simp [outcome]), rfl⟩⟩
    | outcomeUnknown =>
      exact factAccepted_plain fun event => ⟨_, reported_eq_ok.mpr
        ⟨requireStatus_requireSameOrder status target, result.reasoned (by simp [outcome]), rfl⟩⟩
    | _ => simp [outcome] at member

/-- An order that is accepted, refused or of unknown outcome, in the one status of its kind. -/
theorem accepted_takeProfit {payload : OrderCommandPayload}
    (status : aggregate.status = .tp1Pending) (kind : command.kind = .takeProfit)
    (isPayload : command.payload = .order payload)
    (quantity : payload.quantity = aggregate.tp1TargetQty) :
    FactAccepted aggregate (orderResultFact command aggregate result) := by
  have member := result.status_mem
  have returned : orderPayload command "TP1 command payload is invalid" = .ok payload := by
    rw [orderPayload, isPayload]
  cases outcome : result.status with
  | accepted =>
    simp only [orderResultFact, kind, outcome, returned]
    exact factAccepted_plain fun event => ⟨_, takeProfitConfirmed_eq_ok.mpr
      ⟨by simp [status], result.named outcome, quantity, rfl⟩⟩
  | rejected =>
    simp only [orderResultFact, kind, outcome, returned]
    exact factAccepted_plain fun event => ⟨_, reported_eq_ok.mpr
      ⟨requireStatus_eq_ok.mpr status, result.reasoned (by simp [outcome]), rfl⟩⟩
  | outcomeUnknown =>
    simp only [orderResultFact, kind, outcome, returned]
    exact factAccepted_plain fun event => ⟨_, reported_eq_ok.mpr
      ⟨requireStatus_eq_ok.mpr status, result.reasoned (by simp [outcome]), rfl⟩⟩
  | _ => simp [outcome] at member

theorem accepted_replaceProtection {payload : OrderCommandPayload}
    (status : aggregate.status = .runnerReplacementPending)
    (kind : command.kind = .replaceProtection) (isPayload : command.payload = .order payload)
    (terms : ReplacesActiveStop aggregate payload) :
    FactAccepted aggregate (orderResultFact command aggregate result) := by
  have member := result.status_mem
  have returned : orderPayload command "protection replacement payload is invalid" =
      .ok payload := by
    rw [orderPayload, isPayload]
  obtain ⟨price, hasPrice, pendingPrice⟩ := terms.price
  obtain ⟨replaces, hasReplaces, active⟩ := terms.replaces
  obtain ⟨watermark, hasWatermark, pendingWatermark⟩ := terms.watermark
  have replacement : replacementFact payload result.orderIdText =
      .ok ⟨result.orderIdText, payload.quantity, price, replaces, watermark⟩ := by
    rw [replacementFact, hasPrice, hasReplaces, hasWatermark]
    rfl
  cases outcome : result.status with
  | accepted =>
    simp only [orderResultFact, kind, outcome, returned, replacement, bind, Except.bind]
    exact factAccepted_plain fun event => ⟨_, protectionReplacementConfirmed_eq_ok.mpr
      ⟨by simp [status], result.named outcome, terms.quantity, active,
        ⟨pendingPrice.symm, pendingWatermark.symm⟩, rfl⟩⟩
  | rejected =>
    simp only [orderResultFact, kind, outcome, returned, replacement, bind, Except.bind]
    exact factAccepted_plain fun event => ⟨_, reported_eq_ok.mpr
      ⟨requireStatus_eq_ok.mpr status, result.reasoned (by simp [outcome]), rfl⟩⟩
  | outcomeUnknown =>
    simp only [orderResultFact, kind, outcome, returned, replacement, bind, Except.bind]
    exact factAccepted_plain fun event => ⟨_, reported_eq_ok.mpr
      ⟨requireStatus_eq_ok.mpr status, result.reasoned (by simp [outcome]), rfl⟩⟩
  | _ => simp [outcome] at member

theorem accepted_entry (pending : aggregate.status ∈ [.entryPending, .leverageConfirmed])
    (kind : command.kind = .entry) :
    FactAccepted aggregate (orderResultFact command aggregate result) := by
  have member := result.status_mem
  have orUnknown : aggregate.status ∈ ([.entryPending, .leverageConfirmed,
      .entryOutcomeUnknown] : List AggregateStatus) := by
    simp only [List.mem_cons, List.not_mem_nil, or_false] at pending ⊢
    exact pending.imp_right .inl
  cases outcome : result.status with
  | accepted =>
    simp only [orderResultFact, kind, outcome]
    exact factAccepted_plain fun event => ⟨_, orderAccepted_eq_ok.mpr
      ⟨orUnknown, result.named outcome, rfl⟩⟩
  | rejected =>
    simp only [orderResultFact, kind, outcome]
    exact factAccepted_plain fun event => ⟨_, entryRejected_eq_ok.mpr ⟨pending, rfl⟩⟩
  | outcomeUnknown =>
    simp only [orderResultFact, kind, outcome]
    exact factAccepted_plain fun event => ⟨_, reported_eq_ok.mpr
      ⟨requireStatusIn_eq_ok.mpr pending, result.reasoned (by simp [outcome]), rfl⟩⟩
  | _ => simp [outcome] at member

theorem accepted_initialStop (status : aggregate.status = .protectionPending)
    (kind : command.kind = .initialStop) :
    FactAccepted aggregate (orderResultFact command aggregate result) := by
  have member := result.status_mem
  cases outcome : result.status with
  | accepted =>
    simp only [orderResultFact, kind, outcome]
    exact factAccepted_plain fun event => ⟨_, initialStopConfirmed_eq_ok.mpr
      ⟨by simp [status], rfl, result.named outcome, rfl⟩⟩
  | rejected =>
    simp only [orderResultFact, kind, outcome]
    exact factAccepted_plain fun event => ⟨_, initialStopRejected_eq_ok.mpr
      ⟨status, result.reasoned (by simp [outcome]), rfl⟩⟩
  | outcomeUnknown =>
    simp only [orderResultFact, kind, outcome]
    exact factAccepted_plain fun event => ⟨_, reported_eq_ok.mpr
      ⟨requireStatus_eq_ok.mpr status, result.reasoned (by simp [outcome]), rfl⟩⟩
  | _ => simp [outcome] at member

theorem accepted_exit (status : aggregate.status = .exitPending) (kind : command.kind = .exit) :
    FactAccepted aggregate (orderResultFact command aggregate result) := by
  have member := result.status_mem
  cases outcome : result.status with
  | accepted =>
    simp only [orderResultFact, kind, outcome]
    exact factAccepted_plain fun event => ⟨_, orderAccepted_eq_ok.mpr
      ⟨by simp [status], result.named outcome, rfl⟩⟩
  | rejected =>
    simp only [orderResultFact, kind, outcome]
    exact factAccepted_plain fun event => ⟨_, reported_eq_ok.mpr
      ⟨requireStatus_eq_ok.mpr status, result.reasoned (by simp [outcome]), rfl⟩⟩
  | outcomeUnknown =>
    simp only [orderResultFact, kind, outcome]
    exact factAccepted_plain fun event => ⟨_, reported_eq_ok.mpr
      ⟨requireStatus_eq_ok.mpr status, result.reasoned (by simp [outcome]), rfl⟩⟩
  | _ => simp [outcome] at member

theorem accepted_controlledFlatten (status : aggregate.status = .controlledFlattenPending)
    (kind : command.kind = .controlledFlatten) :
    FactAccepted aggregate (orderResultFact command aggregate result) := by
  have member := result.status_mem
  cases outcome : result.status with
  | accepted =>
    simp only [orderResultFact, kind, outcome]
    exact factAccepted_plain fun event => ⟨_, orderAccepted_eq_ok.mpr
      ⟨by simp [status], result.named outcome, rfl⟩⟩
  | rejected =>
    simp only [orderResultFact, kind, outcome]
    exact factAccepted_plain fun event => ⟨_, reported_eq_ok.mpr
      ⟨requireStatus_eq_ok.mpr status, result.reasoned (by simp [outcome]), rfl⟩⟩
  | outcomeUnknown =>
    simp only [orderResultFact, kind, outcome]
    exact factAccepted_plain fun event => ⟨_, reported_eq_ok.mpr
      ⟨requireStatus_eq_ok.mpr status, result.reasoned (by simp [outcome]), rfl⟩⟩
  | _ => simp [outcome] at member

/-- **Every result of an awaited command is accepted.** -/
theorem Awaited.accepted (awaited : Awaited aggregate command) {answer : DispatchResult}
    (fits : answer.Fits command.kind) (verified : answer.Verified aggregate) :
    FactAccepted aggregate (commandResultFact command aggregate answer) := by
  have terms := awaited.terms
  unfold commandResultFact
  by_cases leverage : command.kind = .setLeverage
  · have status := awaited.mem (by simp [leverage])
    rw [leverage] at fits status
    rw [if_pos leverage]
    exact accepted_setLeverage (List.mem_singleton.mp status) fits verified
  · rw [if_neg leverage]
    cases answer with
    | leverage confirmed => exact absurd fits leverage
    | order result =>
      cases kind : command.kind with
      | setLeverage => exact absurd kind leverage
      | entry =>
        have status := awaited.mem (by simp [kind])
        rw [kind] at status
        exact accepted_entry status kind
      | initialStop =>
        have status := awaited.mem (by simp [kind])
        rw [kind] at status
        exact accepted_initialStop (List.mem_singleton.mp status) kind
      | exit =>
        have status := awaited.mem (by simp [kind])
        rw [kind] at status
        exact accepted_exit (List.mem_singleton.mp status) kind
      | controlledFlatten =>
        have status := awaited.mem (by simp [kind])
        rw [kind] at status
        exact accepted_controlledFlatten (List.mem_singleton.mp status) kind
      | takeProfit =>
        have status := awaited.mem (by simp [kind])
        rw [kind] at status
        cases payload : command.payload with
        | order payload =>
          simp only [MatchesTerms, kind, payload] at terms
          exact accepted_takeProfit (List.mem_singleton.mp status) kind payload terms
        | _ => simp [MatchesTerms, kind, payload] at terms
      | replaceProtection =>
        have status := awaited.mem (by simp [kind])
        rw [kind] at status
        cases payload : command.payload with
        | order payload =>
          simp only [MatchesTerms, kind, payload] at terms
          exact accepted_replaceProtection (List.mem_singleton.mp status) kind payload terms
        | _ => simp [MatchesTerms, kind, payload] at terms
      | cancelOrder =>
        cases payload : command.payload with
        | cancel payload =>
          simp only [MatchesTerms, kind, payload] at terms
          have applicable := awaited.applicable
          simp only [commandIsApplicable, kind, payload, ne_eq, not_true_eq_false, if_false,
            decide_eq_true_eq] at applicable
          simp only [orderResultFact, kind, payload]
          exact accepted_cancel applicable terms
        | _ => simp [MatchesTerms, kind, payload] at terms

end Acceptance

end TradingKernel
