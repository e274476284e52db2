/-
**Which command an accepted event asks for.**

An accepted event asks for at most one command, and the aggregate it leaves waits for exactly that
one: its status is one the command is dispatched in, and its quantities, prices and order ids are
the command's (`AwaitedBy`). Conversely no event leads to a status that waits for a command without
asking for it (`Asks.of_reduceFact`).
-/

import TradingKernel.Domain.Reducer

namespace TradingKernel

open Reducer

/-! ### Requests -/

/-- The effect asks for an exchange command. -/
def KernelEffect.asksCommand : KernelEffect → Bool
  | .prepareEntryCommand .. | .prepareSetLeverageCommand _ | .prepareInitialStopCommand ..
  | .prepareTakeProfitCommand .. | .prepareProtectionReplacementCommand ..
  | .prepareExitCommand .. | .cancelEntryRemainder _ | .cancelVacuumEntryOrder ..
  | .prepareControlledFlattenCommand .. | .cancelProtectionOrders .. => true
  | _ => false

/-- The effects that ask for a command. -/
def requests (effects : List KernelEffect) : List KernelEffect :=
  effects.filter KernelEffect.asksCommand

@[simp] theorem requests_nil : requests [] = [] := rfl

@[simp] theorem requests_append (first second : List KernelEffect) :
    requests (first ++ second) = requests first ++ requests second :=
  List.filter_append ..

theorem requests_cons (effect : KernelEffect) (effects : List KernelEffect) :
    requests (effect :: effects) = requests [effect] ++ requests effects :=
  requests_append [effect] effects

@[simp] theorem requests_resolveFrom (current : TradeAggregate) (unknown : AggregateStatus)
    (kind : String) : requests (current.resolveFrom unknown kind) = [] := by
  unfold TradeAggregate.resolveFrom
  split_ifs <;> rfl

@[simp] theorem requests_resolveCancelFrom (current : TradeAggregate) (unknown : AggregateStatus)
    (id kind : String) : requests (current.resolveCancelFrom unknown id kind) = [] := by
  unfold TradeAggregate.resolveCancelFrom
  split_ifs <;> rfl

/-- The statuses that wait for a command about the exposure. -/
def waitingStatuses : List AggregateStatus :=
  [.leveragePending, .entryPending, .leverageConfirmed, .protectionPending, .tp1Pending,
    .runnerReplacementPending, .runnerOldStopCancelPending, .exitPending,
    .controlledFlattenPending]

/-- The aggregate waits for the command that the effect asks for, on these terms. -/
def AwaitedBy (aggregate : TradeAggregate) : KernelEffect → Prop
  | .prepareSetLeverageCommand ticket =>
      aggregate.status = .leveragePending ∧ ticket = aggregate.ticket
  | .prepareEntryCommand ticket _ =>
      aggregate.status ∈ [.entryPending, .leverageConfirmed] ∧ ticket = aggregate.ticket
  | .prepareInitialStopCommand _ quantity _ =>
      aggregate.status = .protectionPending ∧ quantity = aggregate.positionQty
  | .prepareTakeProfitCommand _ quantity _ =>
      aggregate.status = .tp1Pending ∧ quantity = aggregate.tp1TargetQty
  | .prepareProtectionReplacementCommand _ quantity stopPrice replaces watermarkMs =>
      aggregate.status = .runnerReplacementPending ∧ quantity = aggregate.positionQty ∧
        aggregate.pendingStopPrice = some stopPrice ∧
        aggregate.activeStopExchangeOrderId = some replaces ∧
        aggregate.pendingStopWatermarkMs = some watermarkMs
  | .prepareExitCommand _ quantity _ =>
      aggregate.status = .exitPending ∧ quantity = aggregate.positionQty
  | .cancelEntryRemainder _ => aggregate.status = .partialFillIncident
  | .cancelVacuumEntryOrder _ id _ =>
      aggregate.status = .entryVacuumCancelPending ∧
        aggregate.pendingCancelExchangeOrderId = some id
  | .prepareControlledFlattenCommand _ quantity =>
      aggregate.status = .controlledFlattenPending ∧ quantity = aggregate.positionQty
  | .cancelProtectionOrders _ id _ purpose =>
      purpose = .runnerOldStop ∧ aggregate.status = .runnerOldStopCancelPending ∧
          aggregate.pendingReplacedStopExchangeOrderId = some id ∨
        purpose = .reconciliationCleanup ∧ aggregate.status = .reconciliationPending ∧
          aggregate.pendingCancelExchangeOrderId = some id
  | _ => False

/-- A reduction asks for nothing and waits for nothing, or it asks for the one command it waits
for. -/
inductive Asks (result : Reduction) : Prop
  | nothing (none : requests result.effects = [])
      (idle : result.aggregate.status ∉ waitingStatuses)
  | one (effect : KernelEffect) (only : requests result.effects = [effect])
      (awaited : AwaitedBy result.aggregate effect)

namespace Asks

variable {current : TradeAggregate} {event : TicketEvent} {fact : TicketFact} {result : Reduction}

/-- An issued Ticket waits for its leverage change, or for its ENTRY. -/
theorem issued (ticket : TradeTicket) :
    Asks ⟨issuedAggregate ticket 1, issuedEffects ticket⟩ := by
  cases change : ticket.leverageChangeRequired with
  | true =>
    refine .one (.prepareSetLeverageCommand ticket) ?_ ⟨?_, rfl⟩
    · simp [issuedEffects, change, requests, KernelEffect.asksCommand]
    · simp [issuedAggregate, change]
  | false =>
    refine .one (.prepareEntryCommand ticket none) ?_ ⟨?_, rfl⟩
    · simp [issuedEffects, change, requests, KernelEffect.asksCommand]
    · simp [issuedAggregate, change]

/-- A move to a status that waits for nothing, without a request. -/
theorem of_idle {status : AggregateStatus} {updates : TradeAggregate → TradeAggregate}
    {effects : List KernelEffect} (none : requests effects = [])
    (idle : status ∉ waitingStatuses) : Asks (transition current event status updates effects) :=
  .nothing none idle

theorem of_reported {guard : Reduced Unit} {reason required kind : String}
    {status : AggregateStatus}
    (reduced : reported current event guard reason required status kind = .ok result)
    (idle : status ∉ waitingStatuses) : Asks result := by
  obtain ⟨-, -, rfl⟩ := reported_eq_ok.mp reduced
  exact of_idle rfl idle

theorem of_orderAccepted {expected : List AggregateStatus} {id required kind : String}
    {status unknown : AggregateStatus} {record : String → TradeAggregate → TradeAggregate}
    (reduced : orderAccepted current event expected id required status record unknown kind =
      .ok result) (idle : status ∉ waitingStatuses) : Asks result := by
  obtain ⟨-, -, rfl⟩ := orderAccepted_eq_ok.mp reduced
  exact of_idle (requests_resolveFrom ..) idle

theorem of_closedUnfilled {status : AggregateStatus} {updates : TradeAggregate → TradeAggregate}
    {first : List KernelEffect} (none : requests first = []) (idle : status ∉ waitingStatuses) :
    Asks (closedUnfilled current event status updates first) := by
  refine .nothing ?_ idle
  show requests (first ++ releaseEntry current) = []
  rw [requests_append, none]
  rfl

/-- A quiet beginning and one request. -/
theorem of_last {status : AggregateStatus} {updates : TradeAggregate → TradeAggregate}
    {first : List KernelEffect} {effect : KernelEffect} (none : requests first = [])
    (asks : effect.asksCommand = true)
    (awaited : AwaitedBy (transition current event status updates (first ++ [effect])).aggregate
      effect) :
    Asks (transition current event status updates (first ++ [effect])) := by
  refine .one effect ?_ awaited
  show requests (first ++ [effect]) = [effect]
  rw [requests_append, none]
  simp [requests, asks]

theorem of_initialStopMissing {first : List KernelEffect} {partialKind kind : String}
    (none : requests first = []) :
    Asks (initialStopMissing current event first partialKind kind) := by
  unfold initialStopMissing
  split_ifs
  · refine .one (.prepareControlledFlattenCommand current.ticketId current.positionQty) ?_
      ⟨rfl, rfl⟩
    show requests (first ++ _) = _
    rw [requests_append, none]
    rfl
  · refine .one (.prepareExitCommand current.ticketId current.positionQty kind) ?_ ⟨rfl, rfl⟩
    show requests (first ++ _) = _
    rw [requests_append, none]
    rfl

theorem of_flattened : Asks (flattened current event) := by
  have lane : requests (if current.entryLaneHeld then [.releaseEntryLane current.ticketId]
      else []) = [] := by split_ifs <;> rfl
  cases next : nextCleanupOrderId current with
  | none =>
    refine of_idle ?_ (by decide)
    simp [next, lane]
  | some id =>
    refine .one (cancelCleanup current id) ?_ (.inr ⟨rfl, rfl, ?_⟩)
    · simp only [flattened, next, transition_effects, requests_append, lane]
      rfl
    · simp [flattened, next]

theorem of_entryFilled {fact : EntryFilled} :
    Asks (transition current event (entryFilledTarget fact) (postFillUpdates fact)
      (entryFilledEffects current fact)) := by
  cases disposition : fact.postFillRisk.disposition with
  | normal =>
    refine .one (.prepareInitialStopCommand current.ticketId fact.filledQty
      current.ticket.initialStopPrice) ?_ ⟨?_, rfl⟩
    · simp [entryFilledEffects, disposition, requests, KernelEffect.asksCommand]
    · simp [entryFilledTarget, disposition]
  | flattenAfterProtection =>
    refine .one (.prepareInitialStopCommand current.ticketId fact.filledQty
      current.ticket.initialStopPrice) ?_ ⟨?_, rfl⟩
    · simp [entryFilledEffects, disposition, requests, KernelEffect.asksCommand,
        TradeAggregate.openIncident]
    · simp [entryFilledTarget, disposition]
  | flattenImmediately =>
    refine .one (.prepareControlledFlattenCommand current.ticketId fact.filledQty) ?_ ⟨?_, rfl⟩
    · simp [entryFilledEffects, disposition, requests, KernelEffect.asksCommand,
        TradeAggregate.openIncident]
    · simp [entryFilledTarget, disposition]

theorem of_stopConfirmed {id : String} {quantity : ℚ} :
    Asks (stopConfirmed current event id quantity) := by
  unfold stopConfirmed
  split_ifs
  · exact .one (.prepareControlledFlattenCommand current.ticketId current.positionQty) rfl
      ⟨rfl, rfl⟩
  · exact of_idle (requests_resolveFrom ..) (by decide)

/-- **An accepted fact asks for the command its aggregate waits for, and for no other.** -/
theorem of_reduceFact (reduced : reduceFact current event fact = .ok result) : Asks result := by
  cases fact with
  | leverageConfirmed fact =>
    obtain ⟨-, -, rfl⟩ := leverageConfirmed_eq_ok.mp reduced
    exact of_last (requests_resolveFrom ..) rfl ⟨by simp, rfl⟩
  | leverageRejected reason =>
    obtain ⟨-, rfl⟩ := leverageRejected_eq_ok.mp reduced
    exact of_closedUnfilled (requests_resolveFrom ..) (by decide)
  | leverageOutcomeUnknown reason => exact of_reported reduced (by decide)
  | entryAccepted id => exact of_orderAccepted reduced (by decide)
  | entryRejected reason =>
    obtain ⟨-, rfl⟩ := entryRejected_eq_ok.mp reduced
    exact of_closedUnfilled rfl (by decide)
  | entryOutcomeUnknown reason => exact of_reported reduced (by decide)
  | entryAbsenceConfirmed commandId =>
    obtain ⟨-, -, returned⟩ := absenceConfirmed_eq_ok.mp reduced
    obtain rfl := Except.ok.inj returned
    exact of_closedUnfilled rfl (by decide)
  | entryFilled fact =>
    obtain ⟨-, -, -, -, rfl⟩ := entryFilled_eq_ok.mp reduced
    exact of_entryFilled
  | entryPartiallyFilled filled requested price =>
    obtain ⟨-, -, -, rfl⟩ := entryPartiallyFilled_eq_ok.mp reduced
    exact .one (.cancelEntryRemainder current.ticketId) rfl rfl
  | entryRemainderCancelConfirmed id =>
    obtain ⟨-, -, rfl⟩ := entryRemainderCancelConfirmed_eq_ok.mp reduced
    exact of_last (requests_resolveCancelFrom ..) rfl ⟨rfl, rfl⟩
  | entryRemainderCancelRejected id reason => exact of_reported reduced (by decide)
  | entryRemainderCancelOutcomeUnknown id reason => exact of_reported reduced (by decide)
  | entryVacuumSuperseded fact =>
    obtain ⟨-, rfl⟩ := entryVacuumSuperseded_eq_ok.mp reduced
    exact of_closedUnfilled rfl (by decide)
  | entryVacuumCancelRequested fact =>
    obtain ⟨-, -, -, rfl⟩ := entryVacuumCancelRequested_eq_ok.mp reduced
    exact of_last (requests_resolveFrom ..) rfl ⟨rfl, rfl⟩
  | entryVacuumCancelConfirmed id =>
    obtain ⟨-, -, rfl⟩ := entryVacuumCancelConfirmed_eq_ok.mp reduced
    exact of_idle (requests_resolveCancelFrom ..) (by decide)
  | entryVacuumCancelRejected id reason =>
    obtain ⟨-, -, rfl⟩ := entryVacuumCancelRejected_eq_ok.mp reduced
    refine of_idle ?_ (by decide)
    rw [requests_append, requests_resolveFrom]
    rfl
  | entryVacuumCancelOutcomeUnknown id reason =>
    obtain ⟨-, -, rfl⟩ := entryVacuumCancelOutcomeUnknown_eq_ok.mp reduced
    exact of_idle rfl (by decide)
  | entryVacuumOrderAbsenceConfirmed fact =>
    obtain ⟨-, -, -, -, rfl⟩ := entryVacuumOrderAbsenceConfirmed_eq_ok.mp reduced
    exact of_idle (requests_resolveFrom ..) (by decide)
  | vacuumLateFillAttributed fact =>
    obtain ⟨-, -, -, -, rfl⟩ := vacuumLateFillAttributed_eq_ok.mp reduced
    exact of_idle rfl (by decide)
  | vacuumPostAbsenceNoFillVerified fact =>
    obtain ⟨-, -, -, rfl⟩ := vacuumPostAbsenceNoFillVerified_eq_ok.mp reduced
    exact of_closedUnfilled rfl (by decide)
  | entryVacuumAbsenceConfirmed vacuumId =>
    obtain ⟨-, -, -, rfl⟩ := entryVacuumAbsenceConfirmed_eq_ok.mp reduced
    exact of_closedUnfilled rfl (by decide)
  | vacuumPartialRetained fact =>
    obtain ⟨-, same, -, -, rfl⟩ := vacuumPartialRetained_eq_ok.mp reduced
    exact .one (.prepareInitialStopCommand current.ticketId fact.finalFilledQty
      current.ticket.initialStopPrice) rfl ⟨rfl, same.2.2.1⟩
  | vacuumPartialFlattenRequired fact =>
    obtain ⟨-, same, rfl⟩ := vacuumPartialFlattenRequired_eq_ok.mp reduced
    exact .one (.prepareControlledFlattenCommand current.ticketId fact.finalFilledQty) rfl
      ⟨rfl, same.2.1⟩
  | initialStopConfirmed id quantity =>
    obtain ⟨-, -, -, rfl⟩ := initialStopConfirmed_eq_ok.mp reduced
    exact of_stopConfirmed
  | postFillStressAssessed fact =>
    obtain ⟨-, -, -, ⟨-, rfl⟩ | ⟨-, limitPrice, tp1Quantity, -, -, -, rfl⟩⟩ :=
      postFillStressAssessed_eq_ok.mp reduced
    · exact .one (.prepareControlledFlattenCommand current.ticketId current.positionQty) rfl
        ⟨rfl, rfl⟩
    · exact .one (.prepareTakeProfitCommand current.ticketId tp1Quantity limitPrice) rfl
        ⟨rfl, rfl⟩
  | initialStopRejected reason =>
    obtain ⟨-, -, rfl⟩ := initialStopRejected_eq_ok.mp reduced
    exact of_initialStopMissing rfl
  | initialStopOutcomeUnknown reason => exact of_reported reduced (by decide)
  | initialStopAbsenceConfirmed commandId =>
    obtain ⟨-, -, returned⟩ := absenceConfirmed_eq_ok.mp reduced
    obtain rfl := Except.ok.inj returned
    exact of_initialStopMissing rfl
  | takeProfitConfirmed id quantity =>
    obtain ⟨-, -, -, rfl⟩ := takeProfitConfirmed_eq_ok.mp reduced
    exact of_idle (requests_resolveFrom ..) (by decide)
  | takeProfitRejected reason => exact of_reported reduced (by decide)
  | takeProfitOutcomeUnknown reason => exact of_reported reduced (by decide)
  | takeProfitAbsenceConfirmed commandId =>
    obtain ⟨-, -, limitPrice, -, rfl⟩ := takeProfitAbsenceConfirmed_eq_ok.mp reduced
    exact .one (.prepareTakeProfitCommand current.ticketId current.tp1TargetQty limitPrice) rfl
      ⟨rfl, rfl⟩
  | takeProfitFilled fact =>
    obtain ⟨-, -, -, activeStop, active, -, rfl⟩ := takeProfitFilled_eq_ok.mp reduced
    exact .one (.prepareProtectionReplacementCommand current.ticketId
      (current.positionQty - fact.filledQty) fact.runnerFloorPrice activeStop event.occurredAtMs)
      rfl ⟨rfl, rfl, rfl, active, rfl⟩
  | runnerStopRequested stopPrice watermarkMs =>
    obtain ⟨-, activeStop, active, _, -, -, -, rfl⟩ := runnerStopRequested_eq_ok.mp reduced
    exact .one (.prepareProtectionReplacementCommand current.ticketId current.positionQty
      stopPrice activeStop watermarkMs) rfl ⟨rfl, rfl, rfl, active, rfl⟩
  | protectionReplacementConfirmed fact =>
    obtain ⟨-, -, -, -, -, rfl⟩ := protectionReplacementConfirmed_eq_ok.mp reduced
    exact of_last (requests_resolveFrom ..) rfl (.inl ⟨rfl, rfl, rfl⟩)
  | protectionReplacementRejected reason => exact of_reported reduced (by decide)
  | protectionReplacementOutcomeUnknown reason => exact of_reported reduced (by decide)
  | protectionReplacementAbsenceConfirmed commandId =>
    obtain ⟨-, -, activeStop, active, stopPrice, price, watermarkMs, watermark, rfl⟩ :=
      protectionReplacementAbsenceConfirmed_eq_ok.mp reduced
    exact .one (.prepareProtectionReplacementCommand current.ticketId current.positionQty
      stopPrice activeStop watermarkMs) rfl ⟨rfl, rfl, price, active, watermark⟩
  | exitRequested reason =>
    obtain ⟨-, -, rfl⟩ := exitRequested_eq_ok.mp reduced
    exact .one (.prepareExitCommand current.ticketId current.positionQty (Text.strip reason)) rfl
      ⟨rfl, rfl⟩
  | exitAccepted id => exact of_orderAccepted reduced (by decide)
  | exitRejected reason => exact of_reported reduced (by decide)
  | exitOutcomeUnknown reason => exact of_reported reduced (by decide)
  | exitAbsenceConfirmed commandId =>
    obtain ⟨-, -, returned⟩ := absenceConfirmed_eq_ok.mp reduced
    obtain rfl := Except.ok.inj returned
    exact of_idle rfl (by decide)
  | controlledFlattenAccepted id => exact of_orderAccepted reduced (by decide)
  | controlledFlattenRejected reason => exact of_reported reduced (by decide)
  | controlledFlattenOutcomeUnknown reason => exact of_reported reduced (by decide)
  | controlledFlattenAbsenceConfirmed commandId =>
    obtain ⟨-, -, returned⟩ := absenceConfirmed_eq_ok.mp reduced
    obtain rfl := Except.ok.inj returned
    exact of_idle rfl (by decide)
  | positionFlatConfirmed =>
    obtain ⟨-, rfl⟩ := positionFlatConfirmed_eq_ok.mp reduced
    exact of_flattened
  | externalFlatDetected =>
    obtain ⟨-, cleanupOrderId, -, rfl⟩ := externalFlatDetected_eq_ok.mp reduced
    exact .one (cancelCleanup current cleanupOrderId) rfl (.inr ⟨rfl, rfl, rfl⟩)
  | ownedOrphanOrderDetected id orderNamespace =>
    obtain ⟨-, -, rfl⟩ := ownedOrphanOrderDetected_eq_ok.mp reduced
    exact .one (.cancelProtectionOrders current.ticketId (Text.strip id) orderNamespace
      .reconciliationCleanup) rfl (.inr ⟨rfl, rfl, rfl⟩)
  | ownedOrderAbsenceConfirmed id =>
    obtain ⟨-, -, -, rfl⟩ := ownedOrderAbsenceConfirmed_eq_ok.mp reduced
    exact of_idle rfl (by decide)
  | unownedOrderDetected id => exact of_reported reduced (by decide)
  | protectionCancelConfirmed id =>
    obtain ⟨-, -, rfl⟩ | ⟨-, -, -, rfl⟩ := protectionCancelConfirmed_eq_ok.mp reduced
    · exact of_idle rfl (by decide)
    · exact of_idle rfl (by decide)
  | protectionCancelRejected id reason => exact of_reported reduced (by decide)
  | protectionCancelOutcomeUnknown id reason => exact of_reported reduced (by decide)
  | protectionCancelAbsenceConfirmed id =>
    obtain ⟨-, -, rfl⟩ := protectionCancelAbsenceConfirmed_eq_ok.mp reduced
    exact of_idle rfl (by decide)
  | ownedOrphanCancelConfirmed id =>
    obtain ⟨-, -, -, rfl⟩ := ownedOrphanCancelConfirmed_eq_ok.mp reduced
    exact of_idle rfl (by decide)
  | cancelOrderRejected id reason => exact of_reported reduced (by decide)
  | cancelOrderOutcomeUnknown id reason => exact of_reported reduced (by decide)
  | cancelOrderAbsenceConfirmed id =>
    obtain ⟨-, -, rfl⟩ := cancelOrderAbsenceConfirmed_eq_ok.mp reduced
    exact of_idle (requests_resolveCancelFrom ..) (by decide)
  | cancelOrderStillOpenConfirmed id =>
    obtain ⟨-, -, rfl⟩ := cancelOrderStillOpenConfirmed_eq_ok.mp reduced
    exact of_idle rfl (by decide)
  | reconciliationMatched kind =>
    obtain ⟨-, -, -, -, rfl⟩ := reconciliationMatched_eq_ok.mp reduced
    exact of_idle rfl (by decide)
  | budgetSettled =>
    obtain ⟨-, rfl⟩ := budgetSettled_eq_ok.mp reduced
    exact of_idle rfl (by decide)
  | reviewRecorded reviewId =>
    obtain ⟨-, -, rfl⟩ := reviewRecorded_eq_ok.mp reduced
    exact of_idle rfl (by decide)
  | reviewRevised reviewId supersedesReviewId =>
    obtain ⟨-, -, -, -, rfl⟩ := reviewRevised_eq_ok.mp reduced
    exact of_idle rfl (by decide)

/-- Whatever asks for a command among the effects is what the aggregate waits for. -/
theorem awaited (asks : Asks result) {effect : KernelEffect} (emitted : effect ∈ result.effects)
    (command : effect.asksCommand = true) : AwaitedBy result.aggregate effect := by
  have requested : effect ∈ requests result.effects := List.mem_filter.mpr ⟨emitted, command⟩
  cases asks with
  | nothing none idle =>
    rw [none] at requested
    simp at requested
  | one only alone awaited =>
    rw [alone, List.mem_singleton] at requested
    exact requested ▸ awaited

end Asks

end TradingKernel
