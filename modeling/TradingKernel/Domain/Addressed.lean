/-
**Every effect is about the Ticket of its lifecycle.**

An event keeps the Ticket and its identity, and each effect it asks for names that Ticket; a release
of capital names the amounts and the netting domain that are frozen in it
(`concerning_of_reduceFact`).
-/

import TradingKernel.Domain.Moves

namespace TradingKernel

open Reducer

/-! ### What an effect is about -/

/-- The effect is about the Ticket of the aggregate. -/
def KernelEffect.Concerns (current : TradeAggregate) : KernelEffect → Prop
  | .prepareEntryCommand ticket _ => ticket = current.ticket
  | .prepareSetLeverageCommand ticket => ticket = current.ticket
  | .releaseCapitalAuthorities ticketId _ nettingDomainKey notional riskAtStop reservedMargin _ =>
      ticketId = current.ticketId ∧
        nettingDomainKey = current.ticket.identity.nettingDomain.key ∧
        notional = current.ticket.notional ∧ riskAtStop = current.ticket.riskAtStop ∧
        reservedMargin = current.ticket.reservedMargin
  | .prepareInitialStopCommand ticketId _ _ | .prepareTakeProfitCommand ticketId _ _
  | .prepareProtectionReplacementCommand ticketId _ _ _ _ | .prepareExitCommand ticketId _ _
  | .cancelEntryRemainder ticketId | .cancelVacuumEntryOrder ticketId _ _
  | .requestControlledFlatten ticketId _ | .prepareControlledFlattenCommand ticketId _
  | .cancelProtectionOrders ticketId _ _ _ | .markCancelCommandReconciledAbsent ticketId _
  | .openIncident ticketId _ | .resolveIncident ticketId _
  | .resolveTicketIncidentsAtClosure ticketId | .releaseEntryLane ticketId
  | .releaseBudget ticketId | .projectTerminalOwnerState ticketId =>
      ticketId = current.ticketId

/-- All the effects are. -/
def Concerning (current : TradeAggregate) (effects : List KernelEffect) : Prop :=
  ∀ effect ∈ effects, effect.Concerns current

section Concerning

variable {current : TradeAggregate} {unknown : AggregateStatus} {id kind : String}

attribute [local simp] KernelEffect.Concerns TradeAggregate.openIncident
  TradeAggregate.resolveIncident

@[simp] theorem concerning_nil : Concerning current [] := by
  intro effect member
  simp at member

@[simp] theorem concerning_cons {effect : KernelEffect} {effects : List KernelEffect} :
    Concerning current (effect :: effects) ↔
      effect.Concerns current ∧ Concerning current effects := by
  simp [Concerning]

@[simp] theorem concerning_append {first second : List KernelEffect} :
    Concerning current (first ++ second) ↔
      Concerning current first ∧ Concerning current second := by
  simp [Concerning, or_imp, forall_and]

@[simp] theorem concerning_resolveFrom : Concerning current (current.resolveFrom unknown kind) := by
  unfold TradeAggregate.resolveFrom
  split_ifs <;> simp

@[simp] theorem concerning_resolveCancelFrom :
    Concerning current (current.resolveCancelFrom unknown id kind) := by
  unfold TradeAggregate.resolveCancelFrom
  split_ifs <;> simp

@[simp] theorem concerning_releaseEntry : Concerning current (releaseEntry current) := by
  simp [releaseEntry]

@[simp] theorem concerning_entryFilledEffects {fact : EntryFilled} :
    Concerning current (entryFilledEffects current fact) := by
  unfold entryFilledEffects
  split <;> simp

@[simp] theorem concerning_matchedEffects {event : TicketEvent} :
    Concerning current (matchedEffects current event) := by
  simp [matchedEffects]

end Concerning

/-! ### The branches -/

section Branches

variable {current : TradeAggregate} {event : TicketEvent} {fact : TicketFact} {result : Reduction}

attribute [local simp] KernelEffect.Concerns TradeAggregate.openIncident
  TradeAggregate.resolveIncident

theorem concerning_of_reported {guard : Reduced Unit} {reason required kind : String}
    {status : AggregateStatus}
    (reduced : reported current event guard reason required status kind = .ok result) :
    Concerning current result.effects := by
  obtain ⟨-, -, rfl⟩ := reported_eq_ok.mp reduced
  simp

theorem concerning_of_orderAccepted {expected : List AggregateStatus} {id required kind : String}
    {status unknown : AggregateStatus} {record : String → TradeAggregate → TradeAggregate}
    (reduced : orderAccepted current event expected id required status record unknown kind =
      .ok result) : Concerning current result.effects := by
  obtain ⟨-, -, rfl⟩ := orderAccepted_eq_ok.mp reduced
  simp

theorem concerning_of_initialStopMissing {first : List KernelEffect} {partialKind kind : String}
    (named : Concerning current first) :
    Concerning current (initialStopMissing current event first partialKind kind).effects := by
  unfold initialStopMissing
  split_ifs <;> simp [named]

/-- **Every effect of an accepted fact is about the Ticket.** -/
theorem concerning_of_reduceFact (reduced : reduceFact current event fact = .ok result) :
    Concerning current result.effects := by
  cases fact with
  | leverageConfirmed fact =>
    obtain ⟨-, -, rfl⟩ := leverageConfirmed_eq_ok.mp reduced
    simp
  | leverageRejected reason =>
    obtain ⟨-, rfl⟩ := leverageRejected_eq_ok.mp reduced
    simp [closedUnfilled]
  | entryRejected reason =>
    obtain ⟨-, rfl⟩ := entryRejected_eq_ok.mp reduced
    simp [closedUnfilled]
  | entryAbsenceConfirmed commandId =>
    obtain ⟨-, -, returned⟩ := absenceConfirmed_eq_ok.mp reduced
    obtain rfl := Except.ok.inj returned
    simp [closedUnfilled]
  | entryFilled fact =>
    obtain ⟨-, -, -, -, rfl⟩ := entryFilled_eq_ok.mp reduced
    simp
  | entryPartiallyFilled filled requested price =>
    obtain ⟨-, -, -, rfl⟩ := entryPartiallyFilled_eq_ok.mp reduced
    simp
  | entryRemainderCancelConfirmed id =>
    obtain ⟨-, -, rfl⟩ := entryRemainderCancelConfirmed_eq_ok.mp reduced
    simp
  | entryVacuumSuperseded fact =>
    obtain ⟨-, rfl⟩ := entryVacuumSuperseded_eq_ok.mp reduced
    simp [closedUnfilled]
  | entryVacuumCancelRequested fact =>
    obtain ⟨-, -, -, rfl⟩ := entryVacuumCancelRequested_eq_ok.mp reduced
    simp
  | entryVacuumCancelConfirmed id =>
    obtain ⟨-, -, rfl⟩ := entryVacuumCancelConfirmed_eq_ok.mp reduced
    simp
  | entryVacuumCancelRejected id reason =>
    obtain ⟨-, -, rfl⟩ := entryVacuumCancelRejected_eq_ok.mp reduced
    simp
  | entryVacuumCancelOutcomeUnknown id reason =>
    obtain ⟨-, -, rfl⟩ := entryVacuumCancelOutcomeUnknown_eq_ok.mp reduced
    simp
  | entryVacuumOrderAbsenceConfirmed fact =>
    obtain ⟨-, -, -, -, rfl⟩ := entryVacuumOrderAbsenceConfirmed_eq_ok.mp reduced
    simp
  | vacuumLateFillAttributed fact =>
    obtain ⟨-, -, -, -, rfl⟩ := vacuumLateFillAttributed_eq_ok.mp reduced
    simp
  | vacuumPostAbsenceNoFillVerified fact =>
    obtain ⟨-, -, -, rfl⟩ := vacuumPostAbsenceNoFillVerified_eq_ok.mp reduced
    simp [closedUnfilled]
  | entryVacuumAbsenceConfirmed vacuumId =>
    obtain ⟨-, -, -, rfl⟩ := entryVacuumAbsenceConfirmed_eq_ok.mp reduced
    simp [closedUnfilled]
  | vacuumPartialRetained fact =>
    obtain ⟨-, -, -, -, rfl⟩ := vacuumPartialRetained_eq_ok.mp reduced
    simp
  | vacuumPartialFlattenRequired fact =>
    obtain ⟨-, -, rfl⟩ := vacuumPartialFlattenRequired_eq_ok.mp reduced
    simp
  | initialStopConfirmed id quantity =>
    obtain ⟨-, -, -, rfl⟩ := initialStopConfirmed_eq_ok.mp reduced
    unfold stopConfirmed
    split_ifs <;> simp
  | postFillStressAssessed fact =>
    obtain ⟨-, -, -, ⟨-, rfl⟩ | ⟨-, limitPrice, tp1Quantity, -, -, -, rfl⟩⟩ :=
      postFillStressAssessed_eq_ok.mp reduced
    · simp [stressFailed]
    · simp [stressPassed]
  | initialStopRejected reason =>
    obtain ⟨-, -, rfl⟩ := initialStopRejected_eq_ok.mp reduced
    exact concerning_of_initialStopMissing concerning_nil
  | initialStopAbsenceConfirmed commandId =>
    obtain ⟨-, -, returned⟩ := absenceConfirmed_eq_ok.mp reduced
    obtain rfl := Except.ok.inj returned
    exact concerning_of_initialStopMissing (by simp)
  | takeProfitConfirmed id quantity =>
    obtain ⟨-, -, -, rfl⟩ := takeProfitConfirmed_eq_ok.mp reduced
    simp
  | takeProfitAbsenceConfirmed commandId =>
    obtain ⟨-, -, limitPrice, -, rfl⟩ := takeProfitAbsenceConfirmed_eq_ok.mp reduced
    simp [tp1Retried]
  | takeProfitFilled fact =>
    obtain ⟨-, -, -, activeStop, -, -, rfl⟩ := takeProfitFilled_eq_ok.mp reduced
    simp [tp1Filled]
  | runnerStopRequested stopPrice watermarkMs =>
    obtain ⟨-, activeStop, -, _, -, -, -, rfl⟩ := runnerStopRequested_eq_ok.mp reduced
    simp [runnerMoved]
  | protectionReplacementConfirmed fact =>
    obtain ⟨-, -, -, -, -, rfl⟩ := protectionReplacementConfirmed_eq_ok.mp reduced
    simp
  | protectionReplacementAbsenceConfirmed commandId =>
    obtain ⟨-, -, activeStop, -, stopPrice, -, watermarkMs, -, rfl⟩ :=
      protectionReplacementAbsenceConfirmed_eq_ok.mp reduced
    simp [replacementRetried]
  | exitRequested reason =>
    obtain ⟨-, -, rfl⟩ := exitRequested_eq_ok.mp reduced
    simp
  | exitAbsenceConfirmed commandId =>
    obtain ⟨-, -, returned⟩ := absenceConfirmed_eq_ok.mp reduced
    obtain rfl := Except.ok.inj returned
    simp
  | controlledFlattenAbsenceConfirmed commandId =>
    obtain ⟨-, -, returned⟩ := absenceConfirmed_eq_ok.mp reduced
    obtain rfl := Except.ok.inj returned
    simp
  | positionFlatConfirmed =>
    obtain ⟨-, rfl⟩ := positionFlatConfirmed_eq_ok.mp reduced
    cases next : nextCleanupOrderId current <;> cases held : current.entryLaneHeld <;>
      simp [flattened, next, held, cancelCleanup]
  | externalFlatDetected =>
    obtain ⟨-, cleanupOrderId, -, rfl⟩ := externalFlatDetected_eq_ok.mp reduced
    simp [externallyFlattened, cancelCleanup]
  | ownedOrphanOrderDetected id orderNamespace =>
    obtain ⟨-, -, rfl⟩ := ownedOrphanOrderDetected_eq_ok.mp reduced
    simp
  | ownedOrderAbsenceConfirmed id =>
    obtain ⟨-, -, -, rfl⟩ := ownedOrderAbsenceConfirmed_eq_ok.mp reduced
    simp [cleared]
  | protectionCancelConfirmed id =>
    obtain ⟨-, -, rfl⟩ | ⟨-, -, -, rfl⟩ := protectionCancelConfirmed_eq_ok.mp reduced
    · simp
    · simp [cleared]
  | protectionCancelAbsenceConfirmed id =>
    obtain ⟨-, -, rfl⟩ := protectionCancelAbsenceConfirmed_eq_ok.mp reduced
    simp
  | ownedOrphanCancelConfirmed id =>
    obtain ⟨-, -, -, rfl⟩ := ownedOrphanCancelConfirmed_eq_ok.mp reduced
    simp [cleared]
  | cancelOrderAbsenceConfirmed id =>
    obtain ⟨-, -, rfl⟩ := cancelOrderAbsenceConfirmed_eq_ok.mp reduced
    simp [cleared]
  | cancelOrderStillOpenConfirmed id =>
    obtain ⟨-, -, rfl⟩ := cancelOrderStillOpenConfirmed_eq_ok.mp reduced
    simp
  | reconciliationMatched kind =>
    obtain ⟨-, -, -, -, rfl⟩ := reconciliationMatched_eq_ok.mp reduced
    simp
  | budgetSettled =>
    obtain ⟨-, rfl⟩ := budgetSettled_eq_ok.mp reduced
    simp
  | reviewRecorded reviewId =>
    obtain ⟨-, -, rfl⟩ := reviewRecorded_eq_ok.mp reduced
    simp [reviewed]
  | reviewRevised reviewId supersedesReviewId =>
    obtain ⟨-, -, -, -, rfl⟩ := reviewRevised_eq_ok.mp reduced
    simp [reviewed]
  | entryAccepted id => exact concerning_of_orderAccepted reduced
  | exitAccepted id => exact concerning_of_orderAccepted reduced
  | controlledFlattenAccepted id => exact concerning_of_orderAccepted reduced
  | _ => exact concerning_of_reported reduced

end Branches

/-! ### The Ticket is kept -/

/-- No event changes the Ticket or its identity. -/
theorem Move.ticket {current : TradeAggregate} {event : TicketEvent} {fact : TicketFact}
    {result : Reduction} (move : Move current event fact result) :
    result.aggregate.ticket = current.ticket ∧ result.aggregate.identity = current.identity := by
  cases move <;> exact ⟨rfl, rfl⟩

end TradingKernel
