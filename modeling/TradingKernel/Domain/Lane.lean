/-
**What an accepted event does to the entry lane, and the flattens it starts.**

An event either leaves the lane alone, or gives it back: without a position, after a passed stress
assessment, or with a flat position, where it is given back only if it is still held (`LaneStep`). A
flatten is announced with the quantity of the position that the event leaves, and a vacuum is not
flattened without a position. All of it is read off the branches of the reducer once
(`Aside.of_reduceFact`).
-/

import TradingKernel.Domain.Reducer

namespace TradingKernel

open Reducer

/-! ### Lane releases -/

/-- The effect gives the entry lane back. -/
def KernelEffect.isLaneRelease : KernelEffect → Bool
  | .releaseEntryLane _ => true
  | _ => false

/-- The number of effects that give the lane back. -/
def laneReleases (effects : List KernelEffect) : ℕ := effects.countP KernelEffect.isLaneRelease

@[simp] theorem laneReleases_nil : laneReleases [] = 0 := rfl

@[simp] theorem laneReleases_cons (effect : KernelEffect) (effects : List KernelEffect) :
    laneReleases (effect :: effects) =
      laneReleases effects + if effect.isLaneRelease then 1 else 0 := by
  simp [laneReleases, List.countP_cons]

@[simp] theorem laneReleases_append (first second : List KernelEffect) :
    laneReleases (first ++ second) = laneReleases first + laneReleases second := by
  simp [laneReleases]

/-- The effects neither give the lane back nor announce a flatten. -/
structure Muted (effects : List KernelEffect) : Prop where
  lane : laneReleases effects = 0
  announces : ∀ ticketId quantity, .requestControlledFlatten ticketId quantity ∉ effects

theorem Muted.append {first second : List KernelEffect} (muted : Muted first)
    (rest : Muted second) : Muted (first ++ second) where
  lane := by rw [laneReleases_append, muted.lane, rest.lane]
  announces ticketId quantity member := by
    rcases List.mem_append.mp member with earlier | later
    · exact muted.announces ticketId quantity earlier
    · exact rest.announces ticketId quantity later

section Muted

variable {current : TradeAggregate} {unknown : AggregateStatus} {id kind : String}

theorem Muted.resolveFrom : Muted (current.resolveFrom unknown kind) := by
  unfold TradeAggregate.resolveFrom
  split_ifs
  · exact ⟨rfl, by simp [TradeAggregate.resolveIncident]⟩
  · exact ⟨rfl, by simp⟩

theorem Muted.resolveCancelFrom : Muted (current.resolveCancelFrom unknown id kind) := by
  unfold TradeAggregate.resolveCancelFrom
  split_ifs
  · exact ⟨rfl, by simp [TradeAggregate.resolveIncident]⟩
  · exact ⟨rfl, by simp⟩

theorem Muted.entryFilledEffects {fact : EntryFilled} :
    Muted (entryFilledEffects current fact) := by
  unfold Reducer.entryFilledEffects
  split <;> exact ⟨rfl, by simp [TradeAggregate.openIncident]⟩

end Muted

/-! ### Steps of the lane -/

/-- The statuses of a Ticket whose ENTRY is not settled: it holds the lane. -/
def laneHeldStatuses : List AggregateStatus :=
  [.leveragePending, .leverageOutcomeUnknown, .leverageConfirmed, .entryPending, .entryAccepted,
    .entryOutcomeUnknown, .entryVacuumCancelPending, .entryVacuumCancelRejected,
    .entryVacuumCancelOutcomeUnknown, .entryVacuumCancelled, .protectionPending,
    .initialStopOutcomeUnknown, .postFillRiskPending]

/-- The statuses of a Ticket that has no position any more. -/
def laneFreeStatuses : List AggregateStatus :=
  [.leverageRejected, .entryRejected, .entryReconciledAbsent, .reconciliationPending,
    .cancelRejected, .cancelOutcomeUnknown, .settlementPending, .reviewPending, .terminal]

/-- What an event does to the lane. -/
inductive LaneStep (current : TradeAggregate) (fact : TicketFact) (result : Reduction) : Prop
  | kept (silent : laneReleases result.effects = 0)
      (same : result.aggregate.entryLaneHeld = current.entryLaneHeld)
      (calm : result.aggregate.status ∈ laneFreeStatuses → current.status ∈ laneFreeStatuses)
  | released (once : laneReleases result.effects = 1)
      (free : result.aggregate.entryLaneHeld = false)
      (source : current.status ∈ laneHeldStatuses)
      (target : result.aggregate.status ∉ laneHeldStatuses)
  | flat (ifHeld : laneReleases result.effects = if current.entryLaneHeld then 1 else 0)
      (free : result.aggregate.entryLaneHeld = false)
      (target : result.aggregate.status ∉ laneHeldStatuses)
  | external (reports : fact = .externalFlatDetected) (silent : laneReleases result.effects = 0)
      (same : result.aggregate.entryLaneHeld = current.entryLaneHeld)

/-- What an event does besides asking for a command. -/
structure Aside (current : TradeAggregate) (fact : TicketFact) (result : Reduction) : Prop where
  lane : LaneStep current fact result
  announced : ∀ ticketId quantity, .requestControlledFlatten ticketId quantity ∈ result.effects →
    quantity = result.aggregate.positionQty
  exposed : result.aggregate.status = .controlledFlattenPending →
    current.status = .entryVacuumCancelled → 0 < result.aggregate.positionQty

namespace Aside

variable {current : TradeAggregate} {event : TicketEvent} {fact : TicketFact} {result : Reduction}

/-- A transition that leaves the lane alone. -/
theorem of_muted {status : AggregateStatus} {updates : TradeAggregate → TradeAggregate}
    {effects : List KernelEffect} (muted : Muted effects)
    (calm : status ∈ laneFreeStatuses → current.status ∈ laneFreeStatuses :=
      by exact fun free => absurd free (by decide))
    (exposed : status = .controlledFlattenPending → current.status = .entryVacuumCancelled →
      0 < (updates current).positionQty := by exact fun flattens => absurd flattens (by decide))
    (same : (updates current).entryLaneHeld = current.entryLaneHeld := by rfl) :
    Aside current fact (transition current event status updates effects) where
  exposed := exposed
  lane := .kept muted.lane same calm
  announced ticketId quantity member := absurd member (muted.announces ticketId quantity)

theorem of_reported {guard : Reduced Unit} {reason required kind : String}
    {status : AggregateStatus}
    (reduced : reported current event guard reason required status kind = .ok result)
    (calm : guard = .ok () → status ∈ laneFreeStatuses → current.status ∈ laneFreeStatuses :=
      by exact fun _ free => absurd free (by decide))
    (other : status ≠ .controlledFlattenPending := by decide) :
    Aside current fact result := by
  obtain ⟨passed, -, rfl⟩ := reported_eq_ok.mp reduced
  exact of_muted ⟨rfl, by simp [TradeAggregate.openIncident]⟩ (calm passed)
    fun flattens => absurd flattens other

theorem of_orderAccepted {expected : List AggregateStatus} {id required kind : String}
    {status unknown : AggregateStatus} {record : String → TradeAggregate → TradeAggregate}
    (reduced : orderAccepted current event expected id required status record unknown kind =
      .ok result) (target : status ∉ laneFreeStatuses)
    (other : status ≠ .controlledFlattenPending := by decide)
    (same : ∀ id, (record id current).entryLaneHeld = current.entryLaneHeld := by intro; rfl) :
    Aside current fact result := by
  obtain ⟨-, -, rfl⟩ := orderAccepted_eq_ok.mp reduced
  exact of_muted .resolveFrom (fun free => absurd free target)
    (fun flattens => absurd flattens other) (same _)

theorem of_closedUnfilled {status : AggregateStatus} {updates : TradeAggregate → TradeAggregate}
    {first : List KernelEffect} (muted : Muted first) (source : current.status ∈ laneHeldStatuses)
    (target : status ∉ laneHeldStatuses := by decide)
    (other : status ≠ .controlledFlattenPending := by decide) :
    Aside current fact (closedUnfilled current event status updates first) where
  exposed flattens := absurd flattens other
  lane := by
    refine .released ?_ rfl source target
    show laneReleases (first ++ releaseEntry current) = 1
    rw [laneReleases_append, muted.lane]
    rfl
  announced ticketId quantity member := by
    rcases List.mem_append.mp member with earlier | later
    · exact absurd earlier (muted.announces ticketId quantity)
    · simp [releaseEntry] at later

theorem of_initialStopMissing {first : List KernelEffect} {partialKind kind : String}
    (muted : Muted first) (other : current.status ≠ .entryVacuumCancelled) :
    Aside current fact (initialStopMissing current event first partialKind kind) := by
  unfold initialStopMissing
  split_ifs
  · exact of_muted (muted.append ⟨rfl, by simp [TradeAggregate.openIncident]⟩)
      (fun free => absurd free (by decide)) fun _ vacuum => absurd vacuum other
  · exact of_muted (muted.append ⟨rfl, by simp [TradeAggregate.openIncident]⟩)

theorem of_stopConfirmed {id : String} {quantity : ℚ}
    (other : current.status ≠ .entryVacuumCancelled) :
    Aside current fact (stopConfirmed current event id quantity) := by
  unfold stopConfirmed
  split_ifs
  · exact of_muted ⟨rfl, by simp⟩ (fun free => absurd free (by decide))
      fun _ vacuum => absurd vacuum other
  · exact of_muted .resolveFrom

theorem of_flattened : Aside current fact (flattened current event) where
  exposed flattens := absurd flattens (show AggregateStatus.reconciliationPending ≠ _ by decide)
  lane := by
    have target : AggregateStatus.reconciliationPending ∉ laneHeldStatuses := by decide
    refine .flat ?_ rfl target
    have cancels : laneReleases ((nextCleanupOrderId current).toList.map (cancelCleanup current)) =
        0 := by
      cases nextCleanupOrderId current <;> rfl
    rw [flattened, transition_effects, laneReleases_append, cancels, Nat.zero_add]
    split_ifs <;> rfl
  announced ticketId quantity member := by
    rw [flattened, transition_effects] at member
    rcases List.mem_append.mp member with cancel | lane
    · simp [cancelCleanup] at cancel
    · split_ifs at lane <;> simp at lane

/-- A status that is one of several, all of them among the given ones. -/
theorem among {statuses sources : List AggregateStatus} (member : current.status ∈ sources)
    (listed : ∀ status ∈ sources, status ∈ statuses) : current.status ∈ statuses :=
  listed _ member

/-- The status that a guard about an order has passed. -/
theorem status_of_order {source : AggregateStatus} {id mismatch : String} {held : Option String}
    (passed : (do requireStatus current source; requireSameOrder id held mismatch) = .ok ()) :
    current.status = source :=
  (requireStatus_bind_eq_ok.mp passed).1

/-- **Every accepted fact takes a step of the lane, and announces the flatten of what it leaves.** -/
theorem of_reduceFact (reduced : reduceFact current event fact = .ok result) :
    Aside current fact result := by
  cases fact with
  | leverageConfirmed fact =>
    obtain ⟨-, -, rfl⟩ := leverageConfirmed_eq_ok.mp reduced
    exact of_muted (Muted.resolveFrom.append ⟨rfl, by simp⟩)
  | leverageRejected reason =>
    obtain ⟨member, rfl⟩ := leverageRejected_eq_ok.mp reduced
    exact of_closedUnfilled .resolveFrom (among member (by decide))
  | leverageOutcomeUnknown reason => exact of_reported reduced
  | entryAccepted id => exact of_orderAccepted reduced (by decide)
  | entryRejected reason =>
    obtain ⟨member, rfl⟩ := entryRejected_eq_ok.mp reduced
    exact of_closedUnfilled ⟨rfl, by simp⟩ (among member (by decide))
  | entryOutcomeUnknown reason => exact of_reported reduced
  | entryAbsenceConfirmed commandId =>
    obtain ⟨status, -, returned⟩ := absenceConfirmed_eq_ok.mp reduced
    obtain rfl := Except.ok.inj returned
    exact of_closedUnfilled ⟨rfl, by simp [TradeAggregate.resolveIncident]⟩
      (by rw [status]; decide)
  | entryFilled fact =>
    obtain ⟨-, -, full, -, rfl⟩ := entryFilled_eq_ok.mp reduced
    have target := (by decide : ∀ status ∈ ([.controlledFlattenPending, .protectionPending] :
      List AggregateStatus), status ∉ laneFreeStatuses) _ (entryFilledTarget_mem fact)
    have positive : 0 < fact.filledQty := full ▸ current.ticket.quantity_pos
    exact of_muted .entryFilledEffects (fun free => absurd free target) fun _ _ => positive
  | entryPartiallyFilled filled requested price =>
    obtain ⟨-, -, -, rfl⟩ := entryPartiallyFilled_eq_ok.mp reduced
    have target : AggregateStatus.partialFillIncident ∉ laneFreeStatuses := by decide
    refine ⟨.kept rfl rfl fun free => absurd free target, ?_, fun flattens => ?_⟩
    · simp [TradeAggregate.openIncident]
    · exact absurd flattens (show AggregateStatus.partialFillIncident ≠ _ by decide)
  | entryRemainderCancelConfirmed id =>
    obtain ⟨member, -, rfl⟩ := entryRemainderCancelConfirmed_eq_ok.mp reduced
    exact of_muted (Muted.resolveCancelFrom.append ⟨rfl, by simp⟩)
      (fun free => absurd free (by decide)) fun _ vacuum => by simp [vacuum] at member
  | entryRemainderCancelRejected id reason => exact of_reported reduced
  | entryRemainderCancelOutcomeUnknown id reason => exact of_reported reduced
  | entryVacuumSuperseded fact =>
    obtain ⟨member, rfl⟩ := entryVacuumSuperseded_eq_ok.mp reduced
    exact of_closedUnfilled ⟨rfl, by simp⟩ (among member (by decide))
  | entryVacuumCancelRequested fact =>
    obtain ⟨-, -, -, rfl⟩ := entryVacuumCancelRequested_eq_ok.mp reduced
    exact of_muted (Muted.resolveFrom.append ⟨rfl, by simp⟩)
  | entryVacuumCancelConfirmed id =>
    obtain ⟨-, -, rfl⟩ := entryVacuumCancelConfirmed_eq_ok.mp reduced
    exact of_muted .resolveCancelFrom
  | entryVacuumCancelRejected id reason =>
    obtain ⟨-, -, rfl⟩ := entryVacuumCancelRejected_eq_ok.mp reduced
    exact of_muted (Muted.resolveFrom.append ⟨rfl, by simp [TradeAggregate.openIncident]⟩)
  | entryVacuumCancelOutcomeUnknown id reason =>
    obtain ⟨-, -, rfl⟩ := entryVacuumCancelOutcomeUnknown_eq_ok.mp reduced
    exact of_muted ⟨rfl, by simp [TradeAggregate.openIncident]⟩
  | entryVacuumOrderAbsenceConfirmed fact =>
    obtain ⟨-, -, -, -, rfl⟩ := entryVacuumOrderAbsenceConfirmed_eq_ok.mp reduced
    exact of_muted .resolveFrom
  | vacuumLateFillAttributed fact =>
    obtain ⟨-, -, -, -, rfl⟩ := vacuumLateFillAttributed_eq_ok.mp reduced
    exact of_muted ⟨rfl, by simp⟩
  | vacuumPostAbsenceNoFillVerified fact =>
    obtain ⟨status, -, -, rfl⟩ := vacuumPostAbsenceNoFillVerified_eq_ok.mp reduced
    exact of_closedUnfilled ⟨rfl, by simp [TradeAggregate.resolveIncident]⟩
      (by rw [status]; decide)
  | entryVacuumAbsenceConfirmed vacuumId =>
    obtain ⟨status, -, -, rfl⟩ := entryVacuumAbsenceConfirmed_eq_ok.mp reduced
    exact of_closedUnfilled ⟨rfl, by simp⟩ (by rw [status]; decide)
  | vacuumPartialRetained fact =>
    obtain ⟨-, -, -, -, rfl⟩ := vacuumPartialRetained_eq_ok.mp reduced
    exact of_muted ⟨rfl, by simp⟩
  | vacuumPartialFlattenRequired fact =>
    obtain ⟨-, same, rfl⟩ := vacuumPartialFlattenRequired_eq_ok.mp reduced
    have positive : 0 < current.positionQty := same.2.1 ▸ fact.positive.1
    exact of_muted ⟨rfl, by simp [TradeAggregate.openIncident]⟩
      (fun free => absurd free (by decide)) fun _ _ => positive
  | initialStopConfirmed id quantity =>
    obtain ⟨member, -, -, rfl⟩ := initialStopConfirmed_eq_ok.mp reduced
    exact of_stopConfirmed fun vacuum => by simp [vacuum] at member
  | postFillStressAssessed fact =>
    obtain ⟨status, -, -, ⟨-, rfl⟩ | ⟨-, limitPrice, tp1Quantity, -, -, -, rfl⟩⟩ :=
      postFillStressAssessed_eq_ok.mp reduced
    · exact of_muted ⟨rfl, by simp [TradeAggregate.openIncident]⟩
        (fun free => absurd free (by decide)) fun _ vacuum => by simp [vacuum] at status
    · have target : AggregateStatus.tp1Pending ∉ laneHeldStatuses := by decide
      refine ⟨.released rfl rfl (by rw [status]; decide) target, ?_, fun flattens => ?_⟩
      · simp [stressPassed]
      · exact absurd flattens (show AggregateStatus.tp1Pending ≠ _ by decide)
  | initialStopRejected reason =>
    obtain ⟨status, -, rfl⟩ := initialStopRejected_eq_ok.mp reduced
    exact of_initialStopMissing ⟨rfl, by simp⟩ (by rw [status]; decide)
  | initialStopOutcomeUnknown reason => exact of_reported reduced
  | initialStopAbsenceConfirmed commandId =>
    obtain ⟨status, -, returned⟩ := absenceConfirmed_eq_ok.mp reduced
    obtain rfl := Except.ok.inj returned
    exact of_initialStopMissing ⟨rfl, by simp [TradeAggregate.resolveIncident]⟩
      (by rw [status]; decide)
  | takeProfitConfirmed id quantity =>
    obtain ⟨-, -, -, rfl⟩ := takeProfitConfirmed_eq_ok.mp reduced
    exact of_muted .resolveFrom
  | takeProfitRejected reason => exact of_reported reduced
  | takeProfitOutcomeUnknown reason => exact of_reported reduced
  | takeProfitAbsenceConfirmed commandId =>
    obtain ⟨-, -, limitPrice, -, rfl⟩ := takeProfitAbsenceConfirmed_eq_ok.mp reduced
    exact of_muted ⟨rfl, by simp [TradeAggregate.resolveIncident]⟩
  | takeProfitFilled fact =>
    obtain ⟨-, -, -, activeStop, -, -, rfl⟩ := takeProfitFilled_eq_ok.mp reduced
    exact of_muted ⟨rfl, by simp⟩
  | runnerStopRequested stopPrice watermarkMs =>
    obtain ⟨-, activeStop, -, _, -, -, -, rfl⟩ := runnerStopRequested_eq_ok.mp reduced
    exact of_muted ⟨rfl, by simp⟩
  | protectionReplacementConfirmed fact =>
    obtain ⟨-, -, -, -, -, rfl⟩ := protectionReplacementConfirmed_eq_ok.mp reduced
    exact of_muted (Muted.resolveFrom.append ⟨rfl, by simp⟩)
  | protectionReplacementRejected reason => exact of_reported reduced
  | protectionReplacementOutcomeUnknown reason => exact of_reported reduced
  | protectionReplacementAbsenceConfirmed commandId =>
    obtain ⟨-, -, activeStop, -, stopPrice, -, watermarkMs, -, rfl⟩ :=
      protectionReplacementAbsenceConfirmed_eq_ok.mp reduced
    exact of_muted ⟨rfl, by simp [TradeAggregate.resolveIncident]⟩
  | exitRequested reason =>
    obtain ⟨-, -, rfl⟩ := exitRequested_eq_ok.mp reduced
    exact of_muted ⟨rfl, by simp⟩
  | exitAccepted id => exact of_orderAccepted reduced (by decide)
  | exitRejected reason => exact of_reported reduced
  | exitOutcomeUnknown reason => exact of_reported reduced
  | exitAbsenceConfirmed commandId =>
    obtain ⟨-, -, returned⟩ := absenceConfirmed_eq_ok.mp reduced
    obtain rfl := Except.ok.inj returned
    exact of_muted ⟨rfl, by simp [TradeAggregate.resolveIncident]⟩
  | controlledFlattenAccepted id => exact of_orderAccepted reduced (by decide)
  | controlledFlattenRejected reason => exact of_reported reduced
  | controlledFlattenOutcomeUnknown reason => exact of_reported reduced
  | controlledFlattenAbsenceConfirmed commandId =>
    obtain ⟨-, -, returned⟩ := absenceConfirmed_eq_ok.mp reduced
    obtain rfl := Except.ok.inj returned
    exact of_muted ⟨rfl, by simp [TradeAggregate.resolveIncident, TradeAggregate.openIncident]⟩
  | positionFlatConfirmed =>
    obtain ⟨-, rfl⟩ := positionFlatConfirmed_eq_ok.mp reduced
    exact of_flattened
  | externalFlatDetected =>
    obtain ⟨-, cleanupOrderId, -, rfl⟩ := externalFlatDetected_eq_ok.mp reduced
    refine ⟨.external rfl rfl rfl, ?_, fun flattens => ?_⟩
    · simp [externallyFlattened, TradeAggregate.openIncident, cancelCleanup]
    · exact absurd flattens (show AggregateStatus.reconciliationPending ≠ _ by decide)
  | ownedOrphanOrderDetected id orderNamespace =>
    obtain ⟨member, -, rfl⟩ := ownedOrphanOrderDetected_eq_ok.mp reduced
    exact of_muted ⟨rfl, by simp⟩ fun _ => among member (by decide)
  | ownedOrderAbsenceConfirmed id =>
    obtain ⟨status, -, -, rfl⟩ := ownedOrderAbsenceConfirmed_eq_ok.mp reduced
    exact of_muted ⟨rfl, by simp⟩ fun _ => by rw [status]; decide
  | unownedOrderDetected id =>
    exact of_reported reduced fun passed _ => by rw [requireStatus_eq_ok.mp passed]; decide
  | protectionCancelConfirmed id =>
    obtain ⟨-, -, rfl⟩ | ⟨status, -, -, rfl⟩ := protectionCancelConfirmed_eq_ok.mp reduced
    · exact of_muted ⟨rfl, by simp⟩
    · exact of_muted ⟨rfl, by simp⟩ fun _ => by rw [status]; decide
  | protectionCancelRejected id reason => exact of_reported reduced
  | protectionCancelOutcomeUnknown id reason => exact of_reported reduced
  | protectionCancelAbsenceConfirmed id =>
    obtain ⟨-, -, rfl⟩ := protectionCancelAbsenceConfirmed_eq_ok.mp reduced
    exact of_muted ⟨rfl, by simp [TradeAggregate.resolveIncident]⟩
  | ownedOrphanCancelConfirmed id =>
    obtain ⟨status, -, -, rfl⟩ := ownedOrphanCancelConfirmed_eq_ok.mp reduced
    exact of_muted ⟨rfl, by simp⟩ fun _ => by rw [status]; decide
  | cancelOrderRejected id reason =>
    exact of_reported reduced fun passed _ => by rw [status_of_order passed]; decide
  | cancelOrderOutcomeUnknown id reason =>
    exact of_reported reduced fun passed _ => by rw [status_of_order passed]; decide
  | cancelOrderAbsenceConfirmed id =>
    obtain ⟨member, -, rfl⟩ := cancelOrderAbsenceConfirmed_eq_ok.mp reduced
    exact of_muted .resolveCancelFrom fun _ => among member (by decide)
  | cancelOrderStillOpenConfirmed id =>
    obtain ⟨status, -, rfl⟩ := cancelOrderStillOpenConfirmed_eq_ok.mp reduced
    exact of_muted ⟨rfl, by simp [TradeAggregate.resolveIncident]⟩ fun _ => by
      rw [status]; decide
  | reconciliationMatched kind =>
    obtain ⟨status, -, -, -, rfl⟩ := reconciliationMatched_eq_ok.mp reduced
    exact of_muted ⟨rfl, by simp [matchedEffects]⟩ fun _ => by rw [status]; decide
  | budgetSettled =>
    obtain ⟨status, rfl⟩ := budgetSettled_eq_ok.mp reduced
    exact of_muted ⟨rfl, by simp⟩ fun _ => by rw [status]; decide
  | reviewRecorded reviewId =>
    obtain ⟨status, -, rfl⟩ := reviewRecorded_eq_ok.mp reduced
    exact of_muted ⟨rfl, by simp⟩ fun _ => by rw [status]; decide
  | reviewRevised reviewId supersedesReviewId =>
    obtain ⟨status, -, -, -, rfl⟩ := reviewRevised_eq_ok.mp reduced
    exact of_muted ⟨rfl, by simp⟩ fun _ => by rw [status]; decide

end Aside

end TradingKernel
