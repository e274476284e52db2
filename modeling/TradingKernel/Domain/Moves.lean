/-
**What one accepted event can do to a lifecycle.**

`Move current event fact result` lists the ways an accepted fact changes the aggregate, one
constructor a way: what it required, and the transition it made. The thirty-odd branches that change
nothing but the status (with the version and the sequence) are one constructor, `Move.kept`, over
the list of their edges. `Move.of_reduceFact` says that the list is complete; every invariant of
runs is then a case analysis over it.
-/

import TradingKernel.Domain.Reducer

namespace TradingKernel

open Text Guard Reducer

/-! ### Releases -/

/-- The effect releases the Ticket's capital. -/
def KernelEffect.isRelease : KernelEffect → Bool
  | .releaseBudget _ => true
  | .releaseCapitalAuthorities .. => true
  | _ => false

/-- The number of effects that release capital. -/
def releaseCount (effects : List KernelEffect) : ℕ := effects.countP KernelEffect.isRelease

@[simp] theorem releaseCount_nil : releaseCount [] = 0 := rfl

@[simp] theorem releaseCount_cons (effect : KernelEffect) (effects : List KernelEffect) :
    releaseCount (effect :: effects) =
      releaseCount effects + if effect.isRelease then 1 else 0 := by
  simp [releaseCount, List.countP_cons]

@[simp] theorem releaseCount_append (first second : List KernelEffect) :
    releaseCount (first ++ second) = releaseCount first + releaseCount second := by
  simp [releaseCount]

section Quiet

variable (current : TradeAggregate) (unknown : AggregateStatus)

@[simp] theorem openIncident_isRelease (kind : String) :
    (current.openIncident kind).isRelease = false := rfl

@[simp] theorem resolveIncident_isRelease (kind : String) :
    (current.resolveIncident kind).isRelease = false := rfl

theorem silent_append {first second : List KernelEffect} (silent : releaseCount first = 0)
    (rest : releaseCount second = 0) : releaseCount (first ++ second) = 0 := by
  rw [releaseCount_append, silent, rest]

@[simp] theorem releaseCount_resolveFrom (kind : String) :
    releaseCount (current.resolveFrom unknown kind) = 0 := by
  unfold TradeAggregate.resolveFrom
  split_ifs <;> rfl

@[simp] theorem releaseCount_resolveCancelFrom (id kind : String) :
    releaseCount (current.resolveCancelFrom unknown id kind) = 0 := by
  unfold TradeAggregate.resolveCancelFrom
  split_ifs <;> rfl

@[simp] theorem releaseCount_entryFilledEffects (fact : EntryFilled) :
    releaseCount (entryFilledEffects current fact) = 0 := by
  unfold entryFilledEffects
  split <;> rfl

@[simp] theorem releaseCount_releaseEntry : releaseCount (releaseEntry current) = 1 := rfl

end Quiet

/-! ### Facts and edges -/

/-- The facts that change no more than the status. -/
def TicketFact.quiet : TicketFact → Bool
  | .leverageConfirmed _ | .leverageOutcomeUnknown _ | .entryOutcomeUnknown _
  | .entryRemainderCancelConfirmed _ | .entryRemainderCancelRejected _ _
  | .entryRemainderCancelOutcomeUnknown _ _ | .entryVacuumCancelConfirmed _
  | .entryVacuumCancelRejected _ _ | .entryVacuumCancelOutcomeUnknown _ _
  | .vacuumPartialFlattenRequired _ | .initialStopRejected _ | .initialStopOutcomeUnknown _
  | .initialStopAbsenceConfirmed _ | .takeProfitRejected _ | .takeProfitOutcomeUnknown _
  | .takeProfitAbsenceConfirmed _ | .protectionReplacementRejected _
  | .protectionReplacementOutcomeUnknown _ | .protectionReplacementAbsenceConfirmed _
  | .exitRequested _ | .exitRejected _ | .exitOutcomeUnknown _ | .exitAbsenceConfirmed _
  | .controlledFlattenRejected _ | .controlledFlattenOutcomeUnknown _
  | .controlledFlattenAbsenceConfirmed _ | .unownedOrderDetected _
  | .protectionCancelRejected _ _ | .protectionCancelOutcomeUnknown _ _
  | .cancelOrderRejected _ _ | .cancelOrderOutcomeUnknown _ _
  | .cancelOrderStillOpenConfirmed _ | .budgetSettled => true
  | _ => false

/-- The facts that end a Ticket without a position. -/
def TicketFact.endsUnfilled : TicketFact → Bool
  | .leverageRejected _ | .entryRejected _ | .entryAbsenceConfirmed _ | .entryVacuumSuperseded _
  | .vacuumPostAbsenceNoFillVerified _ | .entryVacuumAbsenceConfirmed _ => true
  | _ => false

/-- The facts about the review of a closed Ticket. -/
def TicketFact.isReview : TicketFact → Bool
  | .reviewRecorded _ | .reviewRevised _ _ => true
  | _ => false

/-- The fact finds the position flat. -/
def TicketFact.findsFlat : TicketFact → Bool
  | .positionFlatConfirmed | .externalFlatDetected => true
  | _ => false

/-- From and to of the quiet facts. -/
def keptEdges : List (AggregateStatus × AggregateStatus) :=
  [(.leveragePending, .leverageConfirmed), (.leverageOutcomeUnknown, .leverageConfirmed),
    (.leveragePending, .leverageOutcomeUnknown), (.entryPending, .entryOutcomeUnknown),
    (.leverageConfirmed, .entryOutcomeUnknown), (.partialFillIncident, .controlledFlattenPending),
    (.partialFillCancelOutcomeUnknown, .controlledFlattenPending),
    (.partialFillIncident, .partialFillCancelRejected),
    (.partialFillIncident, .partialFillCancelOutcomeUnknown),
    (.entryVacuumCancelPending, .entryVacuumCancelPending),
    (.entryVacuumCancelOutcomeUnknown, .entryVacuumCancelPending),
    (.entryVacuumCancelPending, .entryVacuumCancelRejected),
    (.entryVacuumCancelOutcomeUnknown, .entryVacuumCancelRejected),
    (.entryVacuumCancelPending, .entryVacuumCancelOutcomeUnknown),
    (.entryVacuumCancelled, .controlledFlattenPending),
    (.protectionPending, .controlledFlattenPending), (.protectionPending, .exitPending),
    (.protectionPending, .initialStopOutcomeUnknown),
    (.initialStopOutcomeUnknown, .controlledFlattenPending),
    (.initialStopOutcomeUnknown, .exitPending), (.tp1Pending, .tp1Rejected),
    (.tp1Pending, .tp1OutcomeUnknown), (.tp1OutcomeUnknown, .tp1Pending),
    (.runnerReplacementPending, .runnerReplacementRejected),
    (.runnerReplacementPending, .runnerReplacementOutcomeUnknown),
    (.runnerReplacementOutcomeUnknown, .runnerReplacementPending),
    (.positionProtected, .exitPending), (.runnerProtected, .exitPending), (.exitRejected, .exitPending),
    (.exitPending, .exitRejected), (.exitPending, .exitOutcomeUnknown),
    (.exitOutcomeUnknown, .exitRejected), (.controlledFlattenPending, .controlledFlattenRejected),
    (.controlledFlattenPending, .controlledFlattenOutcomeUnknown),
    (.controlledFlattenOutcomeUnknown, .controlledFlattenRejected),
    (.reconciliationPending, .reconciliationPending),
    (.runnerOldStopCancelPending, .runnerOldStopCancelRejected),
    (.runnerOldStopCancelPending, .runnerOldStopCancelOutcomeUnknown),
    (.reconciliationPending, .cancelRejected), (.reconciliationPending, .cancelOutcomeUnknown),
    (.cancelOutcomeUnknown, .cancelRejected), (.settlementPending, .reviewPending)]

/-- From and to of the facts that end a Ticket without a position. -/
def unfilledEdges : List (AggregateStatus × AggregateStatus) :=
  [(.leveragePending, .leverageRejected), (.leverageOutcomeUnknown, .leverageRejected),
    (.entryPending, .entryRejected), (.leverageConfirmed, .entryRejected),
    (.entryOutcomeUnknown, .entryReconciledAbsent), (.leveragePending, .entryRejected),
    (.entryVacuumCancelled, .entryReconciledAbsent)]

/-- From and to of an accepted exit or flatten order. -/
def exitEdges : List (AggregateStatus × AggregateStatus) :=
  [(.exitPending, .exitAccepted), (.exitOutcomeUnknown, .exitAccepted),
    (.controlledFlattenPending, .controlledFlattenAccepted),
    (.controlledFlattenOutcomeUnknown, .controlledFlattenAccepted)]

/-- The statuses of a cleanup cancel that failed. -/
def cancelStatuses : List AggregateStatus := [.cancelRejected, .cancelOutcomeUnknown]

/-! ### Moves -/

/-- The ways an accepted fact changes the aggregate. -/
inductive Move (current : TradeAggregate) (event : TicketEvent) : TicketFact → Reduction → Prop
  | kept {fact status effects} (quiet : fact.quiet = true)
      (edge : (current.status, status) ∈ keptEdges) (silent : releaseCount effects = 0)
      (cancelling : status ∈ cancelStatuses → current.pendingCancelExchangeOrderId ≠ none :=
        by simp [cancelStatuses]) :
      Move current event fact (transition current event status unchanged effects)
  | closedUnfilled {fact status vacuumId first} (unfilled : fact.endsUnfilled = true)
      (edge : (current.status, status) ∈ unfilledEdges)
      (empty : current.status = .entryVacuumCancelled → current.positionQty = 0)
      (silent : releaseCount first = 0) :
      Move current event fact (transition current event status
        (fun current => { current with entryLaneHeld := false, entryVacuumId := vacuumId })
        (first ++ releaseEntry current))
  | entryAccepted {id}
      (member : current.status ∈ [.entryPending, .leverageConfirmed, .entryOutcomeUnknown])
      (named : ¬ Blank id) :
      Move current event (.entryAccepted id) (transition current event .entryAccepted
        (recordEntry (strip id)) (current.resolveFrom .entryOutcomeUnknown "entry_outcome_unknown"))
  | entryFilled {fact}
      (member : current.status ∈
        [.entryPending, .leverageConfirmed, .entryAccepted, .entryVacuumCancelled])
      (full : fact.filledQty = current.ticket.quantity) :
      Move current event (.entryFilled fact) (transition current event (entryFilledTarget fact)
        (postFillUpdates fact) (entryFilledEffects current fact))
  | entryPartiallyFilled {filled requested price effects}
      (member : current.status ∈ [.entryPending, .leverageConfirmed, .entryAccepted])
      (some_of : 0 < filled ∧ filled < requested) (whole : requested = current.ticket.quantity)
      (silent : releaseCount effects = 0) :
      Move current event (.entryPartiallyFilled filled requested price)
        (transition current event .partialFillIncident
          (fun current => { current with positionQty := filled, averageFillPrice := some price })
          effects)
  | entryVacuumCancelRequested {fact effects}
      (member : current.status ∈ [.entryAccepted, .entryVacuumCancelRejected])
      (unfinished : fact.observedQty < current.ticket.quantity)
      (silent : releaseCount effects = 0)
      (held : current.entryExchangeOrderId = some fact.exchangeOrderId) :
      Move current event (.entryVacuumCancelRequested fact)
        (transition current event .entryVacuumCancelPending
          (fun current => { current with
            positionQty := fact.observedQty
            averageFillPrice := fact.averageFillPrice
            pendingCancelExchangeOrderId := some fact.exchangeOrderId
            entryVacuumId := some fact.entryVacuumId }) effects)
  | entryVacuumOrderAbsenceConfirmed {fact effects}
      (member : current.status ∈
        [.entryAccepted, .entryVacuumCancelPending, .entryVacuumCancelRejected])
      (bounded : fact.finalFilledQty ≤ current.ticket.quantity)
      (silent : releaseCount effects = 0) :
      Move current event (.entryVacuumOrderAbsenceConfirmed fact)
        (transition current event .entryVacuumCancelled
          (fun current => { current with
            positionQty := fact.finalFilledQty
            averageFillPrice := fact.averageFillPrice
            pendingCancelExchangeOrderId := none
            entryVacuumId := some fact.entryVacuumId }) effects)
  | vacuumLateFillAttributed {fact} (status : current.status = .entryVacuumCancelled)
      (empty : current.positionQty = 0) (bounded : fact.filledQty ≤ current.ticket.quantity) :
      Move current event (.vacuumLateFillAttributed fact)
        (transition current event .entryVacuumCancelled
          (fun current => { current with
            positionQty := fact.filledQty
            averageFillPrice := some fact.averageFillPrice }) [])
  | vacuumPartialRetained {fact effects} (status : current.status = .entryVacuumCancelled)
      (exposure : fact.finalFilledQty = current.positionQty)
      (silent : releaseCount effects = 0) :
      Move current event (.vacuumPartialRetained fact)
        (transition current event .protectionPending
          (fun current => { current with
            actualStopRisk := some fact.postFillRisk.actualStopRisk
            postFillRiskStatus := some fact.postFillRisk.status
            postFillDisposition := some fact.postFillRisk.disposition
            tp1TargetQty := fact.effectiveTp1Qty
            entryMaterializationKind := some .vacuumPartialRetained }) effects)
  | initialStopConfirmed {id qty status effects}
      (member : current.status ∈ [.protectionPending, .initialStopOutcomeUnknown])
      (target : status ∈ [.controlledFlattenPending, .postFillRiskPending])
      (covers : qty = current.positionQty) (named : ¬ Blank id)
      (silent : releaseCount effects = 0) :
      Move current event (.initialStopConfirmed id qty)
        (transition current event status (stopUpdates id qty) effects)
  | stressFailed {fact} (status : current.status = .postFillRiskPending)
      (failed : fact.status = .failed) :
      Move current event (.postFillStressAssessed fact) (stressFailed current event fact)
  | stressPassed {fact tp1Quantity limitPrice} (status : current.status = .postFillRiskPending)
      (passed : fact.status = .passed) (legs : tp1Quantities current = [tp1Quantity])
      (runner : tp1Quantity < current.positionQty) :
      Move current event (.postFillStressAssessed fact)
        (stressPassed current event fact tp1Quantity limitPrice)
  | takeProfitConfirmed {id qty effects}
      (member : current.status ∈ [.tp1Pending, .postFillRiskPending, .tp1OutcomeUnknown])
      (named : ¬ Blank id) (silent : releaseCount effects = 0) :
      Move current event (.takeProfitConfirmed id qty)
        (transition current event .positionProtected
          (fun current => { current with tp1ExchangeOrderId := some (strip id) }) effects)
  | takeProfitFilled {fact activeStop} (status : current.status = .positionProtected)
      (target : fact.filledQty = current.tp1TargetQty)
      (active : current.activeStopExchangeOrderId = some activeStop)
      (runner : fact.filledQty < current.positionQty) (floor : 0 < fact.runnerFloorPrice) :
      Move current event (.takeProfitFilled fact) (tp1Filled current event fact activeStop)
  | runnerStopRequested {stopPrice watermarkMs activeStop}
      (status : current.status = .runnerProtected) :
      Move current event (.runnerStopRequested stopPrice watermarkMs)
        (runnerMoved current event stopPrice watermarkMs activeStop)
  | protectionReplacementConfirmed {fact effects}
      (member : current.status ∈ [.runnerReplacementPending, .runnerReplacementOutcomeUnknown])
      (named : ¬ Blank fact.exchangeOrderId) (covers : fact.protectedQty = current.positionQty)
      (replaces : current.activeStopExchangeOrderId = some fact.replacesExchangeOrderId)
      (silent : releaseCount effects = 0) :
      Move current event (.protectionReplacementConfirmed fact)
        (transition current event .runnerOldStopCancelPending (replaced fact) effects)
  | exitOrderAccepted {fact id status effects} (loud : fact = .exitAccepted id ∨
        fact = .controlledFlattenAccepted id)
      (edge : (current.status, status) ∈ exitEdges)
      (silent : releaseCount effects = 0) :
      Move current event fact (transition current event status (recordExit (strip id)) effects)
  | positionFlatConfirmed
      (member : current.status ∈ [.exitPending, .exitAccepted, .exitRejected, .exitOutcomeUnknown,
        .controlledFlattenPending, .controlledFlattenAccepted, .controlledFlattenRejected,
        .controlledFlattenOutcomeUnknown]) :
      Move current event .positionFlatConfirmed (flattened current event)
  | externalFlatDetected {cleanupOrderId} (member : current.status ∈ externalFlatStatuses)
      (next : nextCleanupOrderId current = some cleanupOrderId) :
      Move current event .externalFlatDetected
        (externallyFlattened current event cleanupOrderId)
  | ownedOrphanOrderDetected {id orderNamespace effects}
      (member : current.status ∈ [.reconciliationPending, .cancelRejected])
      (named : ¬ Blank id) (silent : releaseCount effects = 0) :
      Move current event (.ownedOrphanOrderDetected id orderNamespace)
        (transition current event .reconciliationPending
          (fun current => { current with pendingCancelExchangeOrderId := some (strip id) })
          effects)
  | cleared {fact id effects}
      (clears : fact = .ownedOrderAbsenceConfirmed id ∨ fact = .protectionCancelConfirmed id ∨
        fact = .ownedOrphanCancelConfirmed id ∨ fact = .cancelOrderAbsenceConfirmed id)
      (member : current.status ∈ [.reconciliationPending, .cancelRejected, .cancelOutcomeUnknown])
      (silent : releaseCount effects = 0) :
      Move current event fact (Reducer.cleared current event id effects)
  | oldStopGone {fact id effects}
      (gone : fact = .protectionCancelConfirmed id ∨ fact = .protectionCancelAbsenceConfirmed id)
      (member : current.status ∈
        [.runnerOldStopCancelPending, .runnerOldStopCancelOutcomeUnknown])
      (pending : current.pendingReplacedStopExchangeOrderId = some id)
      (silent : releaseCount effects = 0) :
      Move current event fact
        (transition current event .runnerProtected (oldStopGone id) effects)
  | reconciliationMatched {kind} (status : current.status = .reconciliationPending)
      (clean : knownCleanupOrderIds current = []) (unprotected : current.protectedQty = 0)
      (settled : current.pendingCancelExchangeOrderId = none) :
      Move current event (.reconciliationMatched kind)
        (transition current event .settlementPending unchanged (matchedEffects current event))
  | reviewed {fact reviewId} (review : fact.isReview = true)
      (member : current.status ∈ [.reviewPending, .terminal]) :
      Move current event fact (reviewed current event reviewId)

namespace Move

variable {current : TradeAggregate} {event : TicketEvent} {fact : TicketFact} {result : Reduction}

/-! ### The list is complete -/

/-- A status that is one of several, each with an edge. -/
theorem edge_of_member {edges : List (AggregateStatus × AggregateStatus)} {status : AggregateStatus}
    {sources : List AggregateStatus} (member : current.status ∈ sources)
    (listed : ∀ source ∈ sources, (source, status) ∈ edges) :
    (current.status, status) ∈ edges :=
  listed _ member

theorem of_reported {guard : Reduced Unit} {reason required kind : String}
    {status : AggregateStatus}
    (reduced : reported current event guard reason required status kind = .ok result)
    (quiet : fact.quiet = true) (edge : guard = .ok () → (current.status, status) ∈ keptEdges)
    (cancelling : guard = .ok () → status ∈ cancelStatuses →
      current.pendingCancelExchangeOrderId ≠ none := by simp [cancelStatuses]) :
    Move current event fact result := by
  obtain ⟨passed, -, rfl⟩ := reported_eq_ok.mp reduced
  exact .kept quiet (edge passed) (by simp) (cancelling passed)

/-- The edge of a report from a single status. -/
theorem edge_of_status {edges : List (AggregateStatus × AggregateStatus)}
    {source status : AggregateStatus} (at_source : current.status = source)
    (listed : (source, status) ∈ edges) : (current.status, status) ∈ edges :=
  at_source ▸ listed

/-- The edge of a report from a single status about a held order. -/
theorem edge_of_order {source status : AggregateStatus} {id mismatch : String}
    {held : Option String} (listed : (source, status) ∈ keptEdges)
    (passed : (do requireStatus current source; requireSameOrder id held mismatch) = .ok ()) :
    (current.status, status) ∈ keptEdges :=
  edge_of_status (requireStatus_bind_eq_ok.mp passed).1 listed

/-- The order a report names is the one held. -/
theorem held_of_order {source : AggregateStatus} {id mismatch : String} {held : Option String}
    (passed : (do requireStatus current source; requireSameOrder id held mismatch) = .ok ()) :
    held ≠ none := by
  have same := (requireStatus_bind_eq_ok.mp passed).2
  rw [requireSameOrder, refuse_eq_ok, not_not] at same
  simp [← same]

theorem of_closedUnfilled {status : AggregateStatus} {first : List KernelEffect}
    (unfilled : fact.endsUnfilled = true) (edge : (current.status, status) ∈ unfilledEdges)
    (empty : current.status = .entryVacuumCancelled → current.positionQty = 0)
    (silent : releaseCount first = 0) :
    Move current event fact (Reducer.closedUnfilled current event status unchanged first) := by
  have sameVacuum : Move current event fact (transition current event status
      (fun next => { next with entryLaneHeld := false, entryVacuumId := current.entryVacuumId })
      (first ++ releaseEntry current)) := .closedUnfilled unfilled edge empty silent
  exact sameVacuum

theorem of_initialStopMissing {first : List KernelEffect} {partialKind kind : String}
    (quiet : fact.quiet = true)
    (member : current.status ∈ [.protectionPending, .initialStopOutcomeUnknown])
    (silent : releaseCount first = 0) :
    Move current event fact (initialStopMissing current event first partialKind kind) := by
  unfold initialStopMissing
  split_ifs
  · exact .kept quiet (edge_of_member member (by decide))
      (silent_append silent rfl)
  · exact .kept quiet (edge_of_member member (by decide))
      (silent_append silent rfl)

/-- **Every accepted fact is one of the moves.** -/
theorem of_reduceFact (reduced : reduceFact current event fact = .ok result) :
    Move current event fact result := by
  cases fact with
  | leverageConfirmed fact =>
    obtain ⟨member, -, rfl⟩ := leverageConfirmed_eq_ok.mp reduced
    exact .kept rfl (edge_of_member member (by decide)) (silent_append (by simp) rfl)
  | leverageRejected reason =>
    obtain ⟨member, rfl⟩ := leverageRejected_eq_ok.mp reduced
    refine of_closedUnfilled rfl (edge_of_member member (by decide)) ?_ (by simp)
    rintro status
    simp [status] at member
  | leverageOutcomeUnknown reason =>
    exact of_reported reduced rfl fun passed =>
      edge_of_status (requireStatus_eq_ok.mp passed) (by decide)
  | entryAccepted id =>
    obtain ⟨member, named, rfl⟩ := orderAccepted_eq_ok.mp reduced
    exact .entryAccepted member named
  | entryRejected reason =>
    obtain ⟨member, rfl⟩ := entryRejected_eq_ok.mp reduced
    refine of_closedUnfilled rfl (edge_of_member member (by decide)) ?_ rfl
    rintro status
    simp [status] at member
  | entryOutcomeUnknown reason =>
    exact of_reported reduced rfl fun passed =>
      edge_of_member (requireStatusIn_eq_ok.mp passed) (by decide)
  | entryAbsenceConfirmed commandId =>
    obtain ⟨status, -, returned⟩ := absenceConfirmed_eq_ok.mp reduced
    obtain rfl := Except.ok.inj returned
    refine of_closedUnfilled rfl (by rw [status]; decide) ?_ (by simp)
    simp [status]
  | entryFilled fact =>
    obtain ⟨member, -, full, -, rfl⟩ := entryFilled_eq_ok.mp reduced
    exact .entryFilled member full
  | entryPartiallyFilled filled requested price =>
    obtain ⟨member, some_of, whole, rfl⟩ := entryPartiallyFilled_eq_ok.mp reduced
    exact .entryPartiallyFilled member some_of whole rfl
  | entryRemainderCancelConfirmed id =>
    obtain ⟨member, -, rfl⟩ := entryRemainderCancelConfirmed_eq_ok.mp reduced
    exact .kept rfl (edge_of_member member (by decide)) (silent_append (by simp) rfl)
  | entryRemainderCancelRejected id reason =>
    exact of_reported reduced rfl fun passed => edge_of_order (by decide) passed
  | entryRemainderCancelOutcomeUnknown id reason =>
    exact of_reported reduced rfl fun passed => edge_of_order (by decide) passed
  | entryVacuumSuperseded fact =>
    obtain ⟨member, rfl⟩ := entryVacuumSuperseded_eq_ok.mp reduced
    refine .closedUnfilled rfl (edge_of_member member (by decide)) ?_ rfl
    rintro status
    simp [status] at member
  | entryVacuumCancelRequested fact =>
    obtain ⟨member, held, unfinished, rfl⟩ := entryVacuumCancelRequested_eq_ok.mp reduced
    exact .entryVacuumCancelRequested member unfinished (silent_append (by simp) rfl) held
  | entryVacuumCancelConfirmed id =>
    obtain ⟨member, -, rfl⟩ := entryVacuumCancelConfirmed_eq_ok.mp reduced
    exact .kept rfl (edge_of_member member (by decide)) (by simp)
  | entryVacuumCancelRejected id reason =>
    obtain ⟨member, -, rfl⟩ := entryVacuumCancelRejected_eq_ok.mp reduced
    exact .kept rfl (edge_of_member member (by decide)) (by simp)
  | entryVacuumCancelOutcomeUnknown id reason =>
    obtain ⟨status, -, rfl⟩ := entryVacuumCancelOutcomeUnknown_eq_ok.mp reduced
    exact .kept rfl (edge_of_status status (by decide)) (by simp)
  | entryVacuumOrderAbsenceConfirmed fact =>
    obtain ⟨member, -, bounded, -, rfl⟩ := entryVacuumOrderAbsenceConfirmed_eq_ok.mp reduced
    exact .entryVacuumOrderAbsenceConfirmed member bounded (by simp)
  | vacuumLateFillAttributed fact =>
    obtain ⟨status, same, bounded, -, rfl⟩ := vacuumLateFillAttributed_eq_ok.mp reduced
    simp only [differsFromCancelledEntry, not_or, ne_eq, not_not] at same
    exact .vacuumLateFillAttributed status same.2.2.2.2 bounded
  | vacuumPostAbsenceNoFillVerified fact =>
    obtain ⟨status, same, -, rfl⟩ := vacuumPostAbsenceNoFillVerified_eq_ok.mp reduced
    simp only [differsFromCancelledEntry, not_or, ne_eq, not_not] at same
    exact of_closedUnfilled rfl (by rw [status]; decide) (fun _ => same.2.2.2.2) (by simp)
  | entryVacuumAbsenceConfirmed vacuumId =>
    obtain ⟨status, -, empty, rfl⟩ := entryVacuumAbsenceConfirmed_eq_ok.mp reduced
    exact of_closedUnfilled rfl (by rw [status]; decide) (fun _ => empty) rfl
  | vacuumPartialRetained fact =>
    obtain ⟨status, same, -, -, rfl⟩ := vacuumPartialRetained_eq_ok.mp reduced
    exact .vacuumPartialRetained status same.2.2.1 rfl
  | vacuumPartialFlattenRequired fact =>
    obtain ⟨status, -, rfl⟩ := vacuumPartialFlattenRequired_eq_ok.mp reduced
    exact .kept rfl (edge_of_status status (by decide)) rfl
  | initialStopConfirmed id qty =>
    obtain ⟨member, covers, named, rfl⟩ := initialStopConfirmed_eq_ok.mp reduced
    unfold stopConfirmed
    split_ifs
    · exact .initialStopConfirmed member (by simp) covers named
        rfl
    · exact .initialStopConfirmed member (by simp) covers named (by simp)
  | postFillStressAssessed fact =>
    obtain ⟨status, -, -, ⟨failed, rfl⟩ | ⟨passed, _, _, -, legs, runner, rfl⟩⟩ :=
      postFillStressAssessed_eq_ok.mp reduced
    · exact .stressFailed status failed
    · exact .stressPassed status passed legs runner
  | initialStopRejected reason =>
    obtain ⟨status, -, rfl⟩ := initialStopRejected_eq_ok.mp reduced
    exact of_initialStopMissing rfl (by simp [status]) rfl
  | initialStopOutcomeUnknown reason =>
    exact of_reported reduced rfl fun passed =>
      edge_of_status (requireStatus_eq_ok.mp passed) (by decide)
  | initialStopAbsenceConfirmed commandId =>
    obtain ⟨status, -, returned⟩ := absenceConfirmed_eq_ok.mp reduced
    obtain rfl := Except.ok.inj returned
    exact of_initialStopMissing rfl (by simp [status]) (by simp)
  | takeProfitConfirmed id qty =>
    obtain ⟨member, named, -, rfl⟩ := takeProfitConfirmed_eq_ok.mp reduced
    exact .takeProfitConfirmed member named (by simp)
  | takeProfitRejected reason =>
    exact of_reported reduced rfl fun passed =>
      edge_of_status (requireStatus_eq_ok.mp passed) (by decide)
  | takeProfitOutcomeUnknown reason =>
    exact of_reported reduced rfl fun passed =>
      edge_of_status (requireStatus_eq_ok.mp passed) (by decide)
  | takeProfitAbsenceConfirmed commandId =>
    obtain ⟨status, -, _, -, rfl⟩ := takeProfitAbsenceConfirmed_eq_ok.mp reduced
    exact .kept rfl (edge_of_status status (by decide)) rfl
  | takeProfitFilled fact =>
    obtain ⟨status, target, positive, _, active, runner, rfl⟩ :=
      takeProfitFilled_eq_ok.mp reduced
    exact .takeProfitFilled status target active runner positive.2
  | runnerStopRequested stopPrice watermarkMs =>
    obtain ⟨status, _, -, _, -, -, -, rfl⟩ := runnerStopRequested_eq_ok.mp reduced
    exact .runnerStopRequested status
  | protectionReplacementConfirmed fact =>
    obtain ⟨member, named, covers, replaces, -, rfl⟩ :=
      protectionReplacementConfirmed_eq_ok.mp reduced
    exact .protectionReplacementConfirmed member named covers replaces
      (silent_append (by simp) rfl)
  | protectionReplacementRejected reason =>
    exact of_reported reduced rfl fun passed =>
      edge_of_status (requireStatus_eq_ok.mp passed) (by decide)
  | protectionReplacementOutcomeUnknown reason =>
    exact of_reported reduced rfl fun passed =>
      edge_of_status (requireStatus_eq_ok.mp passed) (by decide)
  | protectionReplacementAbsenceConfirmed commandId =>
    obtain ⟨status, -, _, -, _, -, _, -, rfl⟩ :=
      protectionReplacementAbsenceConfirmed_eq_ok.mp reduced
    exact .kept rfl (edge_of_status status (by decide)) rfl
  | exitRequested reason =>
    obtain ⟨member, -, rfl⟩ := exitRequested_eq_ok.mp reduced
    exact .kept rfl (edge_of_member member (by decide)) rfl
  | exitAccepted id =>
    obtain ⟨member, -, rfl⟩ := orderAccepted_eq_ok.mp reduced
    exact .exitOrderAccepted (.inl rfl) (edge_of_member member (by decide)) (by simp)
  | exitRejected reason =>
    exact of_reported reduced rfl fun passed =>
      edge_of_status (requireStatus_eq_ok.mp passed) (by decide)
  | exitOutcomeUnknown reason =>
    exact of_reported reduced rfl fun passed =>
      edge_of_status (requireStatus_eq_ok.mp passed) (by decide)
  | exitAbsenceConfirmed commandId =>
    obtain ⟨status, -, returned⟩ := absenceConfirmed_eq_ok.mp reduced
    obtain rfl := Except.ok.inj returned
    exact .kept rfl (edge_of_status status (by decide)) (by simp)
  | controlledFlattenAccepted id =>
    obtain ⟨member, -, rfl⟩ := orderAccepted_eq_ok.mp reduced
    exact .exitOrderAccepted (.inr rfl) (edge_of_member member (by decide)) (by simp)
  | controlledFlattenRejected reason =>
    exact of_reported reduced rfl fun passed =>
      edge_of_status (requireStatus_eq_ok.mp passed) (by decide)
  | controlledFlattenOutcomeUnknown reason =>
    exact of_reported reduced rfl fun passed =>
      edge_of_status (requireStatus_eq_ok.mp passed) (by decide)
  | controlledFlattenAbsenceConfirmed commandId =>
    obtain ⟨status, -, returned⟩ := absenceConfirmed_eq_ok.mp reduced
    obtain rfl := Except.ok.inj returned
    exact .kept rfl (edge_of_status status (by decide)) (by simp)
  | positionFlatConfirmed =>
    obtain ⟨member, rfl⟩ := positionFlatConfirmed_eq_ok.mp reduced
    exact .positionFlatConfirmed member
  | externalFlatDetected =>
    obtain ⟨member, _, next, rfl⟩ := externalFlatDetected_eq_ok.mp reduced
    exact .externalFlatDetected member next
  | ownedOrphanOrderDetected id orderNamespace =>
    obtain ⟨member, named, rfl⟩ := ownedOrphanOrderDetected_eq_ok.mp reduced
    exact .ownedOrphanOrderDetected member named rfl
  | ownedOrderAbsenceConfirmed id =>
    obtain ⟨status, -, -, rfl⟩ := ownedOrderAbsenceConfirmed_eq_ok.mp reduced
    exact .cleared (.inl rfl) (by simp [status]) rfl
  | unownedOrderDetected id =>
    exact of_reported reduced rfl fun passed =>
      edge_of_status (requireStatus_eq_ok.mp passed) (by decide)
  | protectionCancelConfirmed id =>
    obtain ⟨status, pending, rfl⟩ | ⟨status, -, -, rfl⟩ :=
      protectionCancelConfirmed_eq_ok.mp reduced
    · exact .oldStopGone (.inl rfl) (by simp [status]) pending rfl
    · exact .cleared (.inr (.inl rfl)) (by simp [status]) rfl
  | protectionCancelRejected id reason =>
    exact of_reported reduced rfl fun passed => edge_of_order (by decide) passed
  | protectionCancelOutcomeUnknown id reason =>
    exact of_reported reduced rfl fun passed => edge_of_order (by decide) passed
  | protectionCancelAbsenceConfirmed id =>
    obtain ⟨status, pending, rfl⟩ := protectionCancelAbsenceConfirmed_eq_ok.mp reduced
    exact .oldStopGone (.inr rfl) (by simp [status]) pending rfl
  | ownedOrphanCancelConfirmed id =>
    obtain ⟨status, -, -, rfl⟩ := ownedOrphanCancelConfirmed_eq_ok.mp reduced
    exact .cleared (.inr (.inr (.inl rfl))) (by simp [status]) rfl
  | cancelOrderRejected id reason =>
    exact of_reported reduced rfl (fun passed => edge_of_order (by decide) passed)
      fun passed _ => held_of_order passed
  | cancelOrderOutcomeUnknown id reason =>
    exact of_reported reduced rfl (fun passed => edge_of_order (by decide) passed)
      fun passed _ => held_of_order passed
  | cancelOrderAbsenceConfirmed id =>
    obtain ⟨member, -, rfl⟩ := cancelOrderAbsenceConfirmed_eq_ok.mp reduced
    exact .cleared (.inr (.inr (.inr rfl))) (List.mem_cons_of_mem _ member) (by simp)
  | cancelOrderStillOpenConfirmed id =>
    obtain ⟨status, pending, rfl⟩ := cancelOrderStillOpenConfirmed_eq_ok.mp reduced
    exact .kept rfl (edge_of_status status (by decide)) (by simp) fun _ => by simp [pending]
  | reconciliationMatched kind =>
    obtain ⟨status, clean, unprotected, settled, rfl⟩ := reconciliationMatched_eq_ok.mp reduced
    exact .reconciliationMatched status clean unprotected settled
  | budgetSettled =>
    obtain ⟨status, rfl⟩ := budgetSettled_eq_ok.mp reduced
    exact .kept rfl (edge_of_status status (by decide)) rfl
  | reviewRecorded reviewId =>
    obtain ⟨status, -, rfl⟩ := reviewRecorded_eq_ok.mp reduced
    exact .reviewed rfl (by simp [status])
  | reviewRevised reviewId supersedesReviewId =>
    obtain ⟨status, -, -, -, rfl⟩ := reviewRevised_eq_ok.mp reduced
    exact .reviewed rfl (by simp [status])

/-! ### From and to -/

/-- From and to of the moves that change more than the status. -/
def changedEdges : List (AggregateStatus × AggregateStatus) :=
  [(.entryPending, .entryAccepted), (.leverageConfirmed, .entryAccepted),
    (.entryOutcomeUnknown, .entryAccepted), (.entryPending, .controlledFlattenPending),
    (.entryPending, .protectionPending), (.leverageConfirmed, .controlledFlattenPending),
    (.leverageConfirmed, .protectionPending), (.entryAccepted, .controlledFlattenPending),
    (.entryAccepted, .protectionPending), (.entryVacuumCancelled, .controlledFlattenPending),
    (.entryVacuumCancelled, .protectionPending), (.entryPending, .partialFillIncident),
    (.leverageConfirmed, .partialFillIncident), (.entryAccepted, .partialFillIncident),
    (.entryAccepted, .entryVacuumCancelPending),
    (.entryVacuumCancelRejected, .entryVacuumCancelPending),
    (.entryAccepted, .entryVacuumCancelled), (.entryVacuumCancelPending, .entryVacuumCancelled),
    (.entryVacuumCancelRejected, .entryVacuumCancelled),
    (.entryVacuumCancelled, .entryVacuumCancelled),
    (.protectionPending, .controlledFlattenPending), (.protectionPending, .postFillRiskPending),
    (.initialStopOutcomeUnknown, .controlledFlattenPending),
    (.initialStopOutcomeUnknown, .postFillRiskPending),
    (.postFillRiskPending, .controlledFlattenPending), (.postFillRiskPending, .tp1Pending),
    (.tp1Pending, .positionProtected), (.postFillRiskPending, .positionProtected),
    (.tp1OutcomeUnknown, .positionProtected), (.positionProtected, .runnerReplacementPending),
    (.runnerProtected, .runnerReplacementPending),
    (.runnerReplacementPending, .runnerOldStopCancelPending),
    (.runnerReplacementOutcomeUnknown, .runnerOldStopCancelPending),
    (.runnerOldStopCancelPending, .runnerProtected),
    (.runnerOldStopCancelOutcomeUnknown, .runnerProtected),
    (.reconciliationPending, .reconciliationPending), (.cancelRejected, .reconciliationPending),
    (.cancelOutcomeUnknown, .reconciliationPending),
    (.reconciliationPending, .settlementPending), (.reviewPending, .terminal),
    (.terminal, .terminal)]

/-- From and to of the moves that find the position flat. -/
def flatEdges : List (AggregateStatus × AggregateStatus) :=
  let exits : List AggregateStatus :=
    [.exitPending, .exitAccepted, .exitRejected, .exitOutcomeUnknown, .controlledFlattenPending,
      .controlledFlattenAccepted, .controlledFlattenRejected, .controlledFlattenOutcomeUnknown]
  (exits ++ externalFlatStatuses).map fun status => (status, .reconciliationPending)

/-- From and to of every move. -/
def moveEdges : List (AggregateStatus × AggregateStatus) :=
  keptEdges ++ unfilledEdges ++ exitEdges ++ changedEdges ++ flatEdges

/-- The edge of a transition is the one of its statuses. -/
theorem transition_edge {status : AggregateStatus} {updates : TradeAggregate → TradeAggregate}
    {effects : List KernelEffect} (edge : (current.status, status) ∈ moveEdges) :
    (current.status, (transition current event status updates effects).aggregate.status) ∈
      moveEdges :=
  edge

/-- A move follows one of the edges. -/
theorem edge (move : Move current event fact result) :
    (current.status, result.aggregate.status) ∈ moveEdges := by
  cases move with
  | kept quiet edge silent cancelling =>
    exact List.mem_append_left _ (List.mem_append_left _ (List.mem_append_left _
      (List.mem_append_left _ edge)))
  | closedUnfilled unfilled edge empty silent =>
    exact List.mem_append_left _ (List.mem_append_left _ (List.mem_append_left _
      (List.mem_append_right _ edge)))
  | exitOrderAccepted loud edge silent =>
    exact List.mem_append_left _ (List.mem_append_left _ (List.mem_append_right _ edge))
  | entryAccepted member named => exact transition_edge (edge_of_member member (by decide))
  | @entryFilled fact member full =>
    exact edge_of_member member fun source listed =>
      (by decide : ∀ source ∈ ([.entryPending, .leverageConfirmed, .entryAccepted,
        .entryVacuumCancelled] : List AggregateStatus),
        ∀ target ∈ ([.controlledFlattenPending, .protectionPending] : List AggregateStatus),
          (source, target) ∈ moveEdges) source listed _ (entryFilledTarget_mem fact)
  | entryPartiallyFilled member some_of whole silent => exact transition_edge (edge_of_member member (by decide))
  | entryVacuumCancelRequested member unfinished silent =>
    exact transition_edge (edge_of_member member (by decide))
  | entryVacuumOrderAbsenceConfirmed member bounded silent =>
    exact transition_edge (edge_of_member member (by decide))
  | vacuumLateFillAttributed status empty bounded => exact transition_edge (edge_of_status status (by decide))
  | vacuumPartialRetained status exposure silent => exact transition_edge (edge_of_status status (by decide))
  | initialStopConfirmed member target covers named silent =>
    exact edge_of_member member fun source listed =>
      (by decide : ∀ source ∈ ([.protectionPending, .initialStopOutcomeUnknown] :
        List AggregateStatus),
        ∀ target ∈ ([.controlledFlattenPending, .postFillRiskPending] : List AggregateStatus),
          (source, target) ∈ moveEdges) source listed _ target
  | stressFailed status failed => exact transition_edge (edge_of_status status (by decide))
  | stressPassed status passed legs runner => exact transition_edge (edge_of_status status (by decide))
  | takeProfitConfirmed member named silent => exact transition_edge (edge_of_member member (by decide))
  | takeProfitFilled status target active runner floor => exact transition_edge (edge_of_status status (by decide))
  | runnerStopRequested status => exact transition_edge (edge_of_status status (by decide))
  | protectionReplacementConfirmed member named covers replaces silent =>
    exact transition_edge (edge_of_member member (by decide))
  | positionFlatConfirmed member => exact transition_edge (edge_of_member member (by decide))
  | externalFlatDetected member next => exact transition_edge (edge_of_member member (by decide))
  | ownedOrphanOrderDetected member named silent => exact transition_edge (edge_of_member member (by decide))
  | cleared clears member silent => exact transition_edge (edge_of_member member (by decide))
  | oldStopGone gone member pending silent => exact transition_edge (edge_of_member member (by decide))
  | reconciliationMatched status clean unprotected settled => exact transition_edge (edge_of_status status (by decide))
  | reviewed review member => exact transition_edge (edge_of_member member (by decide))

/-- What every edge respects, every move respects. -/
theorem follows (move : Move current event fact result)
    (allowed : AggregateStatus × AggregateStatus → Prop)
    (every : ∀ edge ∈ moveEdges, allowed edge) :
    allowed (current.status, result.aggregate.status) :=
  every _ move.edge

end Move

end TradingKernel
