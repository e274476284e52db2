/-
**Exit quantities conserve the ENTRY fill.**

From the first protection, partial fill or flatten on, what TP1 has sold and what is left of the
position add up to the fill, and something is left, until the position is found flat
(`Move.exposed_step`). Every exit command and every announced flatten is for exactly what is left,
and a TP1 order for a part of it (`Sized`, with what an event asks for read off `Asks`).
-/

import TradingKernel.Domain.Lane
import TradingKernel.Domain.Requests
import TradingKernel.Lifecycle.Coverage
import TradingKernel.Lifecycle.FillMemory

namespace TradingKernel

open Reducer

/-! ### The statuses that matter -/

/-- The statuses in which a run first has an exposure to exit. -/
def openingStatuses : List AggregateStatus :=
  [.protectionPending, .partialFillIncident, .controlledFlattenPending]

/-- The statuses from there to the flat position. -/
def exposedStatuses : List AggregateStatus :=
  [.partialFillIncident, .partialFillCancelRejected, .partialFillCancelOutcomeUnknown,
    .exitPending, .exitAccepted, .exitRejected, .exitOutcomeUnknown, .controlledFlattenPending,
    .controlledFlattenAccepted, .controlledFlattenRejected, .controlledFlattenOutcomeUnknown] ++
    positionedStatuses

/-- The statuses that lead to the fill of TP1: nothing has been sold yet. -/
def unsoldStatuses : List AggregateStatus :=
  laneHeldStatuses ++ [.partialFillIncident, .partialFillCancelOutcomeUnknown,
    .controlledFlattenPending, .tp1Pending, .tp1OutcomeUnknown, .positionProtected]

/-- The statuses in which TP1 is asked for. -/
def targetedStatuses : List AggregateStatus := [.tp1Pending, .tp1OutcomeUnknown]

/-! ### The law -/

/-- An exit is for the whole position, and a TP1 order for a part of it. -/
def QuantityFits (after : TradeAggregate) : KernelEffect → Prop
  | .prepareTakeProfitCommand _ quantity _ => 0 < quantity ∧ quantity < after.positionQty
  | .prepareInitialStopCommand _ quantity _ => quantity = after.positionQty
  | .prepareProtectionReplacementCommand _ quantity _ _ _ => quantity = after.positionQty
  | .prepareExitCommand _ quantity _ => quantity = after.positionQty
  | .prepareControlledFlattenCommand _ quantity => quantity = after.positionQty
  | .requestControlledFlatten _ quantity => quantity = after.positionQty
  | _ => True

/-- The quantities of a run: every effect fits the position its event leaves, and from an opening
status on, the position and what TP1 sold of it add up to the fill, until the position is found
flat. -/
structure ConservesFill (history : List AcceptedEvent) (aggregate : TradeAggregate) : Prop where
  fits : ∀ before entry later after, history = before ++ [entry] ++ later →
    LifecycleRun (before ++ [entry]) after → ∀ effect ∈ entry.effects, QuantityFits after effect
  conserved : ∀ before later opened, history = before ++ later → LifecycleRun before opened →
    opened.status ∈ openingStatuses → NeverFlat later →
    aggregate.positionQty + aggregate.tp1FilledQty = opened.positionQty ∧
      0 < aggregate.positionQty

/-! ### The invariant -/

/-- What the quantities of an aggregate are, by its status. -/
structure Sized (aggregate : TradeAggregate) : Prop where
  positive : aggregate.status ∈ exposedStatuses → 0 < aggregate.positionQty
  unsold : aggregate.status ∈ unsoldStatuses → aggregate.tp1FilledQty = 0
  target : aggregate.status ∈ targetedStatuses →
    0 < aggregate.tp1TargetQty ∧ aggregate.tp1TargetQty < aggregate.positionQty

/-- A change of status that asks for nothing that was not there. -/
def SizeFollows (source target : AggregateStatus) : Prop :=
  (target ∈ exposedStatuses → source ∈ exposedStatuses) ∧
    (target ∈ targetedStatuses → source ∈ targetedStatuses)

instance (source target : AggregateStatus) : Decidable (SizeFollows source target) :=
  inferInstanceAs (Decidable (_ ∧ _))

namespace Move

variable {current : TradeAggregate} {event : TicketEvent} {fact : TicketFact} {result : Reduction}

/-- Only the fill of TP1 changes what TP1 has sold. -/
theorem tp1FilledQty (move : Move current event fact result) :
    (∃ filled, fact = .takeProfitFilled filled) ∨
      result.aggregate.tp1FilledQty = current.tp1FilledQty := by
  cases move with
  | takeProfitFilled status target active runner floor => exact .inl ⟨_, rfl⟩
  | _ => exact .inr rfl

end Move

namespace Sized

variable {current : TradeAggregate} {event : TicketEvent} {status : AggregateStatus}
  {updates : TradeAggregate → TradeAggregate} {effects : List KernelEffect} {result : Reduction}

theorem issued (ticket : TradeTicket) : Sized (issuedAggregate ticket 1) where
  positive exposed := absurd exposed (issued_not_mem ticket (by decide))
  unsold _ := rfl
  target targeted := absurd targeted (issued_not_mem ticket (by decide))

/-- A move along an edge that asks for nothing new, and leaves the position and the target alone. -/
theorem alongEdge (sized : Sized current)
    (unsold : status ∈ unsoldStatuses → (updates current).tp1FilledQty = 0)
    (follows : SizeFollows current.status status)
    (position : (updates current).positionQty = current.positionQty := by rfl)
    (target : (updates current).tp1TargetQty = current.tp1TargetQty := by rfl) :
    Sized (transition current event status updates effects).aggregate where
  positive exposed := by simpa [position] using sized.positive (follows.1 exposed)
  unsold := unsold
  target targeted := by simpa [position, target] using sized.target (follows.2 targeted)

theorem fromMember (sized : Sized current) {sources : List AggregateStatus}
    (member : current.status ∈ sources)
    (unsold : status ∈ unsoldStatuses → (updates current).tp1FilledQty = 0)
    (follows : ∀ source ∈ sources, SizeFollows source status)
    (position : (updates current).positionQty = current.positionQty := by rfl)
    (target : (updates current).tp1TargetQty = current.tp1TargetQty := by rfl) :
    Sized (transition current event status updates effects).aggregate :=
  sized.alongEdge unsold (follows _ member) position target

/-- A move to a status in which TP1 is not asked for, with a positive position if it is exposed. -/
theorem resized (unsold : status ∈ unsoldStatuses → (updates current).tp1FilledQty = 0)
    (positive : status ∈ exposedStatuses → 0 < (updates current).positionQty)
    (other : status ∉ targetedStatuses) :
    Sized (transition current event status updates effects).aggregate where
  positive := positive
  unsold := unsold
  target targeted := absurd targeted other

/-- **Every accepted event keeps the quantities.** -/
theorem moved (sized : Sized current) (on : AcceptedOn current event result) :
    Sized result.aggregate := by
  have move := on.move
  have exposed := (Aside.of_reduceFact on.reduced).exposed
  have unsold : result.aggregate.status ∈ unsoldStatuses → result.aggregate.tp1FilledQty = 0 := by
    intro member
    have before := move.follows (fun edge =>
      edge.2 ∈ unsoldStatuses → edge.1 ∈ unsoldStatuses) (by decide +kernel) member
    rcases move.tp1FilledQty with ⟨filled, reports⟩ | same
    · have reduced := on.reduced
      rw [reports] at reduced
      obtain ⟨-, -, -, _, -, -, rfl⟩ := takeProfitFilled_eq_ok.mp reduced
      exact absurd member (show AggregateStatus.runnerReplacementPending ∉ unsoldStatuses by decide)
    · rw [same]
      exact sized.unsold before
  generalize event.fact = fact at move
  cases move with
  | @kept fact status effects quiet edge silent cancelling =>
    rcases (by decide : ∀ pair ∈ keptEdges, SizeFollows pair.1 pair.2 ∨
      pair = (.entryVacuumCancelled, .controlledFlattenPending)) _ edge with follows | vacuum
    · exact sized.alongEdge unsold follows
    · -- the flatten of a vacuum is of a positive fill
      obtain ⟨source, rfl⟩ := Prod.mk.inj vacuum
      exact resized unsold (fun _ => exposed rfl source) (by decide)
  | closedUnfilled unfilled edge empty silent =>
    exact sized.alongEdge unsold ((by decide : ∀ pair ∈ unfilledEdges,
      SizeFollows pair.1 pair.2) _ edge)
  | entryAccepted member named => exact sized.fromMember member unsold (by decide)
  | @entryFilled fact member full =>
    have positive : 0 < fact.filledQty := full ▸ current.ticket.quantity_pos
    exact resized unsold (fun _ => positive)
      ((by decide : ∀ status ∈ ([.controlledFlattenPending, .protectionPending] :
        List AggregateStatus), status ∉ targetedStatuses) _ (entryFilledTarget_mem fact))
  | entryPartiallyFilled member some_of whole silent =>
    exact resized unsold (fun _ => some_of.1) (by decide)
  | entryVacuumCancelRequested member unfinished silent =>
    exact resized unsold (fun exposed => absurd exposed (by decide)) (by decide)
  | entryVacuumOrderAbsenceConfirmed member bounded silent =>
    exact resized unsold (fun exposed => absurd exposed (by decide)) (by decide)
  | vacuumLateFillAttributed status empty bounded =>
    exact resized unsold (fun exposed => absurd exposed (by decide)) (by decide)
  | @vacuumPartialRetained fact effects status exposure silent =>
    have positive : 0 < current.positionQty := exposure ▸ fact.positive.2.1
    exact resized unsold (fun _ => positive) (by decide)
  | @initialStopConfirmed id quantity status effects member target covers named silent =>
    exact sized.alongEdge unsold ((by decide : ∀ source ∈ ([.protectionPending,
      .initialStopOutcomeUnknown] : List AggregateStatus), ∀ target ∈
        ([.controlledFlattenPending, .postFillRiskPending] : List AggregateStatus),
          SizeFollows source target) _ member _ target)
  | stressFailed status failed =>
    exact sized.fromMember (List.mem_singleton.mpr status) unsold (by decide)
  | stressPassed status passed legs runner =>
    have positive : 0 < current.positionQty := (Covered.tp1Quantity_pos legs).trans runner
    exact ⟨fun _ => positive, unsold, fun _ => ⟨Covered.tp1Quantity_pos legs, runner⟩⟩
  | takeProfitConfirmed member named silent => exact sized.fromMember member unsold (by decide)
  | takeProfitFilled status target active runner floor =>
    exact resized unsold (fun _ => sub_pos.mpr runner) (by decide)
  | runnerStopRequested status =>
    exact sized.fromMember (List.mem_singleton.mpr status) unsold (by decide)
  | protectionReplacementConfirmed member named covers replaces silent =>
    exact sized.fromMember member unsold (by decide)
  | exitOrderAccepted loud edge silent =>
    exact sized.alongEdge unsold ((by decide : ∀ pair ∈ exitEdges,
      SizeFollows pair.1 pair.2) _ edge)
  | positionFlatConfirmed member =>
    exact resized unsold (fun exposed => absurd exposed (by decide)) (by decide)
  | externalFlatDetected member next =>
    exact resized unsold (fun exposed => absurd exposed (by decide)) (by decide)
  | ownedOrphanOrderDetected member named silent =>
    exact sized.fromMember member unsold (by decide)
  | cleared clears member silent => exact sized.fromMember member unsold (by decide)
  | oldStopGone gone member pending silent => exact sized.fromMember member unsold (by decide)
  | reconciliationMatched status clean unprotected settled =>
    exact sized.fromMember (List.mem_singleton.mpr status) unsold (by decide)
  | reviewed review member => exact sized.fromMember member unsold (by decide)

end Sized

/-- The quantities of every run. -/
theorem sized {history : List AcceptedEvent} {aggregate : TradeAggregate}
    (run : LifecycleRun history aggregate) : Sized aggregate :=
  run.invariant Sized Sized.issued fun sized on => sized.moved on

/-! ### One event -/

section Step

variable {current : TradeAggregate} {event : TicketEvent} {fact : TicketFact} {result : Reduction}

/-- **An event that does not find an exposed position flat leaves it exposed, and leaves what was
sold and what is left at the same sum.** -/
theorem Move.exposed_step (move : Move current event fact result)
    (sized : Sized current) (exposed : current.status ∈ exposedStatuses)
    (position : fact.findsFlat = false) : result.aggregate.status ∈ exposedStatuses ∧
      result.aggregate.positionQty + result.aggregate.tp1FilledQty =
        current.positionQty + current.tp1FilledQty := by
  cases move with
  | kept quiet edge silent cancelling =>
    exact ⟨(by decide : ∀ pair ∈ keptEdges, pair.1 ∈ exposedStatuses →
      pair.2 ∈ exposedStatuses) _ edge exposed, rfl⟩
  | closedUnfilled unfilled edge empty silent =>
    exact absurd exposed ((by decide : ∀ pair ∈ unfilledEdges, pair.1 ∉ exposedStatuses) _ edge)
  | entryAccepted member named => exact absurd exposed ((by decide : ∀ status ∈
      ([.entryPending, .leverageConfirmed, .entryOutcomeUnknown] : List AggregateStatus),
        status ∉ exposedStatuses) _ member)
  | entryFilled member full => exact absurd exposed ((by decide : ∀ status ∈
      ([.entryPending, .leverageConfirmed, .entryAccepted, .entryVacuumCancelled] :
        List AggregateStatus), status ∉ exposedStatuses) _ member)
  | entryPartiallyFilled member some_of whole silent => exact absurd exposed ((by decide :
      ∀ status ∈ ([.entryPending, .leverageConfirmed, .entryAccepted] : List AggregateStatus),
        status ∉ exposedStatuses) _ member)
  | entryVacuumCancelRequested member unfinished silent => exact absurd exposed ((by decide :
      ∀ status ∈ ([.entryAccepted, .entryVacuumCancelRejected] : List AggregateStatus),
        status ∉ exposedStatuses) _ member)
  | entryVacuumOrderAbsenceConfirmed member bounded silent => exact absurd exposed ((by decide :
      ∀ status ∈ ([.entryAccepted, .entryVacuumCancelPending, .entryVacuumCancelRejected] :
        List AggregateStatus), status ∉ exposedStatuses) _ member)
  | vacuumLateFillAttributed status empty bounded =>
    rw [status] at exposed
    exact absurd exposed (by decide)
  | vacuumPartialRetained status exposure silent =>
    rw [status] at exposed
    exact absurd exposed (by decide)
  | initialStopConfirmed member target covers named silent =>
    exact ⟨(by decide : ∀ status ∈ ([.controlledFlattenPending, .postFillRiskPending] :
      List AggregateStatus), status ∈ exposedStatuses) _ target, rfl⟩
  | takeProfitFilled status target active runner floor =>
    have unsold : current.tp1FilledQty = 0 := sized.unsold (by rw [status]; decide)
    refine ⟨show AggregateStatus.runnerReplacementPending ∈ exposedStatuses by decide, ?_⟩
    simp [tp1Filled, unsold]
  | exitOrderAccepted loud edge silent =>
    exact ⟨(by decide : ∀ pair ∈ exitEdges, pair.2 ∈ exposedStatuses) _ edge, rfl⟩
  | positionFlatConfirmed member => simp [TicketFact.findsFlat] at position
  | externalFlatDetected member next => simp [TicketFact.findsFlat] at position
  | ownedOrphanOrderDetected member named silent => exact absurd exposed ((by decide :
      ∀ status ∈ ([.reconciliationPending, .cancelRejected] : List AggregateStatus),
        status ∉ exposedStatuses) _ member)
  | cleared clears member silent => exact absurd exposed ((by decide :
      ∀ status ∈ ([.reconciliationPending, .cancelRejected, .cancelOutcomeUnknown] :
        List AggregateStatus), status ∉ exposedStatuses) _ member)
  | reconciliationMatched status clean unprotected settled =>
    rw [status] at exposed
    exact absurd exposed (by decide)
  | reviewed review member => exact absurd exposed ((by decide :
      ∀ status ∈ ([.reviewPending, .terminal] : List AggregateStatus),
        status ∉ exposedStatuses) _ member)
  | stressFailed status failed =>
    exact ⟨show AggregateStatus.controlledFlattenPending ∈ exposedStatuses by decide, rfl⟩
  | stressPassed status passed legs runner =>
    exact ⟨show AggregateStatus.tp1Pending ∈ exposedStatuses by decide, rfl⟩
  | takeProfitConfirmed member named silent =>
    exact ⟨show AggregateStatus.positionProtected ∈ exposedStatuses by decide, rfl⟩
  | runnerStopRequested status =>
    exact ⟨show AggregateStatus.runnerReplacementPending ∈ exposedStatuses by decide, rfl⟩
  | protectionReplacementConfirmed member named covers replaces silent =>
    exact ⟨show AggregateStatus.runnerOldStopCancelPending ∈ exposedStatuses by decide, rfl⟩
  | oldStopGone gone member pending silent =>
    exact ⟨show AggregateStatus.runnerProtected ∈ exposedStatuses by decide, rfl⟩

/-- **Every effect of an accepted event fits the position that the event leaves.** -/
theorem quantityFits (sized : Sized current) (on : AcceptedOn current event result)
    {effect : KernelEffect} (emitted : effect ∈ result.effects) :
    QuantityFits result.aggregate effect := by
  by_cases asks : effect.asksCommand = true
  · have awaited := (Asks.of_reduceFact on.reduced).awaited emitted asks
    cases effect with
    | prepareTakeProfitCommand ticketId quantity limitPrice =>
      obtain ⟨status, rfl⟩ := awaited
      exact (sized.moved on).target (by rw [status]; decide)
    | prepareInitialStopCommand ticketId quantity stopPrice => exact awaited.2
    | prepareProtectionReplacementCommand ticketId quantity stopPrice replaces watermarkMs =>
      exact awaited.2.1
    | prepareExitCommand ticketId quantity reason => exact awaited.2
    | prepareControlledFlattenCommand ticketId quantity => exact awaited.2
    | requestControlledFlatten ticketId quantity => simp [KernelEffect.asksCommand] at asks
    | _ => trivial
  · cases effect with
    | requestControlledFlatten ticketId quantity =>
      exact (Aside.of_reduceFact on.reduced).announced ticketId quantity emitted
    | prepareTakeProfitCommand | prepareInitialStopCommand | prepareProtectionReplacementCommand
    | prepareExitCommand | prepareControlledFlattenCommand =>
      simp [KernelEffect.asksCommand] at asks
    | _ => trivial

end Step

/-! ### The law -/

section Law

variable {history : List AcceptedEvent} {aggregate : TradeAggregate}

/-- From an opening status on, the sum stays at the fill until the position is found flat. -/
theorem conserved_since {before later : List AcceptedEvent} {opened : TradeAggregate}
    (begun : LifecycleRun before opened) (rest : Run Accepts (some opened) later (some aggregate))
    (opens : opened.status ∈ openingStatuses) (neverFlat : NeverFlat later) :
    aggregate.status ∈ exposedStatuses ∧
      aggregate.positionQty + aggregate.tp1FilledQty = opened.positionQty := by
  have exposed := (by decide : ∀ status ∈ openingStatuses, status ∈ exposedStatuses ∧
    status ∈ unsoldStatuses) _ opens
  have conditional : Run (AcceptsIf fun _ _ => True) (some opened) later (some aggregate) :=
    rest.mono fun accepts => ⟨accepts, fun _ _ _ _ => trivial⟩
  refine begun.unconditional.induct_after conditional (fun past current => NeverFlat past →
    current.status ∈ exposedStatuses ∧
      current.positionQty + current.tp1FilledQty = opened.positionQty) ?_ ?_ neverFlat
  · intro _
    refine ⟨exposed.1, ?_⟩
    rw [(sized begun).unsold exposed.2, add_zero]
  · intro past current event result soFar ih on _ noFlat
    obtain ⟨earlier, notFlat⟩ := neverFlat_snoc noFlat
    obtain ⟨isExposed, sum⟩ := ih earlier
    obtain ⟨stays, same⟩ := on.move.exposed_step (sized soFar.run) isExposed notFlat
    exact ⟨stays, same.trans sum⟩

end Law

end TradingKernel
