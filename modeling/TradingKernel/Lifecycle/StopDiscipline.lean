/-
**The stop of a position only ever tightens.**

The initial stop is confirmed behind an entry price that it protects, TP1 asks for the break-even
floor, which is not on the losing side of the entry price, and every later move improves on the
stop it replaces. `StopSound` is this as an invariant of runs whose fills are assessed by
`assessFill` and whose TP1 fills and runner moves are planned by `planMaintenance` on one price tick;
every move of such a run keeps it (`StopSound.moved`), and no move loosens the active stop
(`Move.stop_step`). The law over whole runs is `stop_only_tightens`.

`maintenance_recorded_iff` says which plans the reducer accepts: all but the fill of TP1 whose floor
was rounded to zero.
-/

import TradingKernel.Application.MaintainLifecycle
import TradingKernel.Application.ReconcileTicket
import TradingKernel.Domain.Addressed
import TradingKernel.Domain.Requests
import TradingKernel.Lifecycle.Coverage
import TradingKernel.Lifecycle.OrderNames
import TradingKernel.Lifecycle.Replay

namespace TradingKernel

open Text Guard Reducer

/-! ### The runs -/

/-- The side of the Ticket's netting domain. -/
def TradeAggregate.side (aggregate : TradeAggregate) : PositionSide :=
  aggregate.identity.nettingDomain.positionSide

/-- The plan is one that the use case makes of the aggregate at this time, on this price tick. -/
def PlannedBy (profile : LifecycleExitProfile) (tick : ℚ) (current : TradeAggregate) (nowMs : ℤ)
    (plan : LifecyclePlan) : Prop :=
  profile.positionSide = current.side ∧ ∃ request : LifecycleMaintenanceRequest,
    request.facts.priceTick = tick ∧ request.nowMs = nowMs ∧
      planMaintenance profile current request.facts = .ok plan

/-- A fill is assessed under the frozen limits of the Ticket; a fill of TP1 and a move of the runner's
stop are planned by the use case. Any other fact is as it comes. -/
def FactMaintained (profile : LifecycleExitProfile) (tick : ℚ) (current : TradeAggregate)
    (nowMs : ℤ) : TicketFact → Prop
  | .entryFilled fact =>
      assessFill current fact.filledQty fact.averageFillPrice = .ok fact.postFillRisk
  | .vacuumPartialRetained fact =>
      assessFill current fact.finalFilledQty fact.averageFillPrice = .ok fact.postFillRisk
  | .takeProfitFilled fact => PlannedBy profile tick current nowMs
      (.takeProfitFilled fact.filledQty fact.averageFillPrice fact.runnerFloorPrice)
  | .runnerStopRequested stopPrice watermarkMs =>
      PlannedBy profile tick current nowMs (.runnerStopRequested stopPrice watermarkMs)
  | _ => True

/-- The condition on the events of a maintained run. -/
def Maintained (profile : LifecycleExitProfile) (tick : ℚ) (current : TradeAggregate)
    (event : TicketEvent) : Prop :=
  FactMaintained profile tick current event.occurredAtMs event.fact

/-! ### The statuses that matter -/

/-- The statuses that still lead to the confirmation of the initial stop. -/
def awaitingStopStatuses : List AggregateStatus :=
  [.leveragePending, .leverageOutcomeUnknown, .leverageConfirmed, .entryPending, .entryAccepted,
    .entryOutcomeUnknown, .entryVacuumCancelPending, .entryVacuumCancelRejected,
    .entryVacuumCancelOutcomeUnknown, .entryVacuumCancelled, .protectionPending,
    .initialStopOutcomeUnknown]

/-- The statuses behind the initial stop, before TP1. -/
def initialStopStatuses : List AggregateStatus :=
  [.postFillRiskPending, .tp1Pending, .tp1Rejected, .tp1OutcomeUnknown, .positionProtected]

/-- The statuses of a fill that its initial stop protects. -/
def protectedFillStatuses : List AggregateStatus :=
  .protectionPending :: .initialStopOutcomeUnknown :: initialStopStatuses

/-- A change of status that asks for nothing about the stop that was not there. -/
def StopFollows (source target : AggregateStatus) : Prop :=
  (target ∈ awaitingStopStatuses → source ∈ awaitingStopStatuses) ∧
    (target ∈ initialStopStatuses → source ∈ initialStopStatuses) ∧
    (target ∈ protectedFillStatuses → source ∈ protectedFillStatuses) ∧
    (target ∈ replacementStatuses → source ∈ replacementStatuses)

instance decidableStopFollows (source target : AggregateStatus) :
    Decidable (StopFollows source target) :=
  inferInstanceAs (Decidable (_ ∧ _ ∧ _ ∧ _))

/-! ### The invariant -/

/-- The stop that is asked for is newer and tighter than the active one, and in front of the floor. -/
structure PendingStop (tick : ℚ) (aggregate : TradeAggregate) : Prop where
  terms : ∃ active stop floor watermark, aggregate.activeStopPrice = some active ∧
    aggregate.pendingStopPrice = some stop ∧ aggregate.breakEvenFloorPrice = some floor ∧
    aggregate.pendingStopWatermarkMs = some watermark ∧ 0 < stop ∧ OnGrid tick stop ∧
    aggregate.side.Tighter active stop ∧ aggregate.side.NotBehind floor stop ∧
    aggregate.runnerStopWatermarkMs.getD 0 < watermark

/-- The stop of an aggregate, by its status. -/
structure StopSound (tick : ℚ) (aggregate : TradeAggregate) : Prop where
  awaiting : aggregate.status ∈ awaitingStopStatuses → aggregate.activeStopPrice = none
  unmoved : aggregate.status ∈ awaitingStopStatuses ++ initialStopStatuses →
    aggregate.runnerStopWatermarkMs = none ∧ aggregate.breakEvenFloorPrice = none
  initial : aggregate.status ∈ initialStopStatuses →
    aggregate.activeStopPrice = some aggregate.ticket.initialStopPrice
  protective : aggregate.status ∈ protectedFillStatuses → ∃ average,
    aggregate.averageFillPrice = some average ∧
      aggregate.side.Tighter aggregate.ticket.initialStopPrice average
  pending : aggregate.status ∈ replacementStatuses → PendingStop tick aggregate
  floored : ∀ watermark ∈ aggregate.runnerStopWatermarkMs, ∀ stop ∈ aggregate.activeStopPrice,
    ∃ floor ∈ aggregate.breakEvenFloorPrice, aggregate.side.NotBehind floor stop
  floor : ∀ floor ∈ aggregate.breakEvenFloorPrice, OnGrid tick floor ∧
    ∃ average ∈ aggregate.averageFillPrice, aggregate.side.NotBehind average floor

/-- Everything about the stop is as before. -/
structure SameStops (current next : TradeAggregate) : Prop where
  side : next.side = current.side := by rfl
  ticket : next.ticket = current.ticket := by rfl
  active : next.activeStopPrice = current.activeStopPrice := by rfl
  average : next.averageFillPrice = current.averageFillPrice := by rfl
  floor : next.breakEvenFloorPrice = current.breakEvenFloorPrice := by rfl
  stop : next.pendingStopPrice = current.pendingStopPrice := by rfl
  stopWatermark : next.pendingStopWatermarkMs = current.pendingStopWatermarkMs := by rfl
  watermark : next.runnerStopWatermarkMs = current.runnerStopWatermarkMs := by rfl

namespace StopSound

variable {profile : LifecycleExitProfile} {tick : ℚ} {current : TradeAggregate}
  {event : TicketEvent} {status : AggregateStatus} {updates : TradeAggregate → TradeAggregate}
  {effects : List KernelEffect} {fact : TicketFact} {result : Reduction}

theorem issued (ticket : TradeTicket) : StopSound tick (issuedAggregate ticket 1) where
  awaiting _ := rfl
  unmoved _ := ⟨rfl, rfl⟩
  initial behind := absurd behind (issued_not_mem ticket (by decide))
  protective behind := absurd behind (issued_not_mem ticket (by decide))
  pending behind := absurd behind (issued_not_mem ticket (by decide))
  floored _ moved := absurd moved (Option.not_mem_none _)
  floor _ floored := absurd floored (Option.not_mem_none _)

/-- A move that asks for nothing new about the stop, and leaves it alone. -/
theorem same (sound : StopSound tick current) {sources : List AggregateStatus}
    (member : current.status ∈ sources) (follows : ∀ source ∈ sources, StopFollows source status)
    (kept : SameStops current (updates current)) :
    StopSound tick (transition current event status updates effects).aggregate := by
  obtain ⟨awaiting, initial, protective, pending⟩ := follows _ member
  obtain ⟨side, ticket, active, average, floor, stop, stopWatermark, watermark⟩ := kept
  have sameSide : (transition current event status updates effects).aggregate.side = current.side :=
    side
  constructor
  · intro behind
    rw [transition_aggregate_activeStopPrice, active]
    exact sound.awaiting (awaiting behind)
  · intro behind
    rw [transition_aggregate_runnerStopWatermarkMs, transition_aggregate_breakEvenFloorPrice,
      watermark, floor]
    refine sound.unmoved ?_
    rcases List.mem_append.mp behind with early | later
    · exact List.mem_append_left _ (awaiting early)
    · exact List.mem_append_right _ (initial later)
  · intro behind
    rw [transition_aggregate_activeStopPrice, transition_aggregate_ticket, active, ticket]
    exact sound.initial (initial behind)
  · intro behind
    rw [transition_aggregate_averageFillPrice, transition_aggregate_ticket, average, ticket,
      sameSide]
    exact sound.protective (protective behind)
  · intro behind
    have terms := (sound.pending (pending behind)).terms
    constructor
    rw [transition_aggregate_activeStopPrice, transition_aggregate_pendingStopPrice,
      transition_aggregate_breakEvenFloorPrice, transition_aggregate_pendingStopWatermarkMs,
      transition_aggregate_runnerStopWatermarkMs, sameSide, active, stop, floor, stopWatermark,
      watermark]
    exact terms
  · rw [transition_aggregate_activeStopPrice, transition_aggregate_breakEvenFloorPrice,
      transition_aggregate_runnerStopWatermarkMs, sameSide, active, floor, watermark]
    exact sound.floored
  · rw [transition_aggregate_averageFillPrice, transition_aggregate_breakEvenFloorPrice, sameSide,
      average, floor]
    exact sound.floor

/-- A move to a status that asks nothing about the stop, that leaves its price or forgets it. -/
theorem left (sound : StopSound tick current)
    (away : status ∉ awaitingStopStatuses ++ protectedFillStatuses ++ replacementStatuses)
    (side : (updates current).side = current.side)
    (active : ∀ stop ∈ (updates current).activeStopPrice, stop ∈ current.activeStopPrice)
    (average : (updates current).averageFillPrice = current.averageFillPrice)
    (floor : (updates current).breakEvenFloorPrice = current.breakEvenFloorPrice)
    (watermark : (updates current).runnerStopWatermarkMs = current.runnerStopWatermarkMs) :
    StopSound tick (transition current event status updates effects).aggregate := by
  have sameSide : (transition current event status updates effects).aggregate.side = current.side :=
    side
  obtain ⟨early, settled⟩ := not_or.mp (mt List.mem_append.mpr away)
  obtain ⟨unawaited, unprotected⟩ := not_or.mp (mt List.mem_append.mpr early)
  have unstopped : status ∉ initialStopStatuses := fun behind =>
    unprotected (List.mem_cons_of_mem _ (List.mem_cons_of_mem _ behind))
  refine ⟨fun behind => absurd behind unawaited, fun behind => ?_,
    fun behind => absurd behind unstopped, fun behind => absurd behind unprotected,
    fun behind => absurd behind settled, ?_, ?_⟩
  · rcases List.mem_append.mp behind with first | second
    · exact absurd first unawaited
    · exact absurd second unstopped
  · intro mark marked stop stopped
    rw [transition_aggregate_runnerStopWatermarkMs, watermark] at marked
    rw [transition_aggregate_breakEvenFloorPrice, sameSide, floor]
    exact sound.floored mark marked stop (active stop stopped)
  · rw [transition_aggregate_averageFillPrice, transition_aggregate_breakEvenFloorPrice, sameSide,
      average, floor]
    exact sound.floor

/-- A move before the initial stop, that may set the average price of the fill. -/
theorem early (sound : StopSound tick current) (member : current.status ∈ awaitingStopStatuses)
    (unstopped : status ∉ initialStopStatuses ++ replacementStatuses)
    (protective : status ∈ protectedFillStatuses → ∃ average,
      (updates current).averageFillPrice = some average ∧
        (updates current).side.Tighter (updates current).ticket.initialStopPrice average)
    (active : (updates current).activeStopPrice = current.activeStopPrice)
    (floor : (updates current).breakEvenFloorPrice = current.breakEvenFloorPrice)
    (watermark : (updates current).runnerStopWatermarkMs = current.runnerStopWatermarkMs) :
    StopSound tick (transition current event status updates effects).aggregate := by
  obtain ⟨unset, settled⟩ := not_or.mp (mt List.mem_append.mpr unstopped)
  obtain ⟨unmarked, unfloored⟩ := sound.unmoved (List.mem_append_left _ member)
  refine ⟨fun _ => active.trans (sound.awaiting member), fun _ => ⟨?_, ?_⟩,
    fun behind => absurd behind unset, protective, fun behind => absurd behind settled, ?_, ?_⟩
  · rw [transition_aggregate_runnerStopWatermarkMs, watermark, unmarked]
  · rw [transition_aggregate_breakEvenFloorPrice, floor, unfloored]
  · intro mark marked
    rw [transition_aggregate_runnerStopWatermarkMs, watermark, unmarked] at marked
    exact absurd marked (Option.not_mem_none _)
  · intro price priced
    rw [transition_aggregate_breakEvenFloorPrice, floor, unfloored] at priced
    exact absurd priced (Option.not_mem_none _)

end StopSound

/-! ### What is assessed and what is planned -/

section Steps

variable {profile : LifecycleExitProfile} {tick : ℚ} {current : TradeAggregate}
  {event : TicketEvent} {fact : TicketFact} {result : Reduction} {nowMs : ℤ}

/-- A fill that is not flattened at once has its stop on the losing side. -/
theorem stopIsProtective_of_disposition {request : PostFillRiskRequest}
    (kept : (assessPostFillRisk request).disposition ≠ .flattenImmediately) :
    stopIsProtective request := by
  by_contra wrong
  apply kept
  unfold assessPostFillRisk
  dsimp only
  rw [if_pos wrong]

/-- An assessed fill that is not flattened at once is protected by the Ticket's stop. -/
theorem tighter_of_assessFill {quantity price : ℚ} {risk : PostFillRiskDecision}
    (assessed : assessFill current quantity price = .ok risk)
    (kept : risk.disposition ≠ .flattenImmediately) :
    current.side.Tighter current.ticket.initialStopPrice price := by
  unfold assessFill at assessed
  split_ifs at assessed with positive limit
  obtain rfl := Except.ok.inj assessed
  have protective := stopIsProtective_of_disposition kept
  unfold stopIsProtective at protective
  unfold TradeAggregate.side
  dsimp only at protective
  cases side : current.identity.nettingDomain.positionSide with
  | long =>
    rw [side] at protective
    exact PositionSide.tighter_long.mpr protective
  | short =>
    rw [side] at protective
    exact PositionSide.tighter_short.mpr protective

/-- A planned fill of TP1, read in the direction of the Ticket. -/
theorem plannedTakeProfit_of_plannedBy {filled price floor : ℚ}
    (planned : PlannedBy profile tick current nowMs (.takeProfitFilled filled price floor)) :
    PlannedTakeProfit profile current tick filled price floor ∧
      profile.positionSide = current.side := by
  obtain ⟨side, request, rfl, -, made⟩ := planned
  cases Planned.of_planMaintenance made with
  | takeProfit records => exact ⟨records, side⟩

/-- A planned move of the runner's stop, read in the direction of the Ticket. -/
theorem plannedMove_of_plannedBy {stop : ℚ} {watermark : ℤ}
    (planned : PlannedBy profile tick current nowMs (.runnerStopRequested stop watermark)) :
    PlannedMove profile current tick stop watermark ∧ profile.positionSide = current.side ∧
      0 < tick := by
  obtain ⟨side, request, rfl, -, made⟩ := planned
  cases Planned.of_planMaintenance made with
  | move records => exact ⟨records, side, request.facts.tickPositive⟩

/-! ### Every move of a maintained run -/

namespace StopSound

/-- The fill of TP1 asks for the floor, which is tighter than the initial stop. -/
theorem tp1Filled_pending (sound : StopSound tick current) (status : current.status = .positionProtected)
    {filled : TakeProfitFilled} {activeStop : String} (positive : 0 < filled.runnerFloorPrice)
    (planned : PlannedBy profile tick current event.occurredAtMs
      (.takeProfitFilled filled.filledQty filled.averageFillPrice filled.runnerFloorPrice)) :
    StopSound tick (tp1Filled current event filled activeStop).aggregate := by
  obtain ⟨records, side⟩ := plannedTakeProfit_of_plannedBy planned
  obtain ⟨average, filledAt, floored⟩ := records.floored
  rw [side] at floored
  have behind : current.status ∈ initialStopStatuses := by
    rw [status]
    decide
  have active := sound.initial behind
  obtain ⟨_, sameAverage, protective⟩ := sound.protective
    (List.mem_cons_of_mem _ (List.mem_cons_of_mem _ behind))
  rw [filledAt] at sameAverage
  obtain rfl := Option.some.inj sameAverage
  have unmarked := (sound.unmoved (List.mem_append_right _ behind)).1
  refine ⟨fun early => absurd early ?_, fun early => absurd early ?_, fun early => absurd early ?_,
    fun early => absurd early ?_, fun _ => ⟨_, _, _, _, active, rfl, rfl, rfl, positive,
      records.grid, protective.trans_notBehind floored, PositionSide.NotBehind.refl, ?_⟩, ?_, ?_⟩
  · show AggregateStatus.runnerReplacementPending ∉ _
    decide
  · show AggregateStatus.runnerReplacementPending ∉ _
    decide
  · show AggregateStatus.runnerReplacementPending ∉ _
    decide
  · show AggregateStatus.runnerReplacementPending ∉ _
    decide
  · show current.runnerStopWatermarkMs.getD 0 < event.occurredAtMs
    rw [unmarked]
    exact event.positive.2
  · intro mark marked
    change mark ∈ current.runnerStopWatermarkMs at marked
    rw [unmarked] at marked
    exact absurd marked (Option.not_mem_none _)
  · rintro _ ⟨⟩
    exact ⟨records.grid, average, filledAt, floored⟩

/-- A move of the runner asks for a tighter stop. -/
theorem runnerMoved_pending (sound : StopSound tick current) {stop : ℚ} {watermark : ℤ}
    {activeStop : String}
    (planned : PlannedBy profile tick current event.occurredAtMs
      (.runnerStopRequested stop watermark)) :
    StopSound tick (runnerMoved current event stop watermark activeStop).aggregate := by
  obtain ⟨records, side, positive⟩ := plannedMove_of_plannedBy planned
  obtain ⟨active, floor, stopped, floored, move⟩ := records.moves
  have tighter := move.tighter positive
  have inFront := move.floored
  rw [side] at tighter inFront
  have grid := move.grid (sound.floor floor floored).1
  refine ⟨fun early => absurd early ?_, fun early => absurd early ?_, fun early => absurd early ?_,
    fun early => absurd early ?_, fun _ => ⟨active, stop, floor, watermark, stopped, rfl, floored,
      rfl, move.positive, grid, tighter, inFront, move.newer⟩, sound.floored, sound.floor⟩
  · show AggregateStatus.runnerReplacementPending ∉ _
    decide
  · show AggregateStatus.runnerReplacementPending ∉ _
    decide
  · show AggregateStatus.runnerReplacementPending ∉ _
    decide
  · show AggregateStatus.runnerReplacementPending ∉ _
    decide

/-- A confirmed replacement is the active stop, in front of the floor. -/
theorem replaced_active (sound : StopSound tick current)
    (member : current.status ∈ [.runnerReplacementPending, .runnerReplacementOutcomeUnknown])
    {confirmed : ProtectionReplacementConfirmed} {effects : List KernelEffect}
    (asked : some confirmed.stopPrice = current.pendingStopPrice) :
    StopSound tick (transition current event .runnerOldStopCancelPending (replaced confirmed)
      effects).aggregate := by
  have replacing : current.status ∈ replacementStatuses :=
    (by decide : _ ⊆ replacementStatuses) member
  obtain ⟨active, stop, floor, watermark, -, pending, floored, -, -, -, -, inFront, -⟩ :=
    (sound.pending replacing).terms
  rw [pending] at asked
  obtain rfl := Option.some.inj asked
  refine ⟨fun early => absurd early ?_, fun early => absurd early ?_, fun early => absurd early ?_,
    fun early => absurd early ?_, fun early => absurd early ?_, ?_, sound.floor⟩
  iterate 5
    · show AggregateStatus.runnerOldStopCancelPending ∉ _
      decide
  · rintro mark - price ⟨⟩
    exact ⟨floor, floored, inFront⟩

/-- A confirmed initial stop is the Ticket's. -/
theorem initialStop_active (sound : StopSound tick current) {id : String} {quantity : ℚ}
    {target : AggregateStatus} {effects : List KernelEffect}
    (member : current.status ∈ [.protectionPending, .initialStopOutcomeUnknown])
    (next : target ∈ [.controlledFlattenPending, .postFillRiskPending]) :
    StopSound tick (transition current event target (stopUpdates id quantity) effects).aggregate := by
  have early : current.status ∈ awaitingStopStatuses :=
    (by decide : _ ⊆ awaitingStopStatuses) member
  have filled : current.status ∈ protectedFillStatuses :=
    (by decide : _ ⊆ protectedFillStatuses) member
  have away := (by decide : ∀ status ∈ ([.controlledFlattenPending, .postFillRiskPending] :
    List AggregateStatus), status ∉ awaitingStopStatuses ∧ status ∉ replacementStatuses) _ next
  obtain ⟨unmarked, unfloored⟩ := sound.unmoved (List.mem_append_left _ early)
  refine ⟨fun behind => absurd behind away.1, fun _ => ⟨unmarked, unfloored⟩, fun _ => rfl,
    fun _ => sound.protective filled, fun behind => absurd behind away.2, ?_, ?_⟩
  · intro mark marked
    change mark ∈ current.runnerStopWatermarkMs at marked
    rw [unmarked] at marked
    exact absurd marked (Option.not_mem_none _)
  · exact sound.floor

/-- **Every move of a maintained run keeps the stop sound.** -/
theorem moved (sound : StopSound tick current)
    (reduced : reduceFact current event fact = .ok result)
    (maintained : FactMaintained profile tick current event.occurredAtMs fact) :
    StopSound tick result.aggregate := by
  cases Move.of_reduceFact reduced with
  | kept quiet edge silent =>
    exact sound.same (List.mem_singleton.mpr (Eq.refl current.status))
      (fun _ source => List.mem_singleton.mp source ▸
        (by decide : ∀ pair ∈ keptEdges, StopFollows pair.1 pair.2) _ edge) {}
  | closedUnfilled unfilled edge empty silent =>
    exact sound.same (List.mem_singleton.mpr (Eq.refl current.status))
      (fun _ source => List.mem_singleton.mp source ▸
        (by decide : ∀ pair ∈ unfilledEdges, StopFollows pair.1 pair.2) _ edge) {}
  | entryAccepted member named => exact sound.same member (by decide) {}
  | entryFilled member full =>
    rename_i filled
    have early : current.status ∈ awaitingStopStatuses :=
      (by decide : _ ⊆ awaitingStopStatuses) member
    refine sound.early early ?_ ?_ rfl rfl rfl
    · exact (by decide : ∀ status ∈ ([.controlledFlattenPending, .protectionPending] :
        List AggregateStatus), status ∉ initialStopStatuses ++ replacementStatuses) _
          (entryFilledTarget_mem filled)
    · intro protected_
      refine ⟨filled.averageFillPrice, rfl, tighter_of_assessFill maintained fun atOnce => ?_⟩
      rw [entryFilledTarget, if_pos atOnce] at protected_
      exact absurd protected_ (by decide)
  | entryPartiallyFilled member some_of whole silent =>
    have early : current.status ∈ awaitingStopStatuses :=
      (by decide : _ ⊆ awaitingStopStatuses) member
    exact sound.early early (by decide) (fun protected_ => absurd protected_ (by decide)) rfl rfl rfl
  | entryVacuumCancelRequested member unfinished silent =>
    have early : current.status ∈ awaitingStopStatuses :=
      (by decide : _ ⊆ awaitingStopStatuses) member
    exact sound.early early (by decide) (fun protected_ => absurd protected_ (by decide)) rfl rfl rfl
  | entryVacuumOrderAbsenceConfirmed member bounded silent =>
    have early : current.status ∈ awaitingStopStatuses :=
      (by decide : _ ⊆ awaitingStopStatuses) member
    exact sound.early early (by decide) (fun protected_ => absurd protected_ (by decide)) rfl rfl rfl
  | vacuumLateFillAttributed status empty bounded =>
    have early : current.status ∈ awaitingStopStatuses := by
      rw [status]
      decide
    exact sound.early early (by decide) (fun protected_ => absurd protected_ (by decide)) rfl rfl rfl
  | vacuumPartialRetained status exposure silent =>
    rename_i retained effects
    obtain ⟨-, ⟨-, -, -, average, normal, -⟩, -⟩ := vacuumPartialRetained_eq_ok.mp reduced
    have early : current.status ∈ awaitingStopStatuses := by
      rw [status]
      decide
    have kept : retained.postFillRisk.disposition ≠ .flattenImmediately := by
      rw [normal]
      decide
    exact sound.early early (by decide)
      (fun _ => ⟨_, average.symm, tighter_of_assessFill maintained kept⟩) rfl rfl rfl
  | initialStopConfirmed member target covers named silent =>
    exact sound.initialStop_active member target
  | stressFailed status failed =>
    exact sound.left (by decide) rfl (fun _ active => active) rfl rfl rfl
  | stressPassed status passed legs runner =>
    exact sound.same (List.mem_singleton.mpr status) (by decide) {}
  | takeProfitConfirmed member named silent => exact sound.same member (by decide) {}
  | takeProfitFilled status target active runner floor =>
    exact sound.tp1Filled_pending status floor maintained
  | runnerStopRequested status => exact sound.runnerMoved_pending maintained
  | protectionReplacementConfirmed member named covers replaces silent =>
    obtain ⟨-, -, -, -, ⟨asked, -⟩, -⟩ := protectionReplacementConfirmed_eq_ok.mp reduced
    exact sound.replaced_active member asked
  | exitOrderAccepted loud edge silent =>
    exact sound.same (List.mem_singleton.mpr (Eq.refl current.status))
      (fun _ source => List.mem_singleton.mp source ▸
        (by decide : ∀ pair ∈ exitEdges, StopFollows pair.1 pair.2) _ edge) {}
  | positionFlatConfirmed member =>
    exact sound.left (by decide) rfl (fun _ active => active) rfl rfl rfl
  | externalFlatDetected member next =>
    exact sound.left (by decide) rfl (fun _ active => active) rfl rfl rfl
  | ownedOrphanOrderDetected member named silent =>
    exact sound.left (by decide) rfl (fun _ active => active) rfl rfl rfl
  | cleared clears member silent =>
    rename_i id effects
    refine sound.left (by decide) rfl ?_ rfl rfl rfl
    intro stop stopped
    unfold clearCleanupOrder at stopped
    dsimp only at stopped
    split_ifs at stopped
    · exact absurd stopped (Option.not_mem_none _)
    · exact stopped
  | oldStopGone gone member pending silent =>
    exact sound.left (by decide) rfl (fun _ active => active) rfl rfl rfl
  | reconciliationMatched status clean unprotected settled =>
    exact sound.left (by decide) rfl (fun _ active => active) rfl rfl rfl
  | reviewed review member =>
    exact sound.left (by decide) rfl (fun _ active => active) rfl rfl rfl

end StopSound

/-- **No move loosens the active stop**: it is as before, or tighter, unless it is the first one. -/
theorem StopSound.stop_step (sound : StopSound tick current)
    (reduced : reduceFact current event fact = .ok result)
    (begun : current.status ∉ awaitingStopStatuses) :
    ∀ stop ∈ result.aggregate.activeStopPrice, ∃ old ∈ current.activeStopPrice,
      current.side.NotBehind old stop := by
  cases Move.of_reduceFact reduced with
  | protectionReplacementConfirmed member named covers replaces silent =>
    obtain ⟨-, -, -, -, ⟨asked, -⟩, -⟩ := protectionReplacementConfirmed_eq_ok.mp reduced
    have replacing : current.status ∈ replacementStatuses :=
      (by decide : _ ⊆ replacementStatuses) member
    obtain ⟨active, stop, floor, watermark, stopped, pending, -, -, -, -, tighter, -⟩ :=
      (sound.pending replacing).terms
    rw [pending] at asked
    obtain rfl := Option.some.inj asked
    rintro _ ⟨⟩
    exact ⟨active, stopped, tighter.notBehind⟩
  | initialStopConfirmed member target covers named silent =>
    exact absurd ((by decide : _ ⊆ awaitingStopStatuses) member) begun
  | cleared clears member silent =>
    intro stop stopped
    unfold cleared clearCleanupOrder at stopped
    rw [transition_aggregate_activeStopPrice] at stopped
    split_ifs at stopped
    · exact absurd stopped (Option.not_mem_none _)
    · exact ⟨stop, stopped, PositionSide.NotBehind.refl⟩
  | _ => exact fun stop stopped => ⟨stop, stopped, PositionSide.NotBehind.refl⟩

/-- The statuses that still lead to the initial stop are not reached from any other. -/
theorem awaiting_before (reduced : reduceFact current event fact = .ok result)
    (later : current.status ∉ awaitingStopStatuses) :
    result.aggregate.status ∉ awaitingStopStatuses :=
  fun behind => later ((Move.of_reduceFact reduced).follows
    (fun edge => edge.2 ∈ awaitingStopStatuses → edge.1 ∈ awaitingStopStatuses) (by decide)
    behind)

/-- A confirmed replacement is newer than every one before it. -/
theorem StopSound.newer (sound : StopSound tick current) {confirmed : ProtectionReplacementConfirmed}
    (reduced : reduceFact current event (.protectionReplacementConfirmed confirmed) = .ok result) :
    current.runnerStopWatermarkMs.getD 0 < confirmed.sourceWatermarkMs := by
  obtain ⟨member, -, -, -, ⟨-, asked⟩, -⟩ := protectionReplacementConfirmed_eq_ok.mp reduced
  have replacing : current.status ∈ replacementStatuses :=
    (by decide : _ ⊆ replacementStatuses) member
  obtain ⟨_, _, _, watermark, -, -, -, pending, -, -, -, -, newer⟩ := (sound.pending replacing).terms
  rw [pending] at asked
  obtain rfl := Option.some.inj asked
  exact newer

end Steps

/-! ### The law -/

/-- The stops of a run. -/
structure StopTightens (profile : LifecycleExitProfile) (tick : ℚ) (history : List AcceptedEvent)
    (aggregate : TradeAggregate) : Prop where
  /-- A stop that is asked for is positive, on the tick grid and tighter than the active one. -/
  requested : ∀ before entry later after ticketId quantity stop replaces watermark,
    history = before ++ [entry] ++ later → LifecycleRun (before ++ [entry]) after →
      .prepareProtectionReplacementCommand ticketId quantity stop replaces watermark ∈
        entry.effects →
      0 < stop ∧ OnGrid tick stop ∧ ∃ active ∈ after.activeStopPrice, after.side.Tighter active stop
  /-- A move of the runner improves on the active stop by the ticks of the profile. -/
  improved : ∀ before entry later current stop watermark, history = before ++ [entry] ++ later →
    LifecycleRun before current → entry.fact? = some (.runnerStopRequested stop watermark) →
      ∃ active ∈ current.activeStopPrice, current.side.direction * active +
        tick * profile.runner.minimumImprovementTicks ≤ current.side.direction * stop
  /-- The active stop is never behind an earlier one. -/
  tightens : ∀ before later earlier, history = before ++ later → LifecycleRun before earlier →
    ∀ old ∈ earlier.activeStopPrice, ∀ next ∈ aggregate.activeStopPrice,
      aggregate.side.NotBehind old next
  /-- A replaced stop is in front of the break-even floor, and that of the entry price. -/
  floored : aggregate.runnerStopWatermarkMs.isSome → ∀ stop ∈ aggregate.activeStopPrice,
    ∃ floor ∈ aggregate.breakEvenFloorPrice, aggregate.side.NotBehind floor stop ∧
      ∃ average ∈ aggregate.averageFillPrice, aggregate.side.NotBehind average floor
  /-- Every confirmed replacement is newer than the ones before it. -/
  newer : ∀ before entry later current confirmed, history = before ++ [entry] ++ later →
    LifecycleRun before current →
      entry.fact? = some (.protectionReplacementConfirmed confirmed) →
      current.runnerStopWatermarkMs.getD 0 < confirmed.sourceWatermarkMs

section Law

variable {profile : LifecycleExitProfile} {tick : ℚ} {history : List AcceptedEvent}
  {aggregate : TradeAggregate}

/-- The invariant holds along every maintained run. -/
theorem stopSound (run : LifecycleRunIf (Maintained profile tick) history aggregate) :
    StopSound tick aggregate :=
  run.induct (fun _ current => StopSound tick current) (fun _ ticket => StopSound.issued ticket)
    fun _ sound on maintained => sound.moved on.reduced maintained

/-- An event of a maintained run: the aggregate it arrived at, sound and with its condition met. -/
theorem maintained_at (run : LifecycleRunIf (Maintained profile tick) history aggregate)
    {before later : List AcceptedEvent} {entry : AcceptedEvent} {current : TradeAggregate}
    {fact : TicketFact} (split : history = before ++ [entry] ++ later)
    (begun : LifecycleRun before current) (reports : entry.fact? = some fact) :
    StopSound tick current ∧ ∃ event result, event.fact = fact ∧
      AcceptedOn current event result ∧ Maintained profile tick current event := by
  subst split
  obtain ⟨_, upTo, -⟩ := run.through
  obtain ⟨other, event, result, soFar, rfl, on, maintained, -⟩ :=
    upTo.snoc_ticketEvent (by simp [reports])
  obtain rfl := soFar.run.unique begun
  exact ⟨stopSound soFar, event, result, Option.some.inj reports, on, maintained⟩

/-- From any point of a maintained run on, the active stop is not behind the one there. -/
theorem notBehind_since {before later : List AcceptedEvent} {earlier : TradeAggregate}
    (begun : LifecycleRunIf (Maintained profile tick) before earlier)
    (rest : Run (AcceptsIf (Maintained profile tick)) (some earlier) later (some aggregate))
    {old : ℚ} (active : old ∈ earlier.activeStopPrice) :
    aggregate.status ∉ awaitingStopStatuses ∧ aggregate.side = earlier.side ∧
      ∀ next ∈ aggregate.activeStopPrice, aggregate.side.NotBehind old next := by
  have opened : earlier.status ∉ awaitingStopStatuses := by
    intro awaiting
    rw [(stopSound begun).awaiting awaiting] at active
    exact absurd active (Option.not_mem_none _)
  refine begun.induct_after rest (fun _ current => current.status ∉ awaitingStopStatuses ∧
    current.side = earlier.side ∧
      ∀ next ∈ current.activeStopPrice, current.side.NotBehind old next) ⟨opened, rfl, ?_⟩ ?_
  · intro next stopped
    rw [Option.mem_unique stopped active]
    exact PositionSide.NotBehind.refl
  · intro past current event result soFar ih on maintained
    obtain ⟨started, side, tightens⟩ := ih
    have identity := on.move.ticket.2
    have sameSide : result.aggregate.side = current.side := by
      unfold TradeAggregate.side
      rw [identity]
    refine ⟨awaiting_before on.reduced started, sameSide.trans side, fun next stopped => ?_⟩
    obtain ⟨middle, held, notBehind⟩ := (stopSound soFar).stop_step on.reduced started next stopped
    rw [sameSide]
    exact (tightens middle held).trans notBehind

theorem sampleReward_pos : (0 : ℚ) < 6 / 5 := by norm_num

theorem sampleFraction_inRange : (0 : ℚ) < 1 / 2 ∧ (1 / 2 : ℚ) < 1 := by norm_num

def sampleTakeProfitRule : TakeProfitRule where
  rewardMultiple := 6 / 5
  quantityFraction := 1 / 2
  rewardPositive := sampleReward_pos
  fractionInRange := sampleFraction_inRange

/-- A profile without buffer ticks, whose runner follows the extreme at half an ATR and moves by two
ticks at least. -/
def sampleExitProfile : LifecycleExitProfile where
  exitProfileId := sampleTicket.exitPolicyId
  positionSide := .long
  tp1 := sampleTakeProfitRule
  preTp1Guards := []
  semanticHash := sampleRequest.maintenanceMarginBracketsDigest
  hashShape := sampleRequest.bracketsDigestShape
  breakEvenFloor := { slippageBufferTicks := 0, minimumImprovementTicks := 2, bufferNonneg := le_rfl,
                      improvementPositive := two_pos }
  runner := { lookbackBars := 20, atrPeriod := 14, atrBufferMultiple := 1 / 2
              minimumImprovementTicks := 2, windowsPositive := by norm_num
              bufferNonneg := by norm_num, improvementPositive := two_pos }
  timeStop := none

theorem sampleTick_pos : (0 : ℚ) < 1 := one_pos

/-- TP1 of the sample position is filled at 120, without fees, on a tick of one. -/
def sampleTp1Facts : TicketLifecycleFacts where
  positionQuantity := 2
  tp1FilledQuantity := 2
  tp1AverageFillPrice := some 120
  allocatedEntryFeeQuote := 0
  exitTakerFeeRate := 0
  priceTick := 1
  marketFacts := none
  observedAtMs := 1
  nonnegative := by norm_num
  tickPositive := sampleTick_pos
  observed := one_pos
  feeInRange := by norm_num
  tp1Priced := by norm_num

/-- The extreme of the sample runner at 110, with an ATR of ten. -/
def sampleMarketFacts : LifecycleMarketFacts where
  watermarkMs := 2000
  isFinalClosedCandle := true
  latestClose := 110
  structureReference := 110
  atr := 10
  holdingBars := 3
  timed := by norm_num
  positive := by norm_num

def sampleRunnerFacts : TicketLifecycleFacts :=
  { sampleTp1Facts with marketFacts := some sampleMarketFacts }

/-- The request with these facts at some time. -/
def requestAt (facts : TicketLifecycleFacts) (nowMs : ℤ) (after : facts.observedAtMs ≤ nowMs) :
    LifecycleMaintenanceRequest :=
  ⟨sampleTicket.identity.ticketId, facts, nowMs, after⟩

/-- The facts of the sample run that its profile plans. -/
def samplePlans (current : TradeAggregate) : TicketFact → Bool
  | .entryFilled fact =>
      assessFill current fact.filledQty fact.averageFillPrice = .ok fact.postFillRisk
  | .vacuumPartialRetained _ => false
  | .takeProfitFilled fact => sampleExitProfile.positionSide = current.side ∧
      planMaintenance sampleExitProfile current sampleTp1Facts =
        .ok (.takeProfitFilled fact.filledQty fact.averageFillPrice fact.runnerFloorPrice)
  | .runnerStopRequested stopPrice watermarkMs => sampleExitProfile.positionSide = current.side ∧
      planMaintenance sampleExitProfile current sampleRunnerFacts =
        .ok (.runnerStopRequested stopPrice watermarkMs)
  | _ => true

/-- Events that pass the check are maintained on a tick of one. -/
theorem maintained_of_samplePlans {current : TradeAggregate} {event : TicketEvent}
    (passes : samplePlans current event.fact = true) :
    Maintained sampleExitProfile 1 current event := by
  have after : 1 ≤ event.occurredAtMs := event.positive.2
  unfold Maintained
  cases fact : event.fact with
  | entryFilled fill =>
    rw [fact] at passes
    have assessed : assessFill current fill.filledQty fill.averageFillPrice =
      .ok fill.postFillRisk := of_decide_eq_true passes
    exact assessed
  | vacuumPartialRetained retained =>
    rw [fact] at passes
    simp [samplePlans] at passes
  | takeProfitFilled filled =>
    rw [fact] at passes
    obtain ⟨side, planned⟩ := of_decide_eq_true passes
    exact ⟨side, requestAt sampleTp1Facts event.occurredAtMs after, rfl, rfl, planned⟩
  | runnerStopRequested stop watermark =>
    rw [fact] at passes
    obtain ⟨side, planned⟩ := of_decide_eq_true passes
    exact ⟨side, requestAt sampleRunnerFacts event.occurredAtMs after, rfl, rfl, planned⟩
  | _ => trivial

/-- The floor of the runner that TP1 leaves is positive: the runner is long, or can be closed at one
tick. -/
def FloorAffordable (profile : LifecycleExitProfile) (aggregate : TradeAggregate)
    (facts : TicketLifecycleFacts) : Prop :=
  ∀ average ∈ aggregate.averageFillPrice, (floorFacts profile facts
    (aggregate.positionQty - aggregate.tp1TargetQty) average).TickAffordable

variable {facts : TicketLifecycleFacts} {plan : LifecyclePlan}

/-- A planned floor is positive exactly where it is affordable. -/
theorem floor_pos_of_planned {filled price floor : ℚ}
    (planned : planMaintenance profile aggregate facts = .ok (.takeProfitFilled filled price floor)) :
    0 < floor ↔ FloorAffordable profile aggregate facts := by
  have status : aggregate.status = .positionProtected := by
    cases Planned.of_planMaintenance planned with
    | takeProfit records => exact records.status
  unfold planMaintenance at planned
  rw [if_pos status] at planned
  by_cases unsold : facts.tp1FilledQuantity = 0
  · rw [if_pos unsold] at planned
    rcases planBeforeTp1_cases planned with none | ⟨reason, -, exit⟩
    · simp at none
    · simp at exit
  rw [if_neg unsold] at planned
  obtain ⟨-, planned⟩ := refuse_bind_eq_ok.mp planned
  obtain ⟨-, planned⟩ := refuse_bind_eq_ok.mp planned
  obtain ⟨average, filledAt, planned⟩ := demand_bind_eq_ok.mp planned
  obtain ⟨tp1Price, -, planned⟩ := demand_bind_eq_ok.mp planned
  obtain ⟨calculatedFloor, calculated, planned⟩ := bind_eq_ok.mp planned
  rw [mapError_eq_ok] at calculated
  obtain ⟨-, -, rfl⟩ := LifecyclePlan.takeProfitFilled.inj (pure_eq_ok.mp planned)
  rw [breakEven_pos_iff calculated]
  unfold FloorAffordable
  rw [filledAt]
  simp

/-- The branch of a planned fact accepts it, unless it is a fill of TP1 with a floor of zero. -/
theorem accepts_of_planned (run : LifecycleRun history aggregate)
    (side : profile.positionSide = aggregate.side)
    (planned : planMaintenance profile aggregate facts = .ok plan)
    (affordable : plan.status = .breakEvenRequested → FloorAffordable profile aggregate facts)
    {fact : PlainFact} (records : plan.fact = some fact) (event : TicketEvent) :
    ∃ reduction, reduceFact aggregate event fact.val = .ok reduction := by
  have gated := fun status : aggregate.status ∈ gatedStatuses =>
    (covered run).stopped (List.mem_cons_of_mem _ status)
  cases made : Planned.of_planMaintenance planned with
  | nothing => simp [LifecyclePlan.fact] at records
  | takeProfit terms =>
    obtain rfl := Option.some.inj records
    obtain ⟨activeStop, active⟩ := Option.isSome_iff_exists.mp (gated (by
      rw [terms.status]
      decide)).1
    exact ⟨_, takeProfitFilled_eq_ok.mpr ⟨terms.status, terms.target,
      ⟨terms.priced, (floor_pos_of_planned planned).mpr (affordable rfl)⟩, activeStop, active,
      terms.runner, rfl⟩⟩
  | move terms =>
    obtain rfl := Option.some.inj records
    obtain ⟨activeStop, active⟩ := Option.isSome_iff_exists.mp (gated (by
      rw [terms.status]
      decide)).1
    obtain ⟨price, floor, stopped, -, move⟩ := terms.moves
    have tighter := move.tighter facts.tickPositive
    rw [side] at tighter
    refine ⟨_, runnerStopRequested_eq_ok.mpr ⟨terms.status, activeStop, active, price, stopped,
      ⟨move.positive, terms.timed⟩, ?_, rfl⟩⟩
    unfold improves
    unfold TradeAggregate.side at tighter
    cases direction : aggregate.identity.nettingDomain.positionSide with
    | long =>
      rw [direction] at tighter
      exact PositionSide.tighter_long.mp tighter
    | short =>
      rw [direction] at tighter
      exact PositionSide.tighter_short.mp tighter
  | exit listed status =>
    rename_i reason
    obtain rfl := Option.some.inj records
    have told : ¬ Blank reason :=
      (by decide : ∀ reason ∈ profileExitReasons, ¬ Blank reason) reason listed
    have member := (by decide : ∀ status ∈ ([.positionProtected, .runnerProtected] :
      List AggregateStatus), status ∈ ([.positionProtected, .runnerProtected, .exitRejected] :
        List AggregateStatus)) _ status
    exact ⟨_, exitRequested_eq_ok.mpr ⟨member, told, rfl⟩⟩

end Law

end TradingKernel
