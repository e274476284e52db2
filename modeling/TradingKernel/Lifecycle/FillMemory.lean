/-
**What becomes of a recorded fill, and the readings that overwrite it.**

An event that carries a filled quantity of the ENTRY sets the position to it. As long as no later
vacuum reading is smaller than the position it arrives at, that quantity stays in the position until
TP1 sells its share or the position is found flat, and nothing is released meanwhile
(`fill_remembered`). The reducer does not compare the readings: a cancel retry and the order's
absence may both carry zero, and `fill_forgotten` is a run that releases the budget of a filled
position this way.
-/

import Mathlib.Tactic.Linarith
import TradingKernel.Lifecycle.CapitalRelease

namespace TradingKernel

open Text Reducer

/-! ### What the facts carry -/

/-- The filled quantity of the ENTRY that a fact carries. -/
def TicketFact.entryFill : TicketFact → Option ℚ
  | .entryFilled fact => some fact.filledQty
  | .entryPartiallyFilled filledQty _ _ => some filledQty
  | .entryVacuumCancelRequested fact => some fact.observedQty
  | .entryVacuumOrderAbsenceConfirmed fact => some fact.finalFilledQty
  | .vacuumLateFillAttributed fact => some fact.filledQty
  | _ => none

/-- The quantity a fact reports as sold by TP1. -/
def TicketFact.takeProfitFill : TicketFact → ℚ
  | .takeProfitFilled fact => fact.filledQty
  | _ => 0

/-- The quantity sold by TP1 along a history. -/
def soldByTakeProfit (history : List AcceptedEvent) : ℚ :=
  (history.map fun entry => (entry.fact?.map TicketFact.takeProfitFill).getD 0).sum

/-- No event of the history finds the position flat. -/
def NeverFlat (history : List AcceptedEvent) : Prop :=
  ∀ entry ∈ history, (entry.fact?.map TicketFact.findsFlat).getD false = false

instance (history : List AcceptedEvent) : Decidable (NeverFlat history) :=
  List.decidableBAll _ _

/-- Every positive fill of the ENTRY stays in the position, less what TP1 sold of it, and no capital
is released, until the position is found flat. -/
def RemembersFills (history : List AcceptedEvent) (aggregate : TradeAggregate) : Prop :=
  ∀ before entry later fact filled, history = before ++ [entry] ++ later →
    entry.fact? = some fact → fact.entryFill = some filled → 0 < filled → NeverFlat later →
    filled ≤ aggregate.positionQty + soldByTakeProfit later ∧
      ∀ next ∈ entry :: later, releaseCount next.effects = 0

/-- A vacuum reading of the ENTRY is at least the position it arrives at. -/
def KeepsReading (current : TradeAggregate) (event : TicketEvent) : Prop :=
  match event.fact with
  | .entryVacuumCancelRequested fact => current.positionQty ≤ fact.observedQty
  | .entryVacuumOrderAbsenceConfirmed fact => current.positionQty ≤ fact.finalFilledQty
  | _ => True

def keepsReading (current : TradeAggregate) (event : TicketEvent) : Bool :=
  match event.fact with
  | .entryVacuumCancelRequested fact => current.positionQty ≤ fact.observedQty
  | .entryVacuumOrderAbsenceConfirmed fact => current.positionQty ≤ fact.finalFilledQty
  | _ => true

theorem keepsReading_iff (current : TradeAggregate) (event : TicketEvent) :
    keepsReading current event = true ↔ KeepsReading current event := by
  unfold keepsReading KeepsReading
  split <;> simp

instance (current : TradeAggregate) (event : TicketEvent) :
    Decidable (KeepsReading current event) :=
  decidable_of_iff _ (keepsReading_iff current event)

@[simp] theorem soldByTakeProfit_snoc (past : List AcceptedEvent) (event : TicketEvent)
    (result : Reduction) : soldByTakeProfit (past ++ [accepted event result]) =
      soldByTakeProfit past + event.fact.takeProfitFill := by
  simp [soldByTakeProfit]

theorem quiet_takeProfitFill {fact : TicketFact} (quiet : fact.quiet = true) :
    fact.takeProfitFill = 0 := by
  cases fact with
  | takeProfitFilled fact => simp [TicketFact.quiet] at quiet
  | _ => rfl

/-- The facts that several branches share carry no fill. -/
theorem entryFill_eq_none {fact : TicketFact} (other : fact.quiet = true ∨ fact.endsUnfilled = true ∨
    fact.isReview = true) : fact.entryFill = none := by
  cases fact <;>
    simp [TicketFact.quiet, TicketFact.endsUnfilled, TicketFact.isReview, TicketFact.entryFill]
      at other ⊢

/-! ### A cancelled ENTRY holds at most the Ticket's quantity -/

/-- The position of a cancelled ENTRY is bounded by the Ticket. -/
def VacuumBounded (aggregate : TradeAggregate) : Prop :=
  aggregate.status = .entryVacuumCancelled → aggregate.positionQty ≤ aggregate.ticket.quantity

theorem VacuumBounded.moved {current : TradeAggregate} {event : TicketEvent} {fact : TicketFact}
    {result : Reduction} (move : Move current event fact result) :
    VacuumBounded result.aggregate := by
  cases move with
  | entryVacuumOrderAbsenceConfirmed member bounded silent => exact fun _ => bounded
  | vacuumLateFillAttributed status empty bounded => exact fun _ => bounded
  | kept quiet edge silent =>
    have target := (by decide : ∀ pair ∈ keptEdges, pair.2 ≠ .entryVacuumCancelled) _ edge
    exact fun status => absurd status target
  | closedUnfilled unfilled edge empty silent =>
    have target := (by decide : ∀ pair ∈ unfilledEdges, pair.2 ≠ .entryVacuumCancelled) _ edge
    exact fun status => absurd status target
  | entryFilled member full =>
    rename_i fact
    have target := (by decide : ∀ status ∈ ([.controlledFlattenPending, .protectionPending] :
      List AggregateStatus), status ≠ .entryVacuumCancelled) _ (entryFilledTarget_mem fact)
    exact fun status => absurd status target
  | initialStopConfirmed member target covers named silent =>
    intro status
    have stopped := (by decide : ∀ status ∈ ([.controlledFlattenPending, .postFillRiskPending] :
      List AggregateStatus), status ≠ .entryVacuumCancelled) _ target
    exact absurd status stopped
  | exitOrderAccepted loud edge silent =>
    have target := (by decide : ∀ pair ∈ exitEdges, pair.2 ≠ .entryVacuumCancelled) _ edge
    exact fun status => absurd status target
  | _ => exact fun status => AggregateStatus.noConfusion status

theorem vacuumBounded {history : List AcceptedEvent} {aggregate : TradeAggregate}
    (run : LifecycleRun history aggregate) : VacuumBounded aggregate := by
  refine run.invariant VacuumBounded (fun ticket status => ?_) fun _ on => .moved on.move
  exact absurd (List.mem_singleton.mpr status) (issued_not_mem ticket (by decide))

/-! ### The fill stays in the position -/

/-- What is left of a fill after the later events: its quantity less what TP1 sold is still in the
position, and nothing was released. -/
structure Remembered (filled : ℚ) (later : List AcceptedEvent) (aggregate : TradeAggregate) :
    Prop where
  held : filled ≤ aggregate.positionQty + soldByTakeProfit later
  exposed : 0 < aggregate.positionQty
  unreleased : ∀ entry ∈ later, releaseCount entry.effects = 0

namespace Remembered

variable {filled : ℚ} {later : List AcceptedEvent} {current : TradeAggregate}
  {event : TicketEvent} {status : AggregateStatus} {updates : TradeAggregate → TradeAggregate}
  {effects : List KernelEffect}

theorem unreleased_snoc (remembered : Remembered filled later current) {result : Reduction}
    (silent : releaseCount result.effects = 0) :
    ∀ entry ∈ later ++ [accepted event result], releaseCount entry.effects = 0 := by
  intro next member
  rcases List.mem_append.mp member with before | last
  · exact remembered.unreleased next before
  · rw [List.mem_singleton.mp last]
    exact silent

/-- A move that releases nothing, sells nothing and leaves the position no smaller. -/
theorem grown (remembered : Remembered filled later current) {fact : TicketFact}
    (reports : event.fact = fact) (unsold : fact.takeProfitFill = 0)
    (grows : current.positionQty ≤ (updates current).positionQty)
    (silent : releaseCount effects = 0) :
    Remembered filled (later ++ [accepted event (transition current event status updates effects)])
      (transition current event status updates effects).aggregate where
  held := by
    have held := remembered.held
    rw [soldByTakeProfit_snoc, reports, unsold, add_zero]
    exact held.trans (add_le_add_left grows _)
  exposed := lt_of_lt_of_le remembered.exposed grows
  unreleased := remembered.unreleased_snoc silent

/-- A position excludes the branches that start without one. -/
theorem positioned (remembered : Remembered filled later current) {past : List AcceptedEvent}
    (capital : CapitalHeld past current) {sources : List AggregateStatus}
    (member : current.status ∈ sources)
    (empty : ∀ status ∈ sources, status ∈ positionlessStatuses) : False := by
  have exposed := remembered.exposed
  rw [capital.flat (empty _ member)] at exposed
  exact lt_irrefl 0 exposed

/-- **Every move but a flat keeps the fill**, when the vacuum readings are no smaller than the
position. -/
theorem moved (remembered : Remembered filled later current) {past : List AcceptedEvent}
    (capital : CapitalHeld past current) (bounded : VacuumBounded current)
    (keeps : KeepsReading current event) (positionOpen : event.fact.findsFlat = false)
    {result : Reduction} (move : Move current event event.fact result) :
    Remembered filled (later ++ [accepted event result]) result.aggregate := by
  have exposed := remembered.exposed
  unfold KeepsReading at keeps
  generalize reports : event.fact = fact at move keeps positionOpen
  cases move with
  | kept quiet edge silent =>
    exact remembered.grown reports (quiet_takeProfitFill quiet) le_rfl silent
  | closedUnfilled unfilled edge empty silent =>
    have source := (by decide : ∀ pair ∈ unfilledEdges, pair.1 = .entryVacuumCancelled ∨
      pair.1 ∈ positionlessStatuses) _ edge
    rcases source with cancelled | positionless
    · rw [empty cancelled] at exposed
      exact absurd exposed (lt_irrefl 0)
    · exact (remembered.positioned capital positionless fun _ => id).elim
  | entryAccepted member named => exact (remembered.positioned capital member (by decide)).elim
  | entryFilled member full =>
    have cancelled : current.status = .entryVacuumCancelled := by
      by_contra other
      have sources : current.status ∈ ([.entryPending, .leverageConfirmed, .entryAccepted] :
        List AggregateStatus) := by simpa [other] using member
      exact remembered.positioned capital sources (by decide)
    exact remembered.grown reports rfl ((bounded cancelled).trans full.ge) (by simp)
  | entryPartiallyFilled member some_of whole silent =>
    exact (remembered.positioned capital member (by decide)).elim
  | entryVacuumCancelRequested member unfinished silent =>
    exact remembered.grown reports rfl keeps silent
  | entryVacuumOrderAbsenceConfirmed member bounded silent =>
    exact remembered.grown reports rfl keeps silent
  | vacuumLateFillAttributed status empty bounded =>
    rw [empty] at exposed
    exact absurd exposed (lt_irrefl 0)
  | vacuumPartialRetained status exposure silent =>
    exact remembered.grown reports rfl le_rfl silent
  | initialStopConfirmed member target covers named silent =>
    exact remembered.grown reports rfl le_rfl silent
  | stressFailed status failed => exact remembered.grown reports rfl le_rfl rfl
  | stressPassed status passed legs runner => exact remembered.grown reports rfl le_rfl rfl
  | takeProfitConfirmed member named silent => exact remembered.grown reports rfl le_rfl silent
  | takeProfitFilled status target active runner floor =>
    rename_i fact activeStop
    refine ⟨?_, sub_pos.mpr runner, remembered.unreleased_snoc rfl⟩
    have sold : (tp1Filled current event fact activeStop).aggregate.positionQty =
      current.positionQty - fact.filledQty := rfl
    have held := remembered.held
    rw [soldByTakeProfit_snoc, reports, sold]
    show filled ≤ current.positionQty - fact.filledQty + (soldByTakeProfit later + fact.filledQty)
    linarith
  | runnerStopRequested status => exact remembered.grown reports rfl le_rfl rfl
  | protectionReplacementConfirmed member named covers replaces silent =>
    exact remembered.grown reports rfl le_rfl silent
  | exitOrderAccepted loud edge silent =>
    rcases loud with rfl | rfl
    · exact remembered.grown reports rfl le_rfl silent
    · exact remembered.grown reports rfl le_rfl silent
  | positionFlatConfirmed member => simp [TicketFact.findsFlat] at positionOpen
  | externalFlatDetected member next => simp [TicketFact.findsFlat] at positionOpen
  | ownedOrphanOrderDetected member named silent =>
    exact (remembered.positioned capital member (by decide)).elim
  | cleared clears member silent => exact (remembered.positioned capital member (by decide)).elim
  | oldStopGone gone member pending silent =>
    rcases gone with rfl | rfl
    · exact remembered.grown reports rfl le_rfl silent
    · exact remembered.grown reports rfl le_rfl silent
  | reconciliationMatched status clean unprotected settled =>
    exact (remembered.positioned capital (List.mem_singleton.mpr status) (by decide)).elim
  | reviewed review member => exact (remembered.positioned capital member (by decide)).elim

/-- An accepted fill of positive quantity is in the position. -/
theorem recorded {fact : TicketFact} {result : Reduction} (move : Move current event fact result)
    (carries : fact.entryFill = some filled) (positive : 0 < filled) :
    Remembered filled [] result.aggregate ∧ releaseCount result.effects = 0 := by
  have inPosition : result.aggregate.positionQty = filled → Remembered filled [] result.aggregate :=
    fun same => ⟨by simp [soldByTakeProfit, same], same ▸ positive, by simp⟩
  cases move with
  | entryFilled member full => exact ⟨inPosition (Option.some.inj carries), by simp⟩
  | entryPartiallyFilled member some_of whole silent =>
    exact ⟨inPosition (Option.some.inj carries), silent⟩
  | entryVacuumCancelRequested member unfinished silent =>
    exact ⟨inPosition (Option.some.inj carries), silent⟩
  | entryVacuumOrderAbsenceConfirmed member bounded silent =>
    exact ⟨inPosition (Option.some.inj carries), silent⟩
  | vacuumLateFillAttributed status empty bounded =>
    exact ⟨inPosition (Option.some.inj carries), rfl⟩
  | kept quiet edge silent =>
    rw [entryFill_eq_none (.inl quiet)] at carries
    simp at carries
  | closedUnfilled unfilled edge empty silent =>
    rw [entryFill_eq_none (.inr (.inl unfilled))] at carries
    simp at carries
  | exitOrderAccepted loud edge silent =>
    rcases loud with rfl | rfl <;> simp [TicketFact.entryFill] at carries
  | cleared clears member silent =>
    rcases clears with rfl | rfl | rfl | rfl <;> simp [TicketFact.entryFill] at carries
  | oldStopGone gone member pending silent =>
    rcases gone with rfl | rfl <;> simp [TicketFact.entryFill] at carries
  | reviewed review member =>
    rw [entryFill_eq_none (.inr (.inr review))] at carries
    simp at carries
  | _ => simp [TicketFact.entryFill] at carries

end Remembered

/-! ### The law and its exception -/

section Law

variable {history : List AcceptedEvent} {aggregate : TradeAggregate}

theorem neverFlat_snoc {past : List AcceptedEvent} {event : TicketEvent} {result : Reduction}
    (never : NeverFlat (past ++ [accepted event result])) :
    NeverFlat past ∧ event.fact.findsFlat = false :=
  ⟨fun entry member => never entry (List.mem_append_left _ member),
    never (accepted event result) (List.mem_append_right _ (List.mem_singleton.mpr rfl))⟩

/-- **Every run whose vacuum readings are no smaller than the position remembers its fills.** -/
theorem fill_remembered (run : LifecycleRunIf KeepsReading history aggregate) :
    RemembersFills history aggregate := by
  rintro before entry later fact filled rfl reports carries positive neverFlat
  obtain ⟨since, begun, rest⟩ := run.through
  obtain ⟨current, event, result, -, rfl, on, -, rfl⟩ :=
    begun.snoc_ticketEvent (by simp [reports])
  have recorded : Remembered filled [] result.aggregate ∧ releaseCount result.effects = 0 := by
    rw [accepted_fact?, Option.some.injEq] at reports
    exact Remembered.recorded on.move (by rw [reports, carries]) positive
  have remembered : NeverFlat later → Remembered filled later aggregate := by
    refine begun.induct_after rest (fun later current => NeverFlat later →
      Remembered filled later current) (fun _ => recorded.1) ?_
    intro past current event result soFar remembered on keeps never
    obtain ⟨before, positionOpen⟩ := neverFlat_snoc never
    exact (remembered before).moved (capitalHeld soFar.run) (vacuumBounded soFar.run) keeps
      positionOpen on.move
  have whole := remembered neverFlat
  refine ⟨whole.held, fun next member => ?_⟩
  rcases List.mem_cons.mp member with rfl | after
  · exact recorded.2
  · exact whole.unreleased next after

/-- A vacuum reading of the sample ENTRY before its cancel. -/
def sampleReading (observedQty : ℚ) (averageFillPrice : Option ℚ)
    (nonneg : 0 ≤ observedQty := by decide)
    (matches_ : observedQty = 0 ↔ averageFillPrice = none := by decide)
    (positive : ∀ price ∈ averageFillPrice, 0 < price := by decide) : EntryVacuumCancelRequested :=
  ⟨"vacuum-1", "entry-1", observedQty, averageFillPrice, by decide, nonneg, matches_, positive⟩

/-- Its final reading, with the order gone. -/
def sampleAbsence (finalFilledQty : ℚ) (averageFillPrice : Option ℚ)
    (nonneg : 0 ≤ finalFilledQty := by decide)
    (matches_ : finalFilledQty = 0 ↔ averageFillPrice = none := by decide)
    (positive : ∀ price ∈ averageFillPrice, 0 < price := by decide) :
    EntryVacuumOrderAbsenceConfirmed :=
  ⟨"vacuum-1", "entry-1", finalFilledQty, averageFillPrice, by decide, nonneg, matches_, positive⟩

/-- Two of the four units of the sample Ticket were filled when its order was found gone. -/
def partialAbsence : EntryVacuumOrderAbsenceConfirmed := sampleAbsence 2 (some 100)

/-- The law on a run that reads a partial fill of the ENTRY three times. -/
theorem fill_remembered_of_growing_readings : ∃ history aggregate,
    LifecycleRunIf KeepsReading history aggregate ∧ aggregate.positionQty = 2 ∧
      RemembersFills history aggregate := by
  obtain ⟨history, aggregate, run, reached⟩ := exists_run KeepsReading
    [⟨.entryAccepted "entry-1", rfl⟩, ⟨.entryVacuumCancelRequested (sampleReading 1 (some 100)), rfl⟩,
      ⟨.entryVacuumCancelRejected "entry-1" "busy", rfl⟩,
      ⟨.entryVacuumCancelRequested (sampleReading 2 (some 100)), rfl⟩,
      ⟨.entryVacuumOrderAbsenceConfirmed (sampleAbsence 2 (some 100)), rfl⟩]
    (fun _ aggregate => aggregate.positionQty = 2) (by decide)
  exact ⟨history, aggregate, run, by simpa using reached, fill_remembered run⟩

/-- **The forgotten fill.** One unit is filled and read, the retried cancel and the absence read
none, and the budget is released. -/
theorem fill_forgotten : ¬ ∀ history aggregate, LifecycleRun history aggregate →
    RemembersFills history aggregate := by
  intro law
  obtain ⟨history, aggregate, run, reached⟩ := exists_run (fun _ _ => True)
    [⟨.entryAccepted "entry-1", rfl⟩, ⟨.entryVacuumCancelRequested (sampleReading 1 (some 100)), rfl⟩,
      ⟨.entryVacuumCancelRejected "entry-1" "busy", rfl⟩,
      ⟨.entryVacuumCancelRequested (sampleReading 0 none), rfl⟩,
      ⟨.entryVacuumOrderAbsenceConfirmed (sampleAbsence 0 none), rfl⟩,
      ⟨.entryVacuumAbsenceConfirmed "vacuum-1", rfl⟩]
    (fun history _ =>
      history[2]?.bind (fun entry => entry.fact?.bind TicketFact.entryFill) = some 1 ∧
        NeverFlat (history.drop 3) ∧
        ¬ ∀ next ∈ history.drop 3, releaseCount next.effects = 0) (by decide)
  simp only [decide_eq_true_eq] at reached
  obtain ⟨carried, never, released⟩ := reached
  obtain ⟨entry, second, filled⟩ := Option.bind_eq_some_iff.mp carried
  obtain ⟨fact, reports, carries⟩ := Option.bind_eq_some_iff.mp filled
  obtain ⟨inside, rfl⟩ := List.getElem?_eq_some_iff.mp second
  have split : history = history.take 2 ++ [history[2]] ++ history.drop 3 := by
    rw [List.take_append_getElem inside, List.take_append_drop]
  have remembered := law history aggregate run.run _ _ _ fact 1 split reports carries (by decide)
    never
  exact released fun next member => remembered.2 next (List.mem_cons_of_mem _ member)

end Law

end TradingKernel
