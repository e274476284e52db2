/-
**The post-fill stress gate, and the one branch around it.**

The statuses behind the gate are those of a position that trades on under its stop. In every run in
which no TP1 confirmation arrives while the assessment is still pending, a status behind the gate is
reached only after a passed assessment (`stress_gate_kept`). The reducer does admit such a
confirmation, and `stress_gate_bypassed` is a run that gets behind the gate without any assessment.
-/

import TradingKernel.Lifecycle.Replay

namespace TradingKernel

open Text Reducer

/-! ### The gate -/

/-- The statuses of a position that trades on under its stop. -/
def gatedStatuses : List AggregateStatus :=
  [.positionProtected, .tp1Pending, .tp1Rejected, .tp1OutcomeUnknown, .runnerReplacementPending,
    .runnerReplacementRejected, .runnerReplacementOutcomeUnknown, .runnerOldStopCancelPending,
    .runnerOldStopCancelRejected, .runnerOldStopCancelOutcomeUnknown, .runnerProtected]

/-- A passed assessment was accepted along the history. -/
def PassedAssessment (history : List AcceptedEvent) : Prop :=
  ∃ accepted ∈ history, ∃ fact, accepted.fact? = some (.postFillStressAssessed fact) ∧
    fact.status = .passed

def TicketFact.confirmsTakeProfit : TicketFact → Bool
  | .takeProfitConfirmed _ _ => true
  | _ => false

/-- A TP1 confirmation does not overtake the assessment. -/
def AwaitsAssessment (current : TradeAggregate) (event : TicketEvent) : Prop :=
  ¬ (current.status = .postFillRiskPending ∧ event.fact.confirmsTakeProfit = true)

instance (current : TradeAggregate) (event : TicketEvent) :
    Decidable (AwaitsAssessment current event) :=
  inferInstanceAs (Decidable (¬ _))

/-! ### The invariant -/

/-- Behind the gate the assessment is recorded as passed, and a recorded pass was accepted. -/
structure Gated (history : List AcceptedEvent) (aggregate : TradeAggregate) : Prop where
  recorded : aggregate.status ∈ gatedStatuses → aggregate.postFillStressStatus = some .passed
  assessed : aggregate.postFillStressStatus = some .passed → PassedAssessment history

namespace Gated

variable {past : List AcceptedEvent} {current : TradeAggregate} {event : TicketEvent}
  {status : AggregateStatus} {updates : TradeAggregate → TradeAggregate}
  {effects : List KernelEffect}

theorem passedAssessment_append (passed : PassedAssessment past) (later : List AcceptedEvent) :
    PassedAssessment (past ++ later) := by
  obtain ⟨accepted, member, fact⟩ := passed
  exact ⟨accepted, List.mem_append_left _ member, fact⟩

/-- A move that leaves the assessment alone and goes behind the gate only from behind it. -/
theorem same (gated : Gated past current)
    (behind : status ∈ gatedStatuses → current.status ∈ gatedStatuses)
    (stress : (updates current).postFillStressStatus = current.postFillStressStatus) :
    Gated (past ++ [accepted event (transition current event status updates effects)])
      (transition current event status updates effects).aggregate where
  recorded target := stress.trans (gated.recorded (behind target))
  assessed passed := passedAssessment_append (gated.assessed (stress.symm.trans passed)) _

/-- A move from one of several statuses, all behind the gate or not aiming behind it. -/
theorem fromMember (gated : Gated past current) {sources : List AggregateStatus}
    (member : current.status ∈ sources)
    (sides : ∀ source ∈ sources, status ∈ gatedStatuses → source ∈ gatedStatuses)
    (stress : (updates current).postFillStressStatus = current.postFillStressStatus) :
    Gated (past ++ [accepted event (transition current event status updates effects)])
      (transition current event status updates effects).aggregate :=
  gated.same (sides _ member) stress

/-- The same along an edge. -/
theorem alongEdge (gated : Gated past current)
    {edges : List (AggregateStatus × AggregateStatus)} (edge : (current.status, status) ∈ edges)
    (sides : ∀ pair ∈ edges, pair.2 ∈ gatedStatuses → pair.1 ∈ gatedStatuses)
    (stress : (updates current).postFillStressStatus = current.postFillStressStatus) :
    Gated (past ++ [accepted event (transition current event status updates effects)])
      (transition current event status updates effects).aggregate :=
  gated.same (sides _ edge) stress

/-- **Every move that does not overtake the assessment keeps the invariant.** -/
theorem moved (gated : Gated past current) (awaits : AwaitsAssessment current event)
    {result : Reduction} (move : Move current event event.fact result) :
    Gated (past ++ [accepted event result]) result.aggregate := by
  generalize reports : event.fact = fact at move
  cases move with
  | kept quiet edge silent => exact gated.alongEdge edge (by decide) rfl
  | closedUnfilled unfilled edge empty silent => exact gated.alongEdge edge (by decide) rfl
  | entryAccepted member named => exact gated.fromMember member (by decide) rfl
  | entryFilled member full =>
    refine gated.same (fun behind => absurd behind ?_) rfl
    exact (by decide : ∀ status ∈ ([.controlledFlattenPending, .protectionPending] :
      List AggregateStatus), status ∉ gatedStatuses) _ (entryFilledTarget_mem _)
  | entryPartiallyFilled member some_of whole silent =>
    exact gated.fromMember member (by decide) rfl
  | entryVacuumCancelRequested member unfinished silent =>
    exact gated.fromMember member (by decide) rfl
  | entryVacuumOrderAbsenceConfirmed member bounded silent =>
    exact gated.fromMember member (by decide) rfl
  | vacuumLateFillAttributed status empty bounded =>
    exact gated.fromMember (List.mem_singleton.mpr status) (by decide) rfl
  | vacuumPartialRetained status exposure silent =>
    exact gated.fromMember (List.mem_singleton.mpr status) (by decide) rfl
  | initialStopConfirmed member target covers named silent =>
    refine gated.same (fun behind => absurd behind ?_) rfl
    exact (by decide : ∀ status ∈ ([.controlledFlattenPending, .postFillRiskPending] :
      List AggregateStatus), status ∉ gatedStatuses) _ target
  | stressFailed status failed =>
    have flattening : AggregateStatus.controlledFlattenPending ∉ gatedStatuses := by decide
    refine ⟨fun behind => absurd behind flattening, fun passed => ?_⟩
    have recorded := Option.some.inj passed
    rw [failed] at recorded
    exact StressResult.noConfusion recorded
  | stressPassed status passed legs runner =>
    exact ⟨fun _ => congrArg some passed, fun _ =>
      ⟨_, List.mem_append_right _ (List.mem_singleton.mpr rfl), _,
        congrArg some reports, passed⟩⟩
  | takeProfitConfirmed member named silent =>
    have ahead : current.status ≠ .postFillRiskPending := fun pending =>
      awaits ⟨pending, by rw [reports]; rfl⟩
    have behind : current.status ∈ gatedStatuses := by
      simp only [List.mem_cons, List.not_mem_nil, or_false, ahead, false_or] at member
      rcases member with pending | unknown
      · rw [pending]
        decide
      · rw [unknown]
        decide
    exact gated.same (fun _ => behind) rfl
  | takeProfitFilled status target active runner floor =>
    exact gated.fromMember (List.mem_singleton.mpr status) (by decide) rfl
  | runnerStopRequested status =>
    exact gated.fromMember (List.mem_singleton.mpr status) (by decide) rfl
  | protectionReplacementConfirmed member named covers replaces silent =>
    exact gated.fromMember member (by decide) rfl
  | exitOrderAccepted loud edge silent => exact gated.alongEdge edge (by decide) rfl
  | positionFlatConfirmed member => exact gated.fromMember member (by decide) rfl
  | externalFlatDetected member next => exact gated.fromMember member (by decide) rfl
  | ownedOrphanOrderDetected member named silent => exact gated.fromMember member (by decide) rfl
  | cleared clears member silent => exact gated.fromMember member (by decide) rfl
  | oldStopGone gone member pending silent => exact gated.fromMember member (by decide) rfl
  | reconciliationMatched status clean unprotected settled =>
    exact gated.fromMember (List.mem_singleton.mpr status) (by decide) rfl
  | reviewed review member => exact gated.fromMember member (by decide) rfl

end Gated

/-! ### The law and its exception -/

section Law

variable {history : List AcceptedEvent} {aggregate : TradeAggregate}

/-- **The gate holds in every run in which no TP1 confirmation overtakes the assessment.** -/
theorem stress_gate_kept (run : LifecycleRunIf AwaitsAssessment history aggregate)
    (behind : aggregate.status ∈ gatedStatuses) :
    aggregate.postFillStressStatus = some .passed ∧ PassedAssessment history := by
  have gated : Gated history aggregate :=
    run.induct Gated
      (fun header ticket => ⟨fun behind => absurd behind (issued_not_mem ticket (by decide)),
        fun passed => by simp [issuedAggregate] at passed⟩)
      fun _ gated on awaits => gated.moved awaits on.move
  exact ⟨gated.recorded behind, gated.assessed (gated.recorded behind)⟩

/-- The gate on a run that is assessed and then protected by TP1. -/
theorem stress_gate_kept_when_assessed : ∃ history aggregate,
    LifecycleRunIf AwaitsAssessment history aggregate ∧
      aggregate.status = .positionProtected ∧
      aggregate.postFillStressStatus = some .passed ∧ PassedAssessment history := by
  obtain ⟨history, aggregate, run, reached⟩ := exists_run AwaitsAssessment protectedFacts
    (fun _ aggregate => aggregate.status = .positionProtected) (by decide)
  have protectedNow : aggregate.status = .positionProtected := by simpa using reached
  exact ⟨history, aggregate, run, protectedNow,
    stress_gate_kept run (by rw [protectedNow]; decide)⟩

/-- **The bypass.** A TP1 confirmation of quantity zero is accepted right after the initial stop,
and the position counts as protected although nothing was assessed. -/
theorem stress_gate_bypassed : ¬ ∀ history aggregate, LifecycleRun history aggregate →
    aggregate.status ∈ gatedStatuses → aggregate.postFillStressStatus = some .passed := by
  intro gate
  obtain ⟨history, aggregate, run, reached⟩ := exists_run (fun _ _ => True)
    [⟨.entryAccepted "entry-1", rfl⟩, ⟨.entryFilled sampleFill, rfl⟩,
      ⟨.initialStopConfirmed "stop-1" 4, rfl⟩, ⟨.takeProfitConfirmed "tp-1" 0, rfl⟩]
    (fun _ aggregate => aggregate.status = .positionProtected ∧
      aggregate.postFillStressStatus = none) (by decide)
  simp only [decide_eq_true_eq] at reached
  have passed := gate history aggregate run.run (by rw [reached.1]; decide)
  rw [reached.2] at passed
  simp at passed

end Law

end TradingKernel
