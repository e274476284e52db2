/-
**Capital is released exactly once, and only when flat.**

`CapitalHeld` relates a history to the aggregate it reaches: the history has one release if the
status is one of the six after a release and none otherwise, and in a status without a position the
quantity is zero. The issue establishes it and every move keeps it (`CapitalHeld.moved`), so it
holds along every run; the law is read off from it.
-/

import TradingKernel.Lifecycle.Replay

namespace TradingKernel

open Text Reducer

/-! ### The statuses that matter -/

/-- The statuses after the capital has been released. -/
def releasedStatuses : List AggregateStatus :=
  [.leverageRejected, .entryRejected, .entryReconciledAbsent, .settlementPending, .reviewPending,
    .terminal]

/-- The statuses in which the ticket has no position. -/
def positionlessStatuses : List AggregateStatus :=
  releasedStatuses ++ [.leveragePending, .leverageConfirmed, .leverageOutcomeUnknown,
    .entryPending, .entryAccepted, .entryOutcomeUnknown, .reconciliationPending, .cancelRejected,
    .cancelOutcomeUnknown]

/-- The number of releases along a history. -/
def releases (history : List AcceptedEvent) : ℕ :=
  (history.map fun accepted => releaseCount accepted.effects).sum

@[simp] theorem releases_append (earlier later : List AcceptedEvent) :
    releases (earlier ++ later) = releases earlier + releases later := by
  simp [releases]

@[simp] theorem releases_accepted (event : TicketEvent) (result : Reduction) :
    releases [accepted event result] = releaseCount result.effects := by
  simp [releases, accepted]

/-! ### The invariant -/

/-- One release exactly when the status says so, and no quantity without a position. -/
structure CapitalHeld (history : List AcceptedEvent) (aggregate : TradeAggregate) : Prop where
  count : releases history = if aggregate.status ∈ releasedStatuses then 1 else 0
  flat : aggregate.status ∈ positionlessStatuses → aggregate.positionQty = 0

namespace CapitalHeld

variable {past : List AcceptedEvent} {current : TradeAggregate} {event : TicketEvent}
  {status : AggregateStatus} {updates : TradeAggregate → TradeAggregate}
  {effects : List KernelEffect}

theorem issued (header : EventHeader) (ticket : TradeTicket) :
    CapitalHeld (issuedHistory header ticket) (issuedAggregate ticket 1) := by
  cases change : ticket.leverageChangeRequired <;>
    exact ⟨by simp [issuedHistory, releases, issuedEffects, issuedAggregate, change,
      KernelEffect.isRelease, releasedStatuses], fun _ => rfl⟩

/-- A move between two statuses before the release, without a release. -/
theorem before (held : CapitalHeld past current) {sources : List AggregateStatus}
    (member : current.status ∈ sources) (source : ∀ from_ ∈ sources, from_ ∉ releasedStatuses)
    (target : status ∉ releasedStatuses) (silent : releaseCount effects = 0)
    (flat : status ∈ positionlessStatuses → (updates current).positionQty = 0) :
    CapitalHeld (past ++ [accepted event (transition current event status updates effects)])
      (transition current event status updates effects).aggregate := by
  refine ⟨?_, flat⟩
  rw [releases_append, releases_accepted, held.count, if_neg (source _ member)]
  simp [silent, target]

/-- A move to a status with a position, without a release. -/
theorem away (held : CapitalHeld past current) {sources : List AggregateStatus}
    (member : current.status ∈ sources) (source : ∀ from_ ∈ sources, from_ ∉ releasedStatuses)
    (target : status ∉ positionlessStatuses) (silent : releaseCount effects = 0) :
    CapitalHeld (past ++ [accepted event (transition current event status updates effects)])
      (transition current event status updates effects).aggregate :=
  held.before member source (fun released => target (List.mem_append_left _ released)) silent
    fun flat => absurd flat target

/-- A move that leaves the quantity alone, along an edge that leads to a status without a position
only from one. -/
theorem alongEdge (held : CapitalHeld past current) {edges : List (AggregateStatus × AggregateStatus)}
    (edge : (current.status, status) ∈ edges)
    (sides : ∀ pair ∈ edges, (pair.1 ∈ releasedStatuses ↔ pair.2 ∈ releasedStatuses) ∧
      (pair.2 ∈ positionlessStatuses → pair.1 ∈ positionlessStatuses))
    (silent : releaseCount effects = 0)
    (same : (updates current).positionQty = current.positionQty) :
    CapitalHeld (past ++ [accepted event (transition current event status updates effects)])
      (transition current event status updates effects).aggregate := by
  obtain ⟨released, positionless⟩ := sides _ edge
  refine ⟨?_, fun flat => same.trans (held.flat (positionless flat))⟩
  rw [releases_append, releases_accepted, held.count]
  simp [silent, released]

/-- **Every move keeps the invariant.** -/
theorem moved (held : CapitalHeld past current) {fact : TicketFact} {result : Reduction}
    (move : Move current event fact result) :
    CapitalHeld (past ++ [accepted event result]) result.aggregate := by
  cases move with
  | kept quiet edge silent => exact held.alongEdge edge (by decide) silent rfl
  | closedUnfilled unfilled edge empty silent =>
    have source : current.status ∉ releasedStatuses ∧
        (current.status = .entryVacuumCancelled ∨ current.status ∈ positionlessStatuses) :=
      (by decide : ∀ pair ∈ unfilledEdges, pair.1 ∉ releasedStatuses ∧
        (pair.1 = .entryVacuumCancelled ∨ pair.1 ∈ positionlessStatuses)) _ edge
    have target := (by decide : ∀ pair ∈ unfilledEdges, pair.2 ∈ releasedStatuses) _ edge
    refine ⟨?_, fun _ => source.2.elim empty held.flat⟩
    rw [releases_append, releases_accepted, held.count, if_neg source.1]
    simp [silent, target]
  | entryAccepted member named =>
    have source := (by decide : ∀ from_ ∈ ([.entryPending, .leverageConfirmed,
      .entryOutcomeUnknown] : List AggregateStatus), from_ ∈ positionlessStatuses) _ member
    exact held.before member (by decide) (by decide) (by simp) fun _ => held.flat source
  | entryFilled member full =>
    rename_i fact
    have target := (by decide : ∀ status ∈ ([.controlledFlattenPending, .protectionPending] :
      List AggregateStatus), status ∉ positionlessStatuses) _ (entryFilledTarget_mem fact)
    exact held.away member (by decide) target (by simp)
  | entryPartiallyFilled member some_of whole silent =>
    exact held.away member (by decide) (by decide) silent
  | entryVacuumCancelRequested member unfinished silent =>
    exact held.away member (by decide) (by decide) silent
  | entryVacuumOrderAbsenceConfirmed member bounded silent =>
    exact held.away member (by decide) (by decide) silent
  | vacuumLateFillAttributed status empty bounded =>
    exact held.away (List.mem_singleton.mpr status) (by decide) (by decide) rfl
  | vacuumPartialRetained status exposure silent =>
    exact held.away (List.mem_singleton.mpr status) (by decide) (by decide) silent
  | initialStopConfirmed member target covers named silent =>
    have withPosition := (by decide : ∀ status ∈ ([.controlledFlattenPending, .postFillRiskPending] :
      List AggregateStatus), status ∉ positionlessStatuses) _ target
    exact held.away member (by decide) withPosition silent
  | stressFailed status failed =>
    exact held.away (List.mem_singleton.mpr status) (by decide) (by decide) rfl
  | stressPassed status passed legs runner =>
    exact held.away (List.mem_singleton.mpr status) (by decide) (by decide) rfl
  | takeProfitConfirmed member named silent =>
    exact held.away member (by decide) (by decide) silent
  | takeProfitFilled status target active runner floor =>
    exact held.away (List.mem_singleton.mpr status) (by decide) (by decide) rfl
  | runnerStopRequested status =>
    exact held.away (List.mem_singleton.mpr status) (by decide) (by decide) rfl
  | protectionReplacementConfirmed member named covers replaces silent =>
    exact held.away member (by decide) (by decide) silent
  | exitOrderAccepted loud edge silent => exact held.alongEdge edge (by decide) silent rfl
  | positionFlatConfirmed member =>
    have silent : releaseCount (flattened current event).effects = 0 := by
      simp only [flattened, transition_effects]
      cases nextCleanupOrderId current <;> cases current.entryLaneHeld <;> rfl
    exact held.before member (by decide) (by decide) silent fun _ => rfl
  | externalFlatDetected member next =>
    exact held.before member (by decide) (by decide) rfl fun _ => rfl
  | ownedOrphanOrderDetected member named silent =>
    have source := (by decide : ∀ from_ ∈ ([.reconciliationPending, .cancelRejected] :
      List AggregateStatus), from_ ∈ positionlessStatuses) _ member
    exact held.before member (by decide) (by decide) silent fun _ => held.flat source
  | cleared clears member silent =>
    have source := (by decide : ∀ from_ ∈ ([.reconciliationPending, .cancelRejected,
      .cancelOutcomeUnknown] : List AggregateStatus), from_ ∈ positionlessStatuses) _ member
    exact held.before member (by decide) (by decide) silent fun _ => held.flat source
  | oldStopGone gone member pending silent =>
    exact held.away member (by decide) (by decide) silent
  | reconciliationMatched status clean unprotected settled =>
    refine ⟨?_, fun _ => held.flat (by rw [status]; decide)⟩
    rw [releases_append, releases_accepted, held.count, status]
    rfl
  | reviewed review member =>
    have source := (by decide : ∀ from_ ∈ ([.reviewPending, .terminal] : List AggregateStatus),
      from_ ∈ releasedStatuses) _ member
    refine ⟨?_, fun _ => held.flat (List.mem_append_left _ source)⟩
    rw [releases_append, releases_accepted, held.count, if_pos source]
    rfl

end CapitalHeld

/-! ### The law -/

section Law

variable {history : List AcceptedEvent} {aggregate : TradeAggregate}

/-- The invariant holds along every run. -/
theorem capitalHeld (run : LifecycleRun history aggregate) : CapitalHeld history aggregate :=
  run.induct CapitalHeld CapitalHeld.issued fun held on => held.moved on.move

/-- **Capital is released at most once; exactly once in the six statuses after a release; and from
the release on the position is flat.** -/
theorem capital_released_once_and_flat (run : LifecycleRun history aggregate) :
    releases history ≤ 1 ∧ (releases history = 1 ↔ aggregate.status ∈ releasedStatuses) ∧
      ∀ earlier later, history = earlier ++ later → releases earlier = 1 →
        aggregate.positionQty = 0 := by
  have held := capitalHeld run
  have released : releases history = 1 ↔ aggregate.status ∈ releasedStatuses := by
    rw [held.count]
    split_ifs with member <;> simp [member]
  have once : releases history ≤ 1 := by
    rw [held.count]
    split_ifs <;> decide
  refine ⟨once, released, ?_⟩
  rintro earlier later rfl one
  rw [releases_append] at once released
  exact held.flat (List.mem_append_left _ (released.mp (by omega)))

/-- The law on the run of a Ticket whose ENTRY is rejected. -/
theorem capital_released_once_and_flat_on_rejection : ∃ history aggregate,
    LifecycleRun history aggregate ∧ aggregate.status = .entryRejected ∧
      releases history ≤ 1 ∧ (releases history = 1 ↔ aggregate.status ∈ releasedStatuses) ∧
      ∀ earlier later, history = earlier ++ later → releases earlier = 1 →
        aggregate.positionQty = 0 := by
  obtain ⟨history, aggregate, run, rejected⟩ := exists_run (fun _ _ => True)
    [⟨.entryRejected "insufficient margin", rfl⟩]
    (fun _ aggregate => aggregate.status = .entryRejected) (by decide)
  exact ⟨history, aggregate, run.run, by simpa using rejected,
    capital_released_once_and_flat run.run⟩

end Law

end TradingKernel
