/-
**The entry lane is given back once, and before the Ticket closes.**

`LaneKept` relates a history to the aggregate it reaches: the lane has been given back exactly if it
is no longer held, it is held as long as the ENTRY is not settled, and it is free once the position
is gone. Every accepted event keeps the first two; the third is kept except by an external flat of a
position that still holds the lane, which gives nothing back (`entry_lane_leaked`).
-/

import TradingKernel.Domain.Lane
import TradingKernel.Lifecycle.Replay

namespace TradingKernel

open Text Reducer

/-! ### Releases along a history -/

/-- The number of times a history gives the lane back. -/
def laneReleasesOf (history : List AcceptedEvent) : ℕ :=
  (history.map fun accepted => laneReleases accepted.effects).sum

@[simp] theorem laneReleasesOf_append (earlier later : List AcceptedEvent) :
    laneReleasesOf (earlier ++ later) = laneReleasesOf earlier + laneReleasesOf later := by
  simp [laneReleasesOf]

@[simp] theorem laneReleasesOf_accepted (event : TicketEvent) (result : Reduction) :
    laneReleasesOf [accepted event result] = laneReleases result.effects := by
  simp [laneReleasesOf, accepted]

/-- The statuses of a Ticket that is closed, or matched and waiting for its settlement. -/
def closedStatuses : List AggregateStatus :=
  [.leverageRejected, .entryRejected, .entryReconciledAbsent, .settlementPending, .reviewPending,
    .terminal]

/-- The lane of a run: it is given back at most once, exactly by the event that frees it; it is not
taken again; and a closed Ticket does not hold it. -/
structure LaneLaw (history : List AcceptedEvent) (aggregate : TradeAggregate) : Prop where
  once : laneReleasesOf history ≤ 1
  freed : ∀ event result, AcceptedOn aggregate event result → laneReleases result.effects =
    if aggregate.entryLaneHeld ∧ ¬ result.aggregate.entryLaneHeld then 1 else 0
  stays : ∀ before later since, history = before ++ later → LifecycleRun before since →
    since.entryLaneHeld = false → aggregate.entryLaneHeld = false
  closed : aggregate.status ∈ closedStatuses → aggregate.entryLaneHeld = false

/-- An external flat arrives only at a lane that is free. -/
def FreesLane (current : TradeAggregate) (event : TicketEvent) : Prop :=
  match event.fact with
  | .externalFlatDetected => current.entryLaneHeld = false
  | _ => True

def freesLane (current : TradeAggregate) (event : TicketEvent) : Bool :=
  match event.fact with
  | .externalFlatDetected => !current.entryLaneHeld
  | _ => true

theorem freesLane_iff (current : TradeAggregate) (event : TicketEvent) :
    freesLane current event = true ↔ FreesLane current event := by
  unfold freesLane FreesLane
  split <;> simp

instance (current : TradeAggregate) (event : TicketEvent) : Decidable (FreesLane current event) :=
  decidable_of_iff _ (freesLane_iff current event)

/-! ### The lane before the settlement -/

section Held

variable {history : List AcceptedEvent} {current : TradeAggregate} {event : TicketEvent}
  {result : Reduction}

/-- A status before the settlement of the ENTRY is reached from such a status only. -/
theorem laneHeld_earlier (on : AcceptedOn current event result)
    (before : result.aggregate.status ∈ laneHeldStatuses) : current.status ∈ laneHeldStatuses :=
  on.move.follows (fun edge => edge.2 ∈ laneHeldStatuses → edge.1 ∈ laneHeldStatuses)
    (by decide) before

/-- **The lane, event by event.** Where the lane is held before the settlement of the ENTRY, an
accepted event gives it back exactly if it frees it, does not take it, and keeps it held before the
settlement. -/
theorem laneStep (held : current.status ∈ laneHeldStatuses → current.entryLaneHeld = true)
    (on : AcceptedOn current event result) :
    laneReleases result.effects =
        (if current.entryLaneHeld ∧ ¬ result.aggregate.entryLaneHeld then 1 else 0) ∧
      (result.aggregate.entryLaneHeld = true → current.entryLaneHeld = true) ∧
      (result.aggregate.status ∈ laneHeldStatuses → result.aggregate.entryLaneHeld = true) := by
  cases (Aside.of_reduceFact on.reduced).lane with
  | kept silent same calm =>
    refine ⟨?_, fun still => same ▸ still, fun before => ?_⟩
    · rw [silent, same]
      simp
    · rw [same]
      exact held (laneHeld_earlier on before)
  | released once free source target =>
    refine ⟨?_, fun still => ?_, fun before => absurd before target⟩
    · rw [once, free, held source]
      rfl
    · rw [free] at still
      exact absurd still (by decide)
  | flat ifHeld free target =>
    refine ⟨?_, fun still => ?_, fun before => absurd before target⟩
    · rw [ifHeld, free]
      simp
    · rw [free] at still
      exact absurd still (by decide)
  | external reports silent same =>
    refine ⟨?_, fun still => same ▸ still, fun before => ?_⟩
    · rw [silent, same]
      simp
    · rw [same]
      exact held (laneHeld_earlier on before)

/-- The lane is held before the settlement of the ENTRY, along every run. -/
theorem laneHeld_of_run (run : LifecycleRun history current) :
    current.status ∈ laneHeldStatuses → current.entryLaneHeld = true :=
  run.invariant (fun current => current.status ∈ laneHeldStatuses → current.entryLaneHeld = true)
    (fun _ _ => rfl) fun held on => (laneStep held on).2.2

end Held

/-! ### The invariant -/

/-- The lane has been given back exactly if it is not held; it is held before the ENTRY is settled,
and free after the position is gone. -/
structure LaneKept (history : List AcceptedEvent) (aggregate : TradeAggregate) : Prop where
  count : laneReleasesOf history = if aggregate.entryLaneHeld then 0 else 1
  held : aggregate.status ∈ laneHeldStatuses → aggregate.entryLaneHeld = true
  free : aggregate.status ∈ laneFreeStatuses → aggregate.entryLaneHeld = false

namespace LaneKept

variable {past : List AcceptedEvent} {current : TradeAggregate} {event : TicketEvent}
  {result : Reduction}

theorem issued (header : EventHeader) (ticket : TradeTicket) :
    LaneKept (issuedHistory header ticket) (issuedAggregate ticket 1) where
  count := by
    cases change : ticket.leverageChangeRequired <;>
      simp [issuedHistory, laneReleasesOf, issuedEffects, issuedAggregate, change,
        KernelEffect.isLaneRelease]
  held _ := rfl
  free closed := absurd closed (issued_not_mem ticket (by decide))

/-- What an accepted event does to the count, the lane and the next lane. -/
theorem step (kept : LaneKept past current) (on : AcceptedOn current event result) :
    laneReleases result.effects =
        (if current.entryLaneHeld ∧ ¬ result.aggregate.entryLaneHeld then 1 else 0) ∧
      (result.aggregate.entryLaneHeld = true → current.entryLaneHeld = true) ∧
      (result.aggregate.status ∈ laneHeldStatuses → result.aggregate.entryLaneHeld = true) :=
  laneStep kept.held on

/-- **An accepted event keeps the invariant, unless it is an external flat of a position that holds
the lane.** -/
theorem moved (kept : LaneKept past current) (on : AcceptedOn current event result)
    (frees : FreesLane current event) :
    LaneKept (past ++ [accepted event result]) result.aggregate := by
  obtain ⟨emitted, once, held⟩ := kept.step on
  refine ⟨?_, held, fun closed => ?_⟩
  · rw [laneReleasesOf_append, laneReleasesOf_accepted, kept.count, emitted]
    cases was : current.entryLaneHeld with
    | true => cases result.aggregate.entryLaneHeld <;> simp
    | false =>
      cases is : result.aggregate.entryLaneHeld with
      | true => exact absurd (once is) (by simp [was])
      | false => simp
  · cases (Aside.of_reduceFact on.reduced).lane with
    | kept silent same calm => rw [same, kept.free (calm closed)]
    | released once free source target => exact free
    | flat ifHeld free target => exact free
    | external reports silent same =>
      rw [FreesLane, reports] at frees
      rw [same]
      exact frees

end LaneKept

/-! ### The law and its exception -/

section Law

variable {history : List AcceptedEvent} {aggregate : TradeAggregate}

/-- The invariant holds along every run in which no external flat finds the lane held. -/
theorem laneKept (run : LifecycleRunIf FreesLane history aggregate) : LaneKept history aggregate :=
  run.induct LaneKept LaneKept.issued fun _ kept on frees => kept.moved on frees

/-- **The law holds in every run in which every external flat finds the lane free.** -/
theorem entry_lane_given_back (run : LifecycleRunIf FreesLane history aggregate) :
    LaneLaw history aggregate where
  once := by
    rw [(laneKept run).count]
    split_ifs <;> decide
  freed event result on := ((laneKept run).step on).1
  stays before later since parts soFar free := by
    subst parts
    obtain ⟨middle, begun, -⟩ := Run.append_iff.mp run
    have soFarTo : Run Accepts none before middle := begun.mono fun accepts => accepts.1
    have same : middle = some since := by
      refine Run.unique ?_ soFarTo soFar
      exact fun accepts again => accepts_unique accepts again
    subst same
    have given := (laneKept begun).count
    have count := (laneKept run).count
    rw [free] at given
    rw [laneReleasesOf_append, given] at count
    cases held : aggregate.entryLaneHeld with
    | false => rfl
    | true => simp [held] at count
  closed closed := (laneKept run).free
    ((by decide : ∀ status ∈ closedStatuses, status ∈ laneFreeStatuses) _ closed)

/-- The law on the run of a position that is protected, found flat and settled. -/
theorem entry_lane_given_back_when_assessed : ∃ history aggregate,
    LifecycleRunIf FreesLane history aggregate ∧ aggregate.status = .settlementPending ∧
      LaneLaw history aggregate := by
  obtain ⟨history, aggregate, run, reached⟩ := exists_run FreesLane
    (protectedFacts ++ [⟨.externalFlatDetected, rfl⟩, ⟨.protectionCancelConfirmed "tp-1", rfl⟩,
      ⟨.ownedOrderAbsenceConfirmed "stop-1", rfl⟩, ⟨.reconciliationMatched none, rfl⟩])
    (fun _ aggregate => aggregate.status = .settlementPending) (by decide)
  exact ⟨history, aggregate, run, by simpa using reached, entry_lane_given_back run⟩

/-- **The leak.** A TP1 that is confirmed before the assessment protects a position that holds the
lane; an external flat of it gives nothing back, and the Ticket is settled with the lane held. -/
theorem entry_lane_leaked : ¬ ∀ history aggregate, LifecycleRun history aggregate →
    LaneLaw history aggregate := by
  intro law
  obtain ⟨history, aggregate, run, reached⟩ := exists_run (fun _ _ => True)
    [⟨.entryAccepted "entry-1", rfl⟩, ⟨.entryFilled sampleFill, rfl⟩,
      ⟨.initialStopConfirmed "stop-1" 4, rfl⟩, ⟨.takeProfitConfirmed "tp-1" 0, rfl⟩,
      ⟨.externalFlatDetected, rfl⟩, ⟨.protectionCancelConfirmed "tp-1", rfl⟩,
      ⟨.ownedOrderAbsenceConfirmed "stop-1", rfl⟩, ⟨.reconciliationMatched none, rfl⟩]
    (fun _ aggregate => aggregate.status = .settlementPending ∧ aggregate.entryLaneHeld = true)
    (by decide)
  simp only [decide_eq_true_eq] at reached
  have free := (law history aggregate run.run).closed (by rw [reached.1]; decide)
  rw [reached.2] at free
  exact absurd free (by decide)

end Law

end TradingKernel
