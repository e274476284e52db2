/-
**Position truth: who writes the position of a netting domain, and when it moves back.**

Three use cases write positions: `reconcile_ticket`, the drain of a vacuum and the recovery of a late
fill. The recovery, and each of the other two on one branch, compare the time of their snapshot with the
stored one; every other branch writes what it is given. So a step keeps position truth exactly where an
unguarded write gets a snapshot that is no older than the stored one (`keepsTruth_iff_inOrder`), and
along runs of such steps nothing is stored or derived from an older snapshot
(`position_truth_moves_forward`). A stale flat position that arrives late closes a live one
(`stale_flat_closes_live_position`).
-/

import Mathlib
import TradingKernel.Application.DrainVacuum
import TradingKernel.Application.RecoverVacuumLateFill
import TradingKernel.Infrastructure.PositionStore
import TradingKernel.Lib.StampedStore
import TradingKernel.System.Steps

namespace TradingKernel

open Text Guard StampedStore

/-! ### Tickets and positions -/

/-- The Tickets by their ids, and the stored positions. -/
structure PositionState where
  kernels : String → Option Kernel
  positions : PositionTable

/-- The transactions on Tickets and positions. -/
inductive PositionWork where
  | reconcile (ticketId : String) (openIncidentKind : Option String) (snapshot : PositionSnapshot)
  | drain (ticketId : String) (entryVacuumId : NonBlankText) (nowMs : ℤ)
      (snapshot : Option PositionSnapshot) (exitPolicy : Option (ℚ × ℚ))
  | recoverLateFill (ticketId : String) (reading : LateFillReading)
  /-- Any other transaction: Tickets may change in any way, and no position is written. -/
  | elsewhere (kernels : String → Option Kernel)

namespace Kernel

variable (kernel : Kernel)

/-- `reconcile_ticket` takes the branch of a position that appears after its ENTRY was absent. -/
def FindsLateFill (snapshot : PositionSnapshot) : Prop :=
  kernel.aggregate.status = .entryReconciledAbsent ∧ 0 < snapshot.quantity

instance (snapshot : PositionSnapshot) : Decidable (kernel.FindsLateFill snapshot) :=
  inferInstanceAs (Decidable (_ ∧ _))

/-- The drain takes the branch of a cancelled ENTRY without a fill. -/
def FindsUnfilled : Prop :=
  kernel.aggregate.status = .entryVacuumCancelled ∧ kernel.aggregate.positionQty = 0

instance : Decidable kernel.FindsUnfilled := inferInstanceAs (Decidable (_ ∧ _))

/-- The drain goes on to its plan, and so to the write of its snapshot. -/
def DrainsOn (entryVacuumId : NonBlankText) (nowMs : ℤ) (reading : VacuumReading) : Prop :=
  let aggregate := kernel.aggregate
  aggregate.status ∉ [.leveragePending, .leverageConfirmed, .entryPending] ∧
    aggregate.status ∉
      [.leverageOutcomeUnknown, .entryOutcomeUnknown, .entryVacuumCancelOutcomeUnknown] ∧
    ¬ (aggregate.status = .entryVacuumCancelPending ∧
      awaitsVacuumCancel kernel.commands.listForTicket entryVacuumId) ∧
    (aggregate.status = .entryVacuumCancelled →
      ¬ (¬ (aggregate.positionQty = 0 ∨ aggregate.positionQty = aggregate.ticket.quantity) ∧
        reading.exitPolicy = none) ∧
      ¬ (aggregate.positionQty = 0 ∧ StaleSnapshot reading nowMs) ∧
      ¬ (aggregate.positionQty = 0 ∧
        "vacuum_post_absence_contradiction" ∈ kernel.openIncidents) ∧
      ¬ (aggregate.positionQty = 0 ∧ Contradicts reading))

instance (entryVacuumId : NonBlankText) (nowMs : ℤ) (reading : VacuumReading) :
    Decidable (kernel.DrainsOn entryVacuumId nowMs reading) := inferInstanceAs (Decidable (_ ∧ _))

end Kernel

namespace PositionState

variable (state : PositionState)

/-- The state with one Ticket changed, and a snapshot stored where one is written. -/
def put (ticketId : String) (next : Kernel) (written : Option PositionSnapshot) : PositionState where
  kernels := Function.update state.kernels ticketId (some next)
  positions :=
    match written with
    | none => state.positions
    | some snapshot => state.positions.upsert ticketId snapshot

/-- The stored time that a use case reads for a Ticket. -/
def priorObservedAtMs (kernel : Kernel) : Option ℤ :=
  state.positions.observedAtMs kernel.aggregate.identity.nettingDomain

/-- What a drain reads. -/
def vacuumReading (kernel : Kernel) (snapshot : Option PositionSnapshot)
    (exitPolicy : Option (ℚ × ℚ)) : VacuumReading :=
  ⟨snapshot, state.priorObservedAtMs kernel, exitPolicy⟩

/-- The snapshot that a work writes on a kernel, unless the work raises. -/
def written (kernel : Kernel) : PositionWork → Option PositionSnapshot
  | .reconcile _ _ snapshot => if kernel.FindsLateFill snapshot then none else some snapshot
  | .drain _ entryVacuumId nowMs snapshot exitPolicy =>
      if kernel.DrainsOn entryVacuumId nowMs (state.vacuumReading kernel snapshot exitPolicy) then
        snapshot
      else none
  | .recoverLateFill _ reading => some reading.position
  | .elsewhere _ => none

/-- What a work leaves. -/
def apply : PositionWork → Except Raised PositionState
  | .reconcile ticketId openIncidentKind snapshot => do
      let kernel ← demand (state.kernels ticketId) (.valueError "Ticket aggregate does not exist")
      let next ← kernel.reconcile (state.priorObservedAtMs kernel) openIncidentKind snapshot
      return state.put ticketId next
        (state.written kernel (.reconcile ticketId openIncidentKind snapshot))
  | .drain ticketId entryVacuumId nowMs snapshot exitPolicy => do
      let kernel ← demand (state.kernels ticketId) (.valueError "Ticket aggregate does not exist")
      let next ← kernel.drainEntryVacuum entryVacuumId nowMs
        (state.vacuumReading kernel snapshot exitPolicy)
      return state.put ticketId next
        (state.written kernel (.drain ticketId entryVacuumId nowMs snapshot exitPolicy))
  | .recoverLateFill ticketId reading => do
      let kernel ← demand (state.kernels ticketId) (.valueError "Ticket aggregate does not exist")
      let recovered ← kernel.recoverVacuumLateFill (state.priorObservedAtMs reading.seen) reading
      match recovered with
      | none => return state
      | some next =>
          return state.put ticketId next (state.written kernel (.recoverLateFill ticketId reading))
  | .elsewhere kernels => return { state with kernels := kernels }

end PositionState

/-! ### What a step of each use case does -/

namespace Kernel

variable {kernel next : Kernel}

theorem domain_of_reconcile {priorObservedAtMs : Option ℤ} {openIncidentKind : Option String}
    {snapshot : PositionSnapshot}
    (returned : kernel.reconcile priorObservedAtMs openIncidentKind snapshot = .ok next) :
    snapshot.nettingDomain = kernel.aggregate.identity.nettingDomain := by
  obtain ⟨outcome, decided, -⟩ := bind_eq_ok.1 returned
  obtain ⟨same, -⟩ := refuse_bind_eq_ok.1 decided
  exact not_not.1 same

/-- The branch of a late fill records no event. -/
theorem same_of_findsLateFill {priorObservedAtMs : Option ℤ} {openIncidentKind : Option String}
    {snapshot : PositionSnapshot}
    (returned : kernel.reconcile priorObservedAtMs openIncidentKind snapshot = .ok next)
    (late : kernel.FindsLateFill snapshot) : next = kernel := by
  obtain ⟨outcome, decided, committed⟩ := bind_eq_ok.1 returned
  obtain ⟨-, decided⟩ := refuse_bind_eq_ok.1 decided
  rw [if_pos (show _ ∧ _ from late)] at decided
  obtain rfl := pure_eq_ok.1 decided
  exact pure_eq_ok.1 committed

variable {entryVacuumId : NonBlankText} {nowMs : ℤ} {reading : VacuumReading}

/-- A drain that goes on planned its step, from a snapshot of the Ticket's netting domain. -/
theorem domain_of_drainsOn
    (returned : kernel.drainEntryVacuum entryVacuumId nowMs reading = .ok next)
    (on : kernel.DrainsOn entryVacuumId nowMs reading) :
    ∀ snapshot ∈ reading.positionSnapshot,
      snapshot.nettingDomain = kernel.aggregate.identity.nettingDomain := by
  have planned {facts : VacuumTicketDrainFacts} {plan : VacuumTicketDrainPlan}
      (made : planVacuumTicketDrain facts = .ok plan) : ∀ snapshot ∈ facts.positionSnapshot,
        snapshot.nettingDomain = facts.aggregate.identity.nettingDomain := by
    obtain ⟨same, -⟩ := refuse_bind_eq_ok.1 made
    push Not at same
    exact same
  obtain ⟨settled, known, sent, cancelled⟩ := on
  obtain ⟨-, returned⟩ := refuse_bind_eq_ok.1 returned
  dsimp only at returned
  rw [if_neg settled, if_neg known, if_neg sent] at returned
  by_cases gone : kernel.aggregate.status = .entryVacuumCancelled
  · obtain ⟨policy, fresh, closed, consistent⟩ := cancelled gone
    rw [if_pos gone] at returned
    unfold drainCancelled at returned
    dsimp only at returned
    rw [if_neg policy, if_neg fresh, if_neg closed, if_neg consistent] at returned
    obtain ⟨plan, made, -⟩ := bind_eq_ok.1 returned
    exact planned made
  · rw [if_neg gone] at returned
    obtain ⟨plan, made, -⟩ := bind_eq_ok.1 returned
    exact planned made

/-- A drain that reads its snapshot and does not go on records no event. -/
theorem same_of_not_drainsOn
    (returned : kernel.drainEntryVacuum entryVacuumId nowMs reading = .ok next)
    (settled : kernel.aggregate.status ∉ [.leveragePending, .leverageConfirmed, .entryPending])
    (off : ¬ kernel.DrainsOn entryVacuumId nowMs reading) : next.aggregate = kernel.aggregate := by
  obtain ⟨-, returned⟩ := refuse_bind_eq_ok.1 returned
  dsimp only at returned
  rw [if_neg settled] at returned
  by_cases unknown : kernel.aggregate.status ∈
      [.leverageOutcomeUnknown, .entryOutcomeUnknown, .entryVacuumCancelOutcomeUnknown]
  · rw [if_pos unknown] at returned
    exact congrArg aggregate (pure_eq_ok.1 returned)
  rw [if_neg unknown] at returned
  by_cases waiting : kernel.aggregate.status = .entryVacuumCancelPending ∧
      awaitsVacuumCancel kernel.commands.listForTicket entryVacuumId
  · rw [if_pos waiting] at returned
    exact congrArg aggregate (pure_eq_ok.1 returned)
  rw [if_neg waiting] at returned
  by_cases gone : kernel.aggregate.status = .entryVacuumCancelled
  · rw [if_pos gone] at returned
    unfold drainCancelled at returned
    dsimp only at returned
    split at returned
    · exact congrArg aggregate (pure_eq_ok.1 returned)
    rename_i policy
    split at returned
    · exact congrArg aggregate (pure_eq_ok.1 returned)
    rename_i fresh
    split at returned
    · exact congrArg aggregate (pure_eq_ok.1 returned)
    rename_i closed
    split at returned
    · rw [pure_eq_ok.1 returned]
    rename_i consistent
    exact absurd ⟨settled, unknown, waiting, fun _ => ⟨policy, fresh, closed, consistent⟩⟩ off
  · exact absurd ⟨settled, unknown, waiting, fun is => absurd is gone⟩ off

/-- On the branch of an ENTRY without a fill, a drain that goes on has a snapshot that is newer than
the stored one. -/
theorem newer_of_findsUnfilled (on : kernel.DrainsOn entryVacuumId nowMs reading)
    (unfilled : kernel.FindsUnfilled) : ∀ snapshot ∈ reading.positionSnapshot,
      ∃ prior ∈ reading.priorObservedAtMs, prior < snapshot.observedAtMs := by
  intro snapshot read
  obtain ⟨-, fresh, -⟩ := on.2.2.2 unfilled.1
  by_contra stale
  push Not at stale
  exact fresh ⟨unfilled.2, snapshot, read, .inl stale⟩

end Kernel

/-! ### Truth, and the order of delivery -/

namespace PositionState

variable (state : PositionState)

/-- A Ticket has one more event. -/
def Records (ticketId : String) (next : PositionState) : Prop :=
  ∃ kernel ∈ state.kernels ticketId, ∃ after ∈ next.kernels ticketId,
    kernel.aggregate.lastEventSequence < after.aggregate.lastEventSequence

/-- A work records an event on a Ticket, with a snapshot in hand. A drain does not look at its
snapshot while the ENTRY has not been dispatched. -/
inductive Derives (next : PositionState) : PositionWork → PositionSnapshot → Prop
  | reconcile {ticketId : String} {openIncidentKind : Option String} {snapshot : PositionSnapshot}
      (recorded : state.Records ticketId next) :
      Derives next (.reconcile ticketId openIncidentKind snapshot) snapshot
  | drain {ticketId : String} {entryVacuumId : NonBlankText} {nowMs : ℤ}
      {snapshot : PositionSnapshot} {exitPolicy : Option (ℚ × ℚ)}
      (recorded : state.Records ticketId next)
      (reads : ∀ kernel ∈ state.kernels ticketId,
        kernel.aggregate.status ∉ [.leveragePending, .leverageConfirmed, .entryPending]) :
      Derives next (.drain ticketId entryVacuumId nowMs (some snapshot) exitPolicy) snapshot
  | recoverLateFill {ticketId : String} {reading : LateFillReading}
      (recorded : state.Records ticketId next) :
      Derives next (.recoverLateFill ticketId reading) reading.position

/-- A snapshot is no older than what is stored for its netting domain. -/
def NotOlder (snapshot : PositionSnapshot) : Prop :=
  ∀ observed ∈ state.positions.observedAtMs snapshot.nettingDomain, observed ≤ snapshot.observedAtMs

/-- A step that moves no stored time back, and derives no event from an older snapshot. -/
def KeepsTruth (work : PositionWork) (next : PositionState) : Prop :=
  Forward PositionRow.observedAtMs state.positions next.positions ∧
    ∀ snapshot, state.Derives next work snapshot → state.NotOlder snapshot

/-- A snapshot that is written without a look at the stored time is no older than it. -/
def InOrder : PositionWork → Prop
  | .reconcile ticketId _ snapshot => ∀ kernel ∈ state.kernels ticketId,
      ¬ kernel.FindsLateFill snapshot → state.NotOlder snapshot
  | .drain ticketId entryVacuumId nowMs snapshot exitPolicy => ∀ kernel ∈ state.kernels ticketId,
      kernel.DrainsOn entryVacuumId nowMs (state.vacuumReading kernel snapshot exitPolicy) →
        ¬ kernel.FindsUnfilled → ∀ read ∈ snapshot, state.NotOlder read
  | .recoverLateFill _ _ | .elsewhere _ => True

variable {state} {next : PositionState}

theorem kernels_put {ticketId : String} {kernel : Kernel} {written : Option PositionSnapshot} :
    (state.put ticketId kernel written).kernels ticketId = some kernel := by
  unfold put
  exact Function.update_self ..

/-- An upsert moves no stored time back exactly where its snapshot is no older. -/
theorem forward_put_iff {ticketId : String} {kernel : Kernel} {snapshot : PositionSnapshot} :
    Forward PositionRow.observedAtMs state.positions
      (state.put ticketId kernel (some snapshot)).positions ↔ state.NotOlder snapshot := by
  show Forward PositionRow.observedAtMs state.positions
    (state.positions.upsert ticketId snapshot) ↔ _
  unfold PositionTable.upsert NotOlder PositionTable.observedAtMs
  rw [forward_update_iff]
  constructor
  · intro later observed stored
    obtain ⟨row, there, rfl⟩ := Option.mem_map.1 stored
    exact later row there
  · intro later row there
    exact later row.observedAtMs (Option.mem_map.2 ⟨row, there, rfl⟩)

/-- A snapshot that is newer than the stored time of its own netting domain is not older. -/
theorem NotOlder.of_newer {kernel : Kernel} {snapshot : PositionSnapshot}
    (domain : snapshot.nettingDomain = kernel.aggregate.identity.nettingDomain)
    (newer : ∃ prior ∈ state.priorObservedAtMs kernel, prior < snapshot.observedAtMs) :
    state.NotOlder snapshot := by
  obtain ⟨prior, stored, earlier⟩ := newer
  intro observed there
  rw [domain] at there
  exact Option.mem_unique there stored ▸ earlier.le

/-- A step that leaves the aggregate of its Ticket records nothing. -/
theorem not_records {ticketId : String} {kernel after : Kernel} {written : Option PositionSnapshot}
    (found : state.kernels ticketId = some kernel) (same : after.aggregate = kernel.aggregate) :
    ¬ state.Records ticketId (state.put ticketId after written) := by
  rintro ⟨before, there, later, here, grown⟩
  obtain rfl := Option.mem_unique there found
  obtain rfl := Option.mem_unique here kernels_put
  rw [same] at grown
  exact lt_irrefl _ grown

theorem keepsTruth_reconcile_iff {ticketId : String} {openIncidentKind : Option String}
    {snapshot : PositionSnapshot} {kernel after : Kernel} (found : state.kernels ticketId = some kernel)
    (returned : kernel.reconcile (state.priorObservedAtMs kernel) openIncidentKind snapshot =
      .ok after) :
    state.KeepsTruth (.reconcile ticketId openIncidentKind snapshot)
        (state.put ticketId after
          (state.written kernel (.reconcile ticketId openIncidentKind snapshot))) ↔
      state.InOrder (.reconcile ticketId openIncidentKind snapshot) := by
  by_cases late : kernel.FindsLateFill snapshot
  · have unwritten : state.written kernel (.reconcile ticketId openIncidentKind snapshot) = none :=
      if_pos late
    rw [unwritten]
    constructor
    · intro _ other there unguarded
      exact absurd (Option.mem_unique there found ▸ late) unguarded
    · refine fun _ => ⟨Forward.refl _, fun _ derived => ?_⟩
      cases derived with
      | reconcile recorded =>
        have same := Kernel.same_of_findsLateFill returned late
        exact absurd recorded (not_records found (congrArg Kernel.aggregate same))
  · have written : state.written kernel (.reconcile ticketId openIncidentKind snapshot) =
        some snapshot := if_neg late
    rw [written]
    constructor
    · exact fun keeps _ _ _ => forward_put_iff.1 keeps.1
    · intro inOrder
      have fresh := inOrder kernel found late
      refine ⟨forward_put_iff.2 fresh, fun _ derived => ?_⟩
      cases derived
      exact fresh

theorem keepsTruth_drain_iff {ticketId : String} {entryVacuumId : NonBlankText} {nowMs : ℤ}
    {snapshot : Option PositionSnapshot} {exitPolicy : Option (ℚ × ℚ)} {kernel after : Kernel}
    (found : state.kernels ticketId = some kernel)
    (returned : kernel.drainEntryVacuum entryVacuumId nowMs
      (state.vacuumReading kernel snapshot exitPolicy) = .ok after) :
    state.KeepsTruth (.drain ticketId entryVacuumId nowMs snapshot exitPolicy)
        (state.put ticketId after
          (state.written kernel (.drain ticketId entryVacuumId nowMs snapshot exitPolicy))) ↔
      state.InOrder (.drain ticketId entryVacuumId nowMs snapshot exitPolicy) := by
  by_cases on : kernel.DrainsOn entryVacuumId nowMs (state.vacuumReading kernel snapshot exitPolicy)
  · have written : state.written kernel (.drain ticketId entryVacuumId nowMs snapshot exitPolicy) =
        snapshot := if_pos on
    rw [written]
    constructor
    · intro keeps _ _ _ _ read handed
      obtain rfl := Option.mem_def.1 handed
      exact forward_put_iff.1 keeps.1
    · intro inOrder
      have fresh : ∀ read ∈ snapshot, state.NotOlder read := by
        intro read handed
        by_cases unfilled : kernel.FindsUnfilled
        · exact .of_newer (Kernel.domain_of_drainsOn returned on read handed)
            (Kernel.newer_of_findsUnfilled on unfilled read handed)
        · exact inOrder kernel found on unfilled read handed
      constructor
      · cases snapshot with
        | none => exact Forward.refl _
        | some read => exact forward_put_iff.2 (fresh read rfl)
      · intro read derived
        cases derived
        exact fresh read rfl
  · have unwritten : state.written kernel (.drain ticketId entryVacuumId nowMs snapshot exitPolicy) =
        none := if_neg on
    rw [unwritten]
    constructor
    · intro _ other there goesOn
      exact absurd (Option.mem_unique there found ▸ goesOn) on
    · refine fun _ => ⟨Forward.refl _, fun _ derived => ?_⟩
      cases derived with
      | drain recorded reads =>
        have same := Kernel.same_of_not_drainsOn returned (reads kernel found) on
        exact absurd recorded (not_records found same)

/-- The recovery compares the times itself. -/
theorem keepsTruth_recoverLateFill {ticketId : String} {reading : LateFillReading}
    {kernel after : Kernel}
    (returned : kernel.recoverVacuumLateFill (state.priorObservedAtMs reading.seen) reading =
      .ok (some after)) :
    state.KeepsTruth (.recoverLateFill ticketId reading)
      (state.put ticketId after (state.written kernel (.recoverLateFill ticketId reading))) := by
  obtain ⟨domain, newer⟩ := Kernel.newer_of_recoverVacuumLateFill returned
  have fresh : state.NotOlder reading.position := .of_newer domain newer
  refine ⟨forward_put_iff.2 fresh, fun _ derived => ?_⟩
  cases derived
  exact fresh

/-- **Exactly the steps whose unguarded writes come in order keep position truth.** -/
theorem keepsTruth_iff_inOrder {work : PositionWork} (step : state.apply work = .ok next) :
    state.KeepsTruth work next ↔ state.InOrder work := by
  cases work with
  | reconcile ticketId openIncidentKind snapshot =>
    obtain ⟨kernel, found, step⟩ := demand_bind_eq_ok.1 step
    obtain ⟨after, returned, step⟩ := bind_eq_ok.1 step
    obtain rfl := pure_eq_ok.1 step
    exact keepsTruth_reconcile_iff found returned
  | drain ticketId entryVacuumId nowMs snapshot exitPolicy =>
    obtain ⟨kernel, found, step⟩ := demand_bind_eq_ok.1 step
    obtain ⟨after, returned, step⟩ := bind_eq_ok.1 step
    obtain rfl := pure_eq_ok.1 step
    exact keepsTruth_drain_iff found returned
  | recoverLateFill ticketId reading =>
    obtain ⟨kernel, found, step⟩ := demand_bind_eq_ok.1 step
    obtain ⟨recovered, returned, step⟩ := bind_eq_ok.1 step
    cases recovered with
    | some after =>
      obtain rfl := pure_eq_ok.1 step
      exact iff_of_true (keepsTruth_recoverLateFill returned) trivial
    | none =>
      obtain rfl := pure_eq_ok.1 step
      refine iff_of_true ⟨Forward.refl _, fun _ derived => ?_⟩ trivial
      cases derived with
      | recoverLateFill recorded =>
        obtain ⟨before, there, later, here, grown⟩ := recorded
        exact absurd grown (Option.mem_unique there here ▸ lt_irrefl _)
  | elsewhere kernels =>
    obtain rfl := pure_eq_ok.1 step
    exact iff_of_true ⟨Forward.refl _, fun _ derived => by cases derived⟩ trivial

/-! ### Runs -/

/-- A work that does not raise, and whose unguarded writes come in order. -/
def OrderedStep (state : PositionState) (work : PositionWork) (next : PositionState) : Prop :=
  state.apply work = .ok next ∧ state.InOrder work

/-- Along ordered steps no stored time moves back. -/
theorem forward_of_ordered {start : PositionState} {works : List PositionWork}
    (run : Run OrderedStep start works state) :
    Forward PositionRow.observedAtMs start.positions state.positions :=
  forward_of_run run fun step => ((keepsTruth_iff_inOrder step.1).2 step.2).1

/-- **Position truth moves forward.** Along a run whose unguarded writes come in order, no stored time
moves back, and the next step derives no event from a snapshot that is older than a row stored at any
time before. -/
theorem position_truth_moves_forward {start : PositionState} {works : List PositionWork}
    {work : PositionWork} (run : Run OrderedStep start works state)
    (step : OrderedStep state work next) :
    Forward PositionRow.observedAtMs start.positions next.positions ∧
      ∀ snapshot, state.Derives next work snapshot →
        ∀ observed ∈ start.positions.observedAtMs snapshot.nettingDomain,
          observed ≤ snapshot.observedAtMs := by
  have before := forward_of_ordered run
  obtain ⟨kept, fresh⟩ := (keepsTruth_iff_inOrder step.1).2 step.2
  refine ⟨before.trans kept, fun snapshot derived observed stored => ?_⟩
  obtain ⟨old, there, rfl⟩ := Option.mem_map.1 stored
  obtain ⟨row, here, later⟩ := before _ old there
  exact later.trans (fresh snapshot derived _ (Option.mem_map.2 ⟨row, here, rfl⟩))

end PositionState

/-! ### A live position, and snapshots of it -/

/-- No position, as it was before the fill. -/
def staleSnapshot : PositionSnapshot :=
  .flat sampleTicket.identity.nettingDomain 500 (by decide)

/-- The sample Ticket with the position of its fill. -/
def liveState (kernel : Kernel) : PositionState :=
  PositionState.put ⟨fun _ => none, fun _ => none⟩ "ticket" kernel (some filledSnapshot)

/-- What a kernel of a protected Ticket becomes once it is reconciled with a flat position. -/
def reconcilesTo (snapshot : PositionSnapshot) (kernel : Kernel) : Option Kernel :=
  (kernel.reconcile (some 1000) none snapshot).toOption

/-- The Ticket is protected, and a flat position closes it. -/
def closedBy (snapshot : PositionSnapshot) (kernel : Kernel) : Bool :=
  kernel.aggregate.identity.nettingDomain = sampleTicket.identity.nettingDomain ∧
    kernel.aggregate.status = .positionProtected ∧
    (reconcilesTo snapshot kernel).any fun after =>
      kernel.aggregate.lastEventSequence < after.aggregate.lastEventSequence ∧
        after.aggregate.status = .reconciliationPending ∧ after.aggregate.positionQty = 0

theorem closed_of_closedBy {snapshot : PositionSnapshot} {kernel : Kernel}
    (closed : closedBy snapshot kernel = true) :
    kernel.aggregate.status = .positionProtected ∧ ∃ after,
      kernel.reconcile ((liveState kernel).priorObservedAtMs kernel) none snapshot = .ok after ∧
      kernel.aggregate.lastEventSequence < after.aggregate.lastEventSequence ∧
      after.aggregate.status = .reconciliationPending ∧ after.aggregate.positionQty = 0 := by
  unfold closedBy at closed
  simp only [Bool.decide_and, Bool.and_eq_true, decide_eq_true_eq, Option.any_eq_true] at closed
  obtain ⟨domain, isProtected, after, reached, later, status, flat⟩ := closed
  refine ⟨isProtected, after, ?_, later, status, flat⟩
  have stored : (liveState kernel).priorObservedAtMs kernel = some 1000 := by
    unfold PositionState.priorObservedAtMs
    rw [domain]
    exact @PositionTable.observedAtMs_upsert _ "ticket" filledSnapshot
  rw [stored]
  exact toOption_eq_some.1 reached

/-- What a flat position makes of the state of a live Ticket, whatever its time. -/
theorem apply_of_reconcile {snapshot : PositionSnapshot} {kernel after : Kernel}
    (isProtected : kernel.aggregate.status = .positionProtected)
    (returned : kernel.reconcile ((liveState kernel).priorObservedAtMs kernel) none snapshot =
      .ok after) :
    (liveState kernel).apply (.reconcile "ticket" none snapshot) =
      .ok ((liveState kernel).put "ticket" after (some snapshot)) := by
  have found : (liveState kernel).kernels "ticket" = some kernel := PositionState.kernels_put
  have unguarded : ¬ kernel.FindsLateFill snapshot := by
    rintro ⟨absent, -⟩
    rw [isProtected] at absent
    exact absurd absent (by decide)
  refine demand_bind_eq_ok.2 ⟨kernel, found, bind_eq_ok.2 ⟨after, returned, ?_⟩⟩
  have written : (liveState kernel).written kernel (.reconcile "ticket" none snapshot) =
      some snapshot := if_neg unguarded
  rw [written]
  rfl

/-- The protected Ticket, which a flat position closes whether it is stale or of the fill's time. -/
theorem exists_protectedRun : ∃ start kernel,
    KernelRun (fun _ _ => True) start protectedActions kernel ∧
      closedBy staleSnapshot kernel = true ∧ closedBy emptySnapshot kernel = true := by
  obtain ⟨start, kernel, run, tested⟩ := exists_kernelRun (fun _ _ => True) protectedActions
    (fun kernel => closedBy staleSnapshot kernel && closedBy emptySnapshot kernel)
    (by decide +kernel)
  exact ⟨start, kernel, run, (Bool.and_eq_true _ _).mp tested⟩

/-- **A stale flat position closes a live one**, and moves the stored time back. -/
theorem stale_flat_closes_live_position : ∃ start kernel next,
    KernelRun (fun _ _ => True) start protectedActions kernel ∧
    kernel.aggregate.status = .positionProtected ∧
    (liveState kernel).apply (.reconcile "ticket" none staleSnapshot) = .ok next ∧
    (liveState kernel).Derives next (.reconcile "ticket" none staleSnapshot) staleSnapshot ∧
    (∃ after ∈ next.kernels "ticket", after.aggregate.status = .reconciliationPending ∧
      after.aggregate.positionQty = 0) ∧
    (liveState kernel).positions.observedAtMs staleSnapshot.nettingDomain = some 1000 ∧
    next.positions.observedAtMs staleSnapshot.nettingDomain = some 500 := by
  obtain ⟨start, kernel, run, tested, -⟩ := exists_protectedRun
  obtain ⟨isProtected, after, returned, later, status, flat⟩ := closed_of_closedBy tested
  let next := (liveState kernel).put "ticket" after (some staleSnapshot)
  have found : (liveState kernel).kernels "ticket" = some kernel :=
    PositionState.kernels_put
  have there : next.kernels "ticket" = some after := PositionState.kernels_put
  refine ⟨start, kernel, next, run, isProtected, apply_of_reconcile isProtected returned,
    .reconcile ⟨kernel, found, after, there, later⟩, ⟨after, there, status, flat⟩, ?_, ?_⟩
  · exact @PositionTable.observedAtMs_upsert _ "ticket" filledSnapshot
  · exact @PositionTable.observedAtMs_upsert _ "ticket" staleSnapshot

/-- A live position that is closed by a snapshot of the time of its fill. -/
theorem position_truth_moves_forward_of_fill : ∃ kernel next,
    (liveState kernel).apply (.reconcile "ticket" none emptySnapshot) = .ok next ∧
    Forward PositionRow.observedAtMs (liveState kernel).positions next.positions ∧
    ∀ snapshot, (liveState kernel).Derives next (.reconcile "ticket" none emptySnapshot) snapshot →
      ∀ observed ∈ (liveState kernel).positions.observedAtMs snapshot.nettingDomain,
        observed ≤ snapshot.observedAtMs := by
  obtain ⟨start, kernel, run, -, tested⟩ := exists_protectedRun
  obtain ⟨isProtected, after, returned, -⟩ := closed_of_closedBy tested
  have applied := apply_of_reconcile isProtected returned
  have inOrder : (liveState kernel).InOrder (.reconcile "ticket" none emptySnapshot) := by
    intro _ _ _ observed stored
    have at_fill : (liveState kernel).positions.observedAtMs emptySnapshot.nettingDomain =
        some 1000 := @PositionTable.observedAtMs_upsert _ "ticket" filledSnapshot
    exact (Option.mem_unique stored at_fill).le
  exact ⟨kernel, _, applied, PositionState.position_truth_moves_forward .nil ⟨applied, inOrder⟩⟩

end TradingKernel
