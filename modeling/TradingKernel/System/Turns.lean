/-
**From and to of the events of a Ticket, with the commands they ask for.**

The statuses between which an event leads, the slots of the commands it asks for, and whether it
finds an unknown cancel absent, are a `Turn`. `answerTurns` lists the turns of the facts that report
the outcome of a command, and `volunteerTurns` those of the facts that no command is behind; both
lists are complete (`turn_of_answers`, `turn_of_volunteers`). What every turn respects can be decided
by running through them.
-/

import TradingKernel.Application.AwaitedCommands
import TradingKernel.Domain.Sources
import TradingKernel.System.Work

namespace TradingKernel

open Text Reducer

/-! ### Slots and statuses -/

namespace CommandSlot

/-- The status that an unknown outcome of the slot's command leaves its Ticket in. -/
def unknownStatus : CommandSlot → AggregateStatus
  | setLeverage => .leverageOutcomeUnknown
  | entry => .entryOutcomeUnknown
  | initialStop => .initialStopOutcomeUnknown
  | takeProfit => .tp1OutcomeUnknown
  | exit => .exitOutcomeUnknown
  | replaceProtection => .runnerReplacementOutcomeUnknown
  | controlledFlatten => .controlledFlattenOutcomeUnknown
  | cancel purpose => purpose.unknownStatus

/-- The statuses that wait for the outcome of the slot's command. -/
def servingStatuses (slot : CommandSlot) : List AggregateStatus :=
  slot.unknownStatus :: slot.applicableStatuses

def isCancel : CommandSlot → Bool
  | cancel _ => true
  | _ => false

end CommandSlot

/-! ### Turns -/

/-- The statuses an event leads between, the slots of the commands it asks for, and whether it finds
an unknown cancel absent. -/
structure Turn where
  source : AggregateStatus
  target : AggregateStatus
  asks : List CommandSlot := []
  marks : Bool := false
  deriving DecidableEq

/-- The slots of the commands that the effects ask for. -/
def askedSlots (effects : List KernelEffect) : List CommandSlot :=
  (requests effects).filterMap KernelEffect.slot

/-- The turn of a reduction. -/
def Reduction.turn (result : Reduction) (source : AggregateStatus) : Turn where
  source := source
  target := result.aggregate.status
  asks := askedSlots result.effects
  marks := absentCancels result.effects ≠ []

/-- The same turn from each of several statuses. -/
def turnsFrom (sources : List AggregateStatus) (target : AggregateStatus)
    (asks : List CommandSlot := []) : List Turn :=
  sources.map fun source => ⟨source, target, asks, false⟩

/-- A position without a stop is flattened, or it exits. -/
def unprotectedTurns (source : AggregateStatus) : List Turn :=
  [⟨source, .controlledFlattenPending, [.controlledFlatten], false⟩,
    ⟨source, .exitPending, [.exit], false⟩]

/-- The turns of the outcome of a command. -/
def answerTurns : CommandSlot → CommandOutcome → List Turn
  | .setLeverage, .confirmed =>
      turnsFrom [.leveragePending, .leverageOutcomeUnknown] .leverageConfirmed [.entry]
  | .setLeverage, .refused =>
      turnsFrom [.leveragePending, .leverageOutcomeUnknown] .leverageRejected
  | .setLeverage, .unknown => turnsFrom [.leveragePending] .leverageOutcomeUnknown
  | .entry, .confirmed =>
      turnsFrom [.entryPending, .leverageConfirmed, .entryOutcomeUnknown] .entryAccepted
  | .entry, .refused => turnsFrom [.entryPending, .leverageConfirmed] .entryRejected
  | .entry, .unknown => turnsFrom [.entryPending, .leverageConfirmed] .entryOutcomeUnknown
  | .entry, .absent => turnsFrom [.entryOutcomeUnknown] .entryReconciledAbsent
  | .initialStop, .confirmed =>
      turnsFrom [.protectionPending, .initialStopOutcomeUnknown] .controlledFlattenPending
          [.controlledFlatten] ++
        turnsFrom [.protectionPending, .initialStopOutcomeUnknown] .postFillRiskPending
  | .initialStop, .refused => unprotectedTurns .protectionPending
  | .initialStop, .unknown => turnsFrom [.protectionPending] .initialStopOutcomeUnknown
  | .initialStop, .absent => unprotectedTurns .initialStopOutcomeUnknown
  | .takeProfit, .confirmed =>
      turnsFrom [.tp1Pending, .postFillRiskPending, .tp1OutcomeUnknown] .positionProtected
  | .takeProfit, .refused => turnsFrom [.tp1Pending] .tp1Rejected
  | .takeProfit, .unknown => turnsFrom [.tp1Pending] .tp1OutcomeUnknown
  | .takeProfit, .absent => turnsFrom [.tp1OutcomeUnknown] .tp1Pending [.takeProfit]
  | .replaceProtection, .confirmed =>
      turnsFrom [.runnerReplacementPending, .runnerReplacementOutcomeUnknown]
        .runnerOldStopCancelPending [.cancel .runnerOldStop]
  | .replaceProtection, .refused => turnsFrom [.runnerReplacementPending] .runnerReplacementRejected
  | .replaceProtection, .unknown =>
      turnsFrom [.runnerReplacementPending] .runnerReplacementOutcomeUnknown
  | .replaceProtection, .absent =>
      turnsFrom [.runnerReplacementOutcomeUnknown] .runnerReplacementPending [.replaceProtection]
  | .exit, .confirmed => turnsFrom [.exitPending, .exitOutcomeUnknown] .exitAccepted
  | .exit, .refused => turnsFrom [.exitPending] .exitRejected
  | .exit, .unknown => turnsFrom [.exitPending] .exitOutcomeUnknown
  | .exit, .absent => turnsFrom [.exitOutcomeUnknown] .exitRejected
  | .controlledFlatten, .confirmed =>
      turnsFrom [.controlledFlattenPending, .controlledFlattenOutcomeUnknown]
        .controlledFlattenAccepted
  | .controlledFlatten, .refused => turnsFrom [.controlledFlattenPending] .controlledFlattenRejected
  | .controlledFlatten, .unknown =>
      turnsFrom [.controlledFlattenPending] .controlledFlattenOutcomeUnknown
  | .controlledFlatten, .absent =>
      turnsFrom [.controlledFlattenOutcomeUnknown] .controlledFlattenRejected
  | .cancel .entryRemainder, .confirmed =>
      [⟨.partialFillIncident, .controlledFlattenPending, [.controlledFlatten], false⟩,
        ⟨.partialFillCancelOutcomeUnknown, .controlledFlattenPending, [.controlledFlatten], true⟩]
  | .cancel .entryRemainder, .refused => turnsFrom [.partialFillIncident] .partialFillCancelRejected
  | .cancel .entryRemainder, .unknown =>
      turnsFrom [.partialFillIncident] .partialFillCancelOutcomeUnknown
  | .cancel .selectionVacuumEntry, .confirmed =>
      [⟨.entryVacuumCancelPending, .entryVacuumCancelPending, [], false⟩,
        ⟨.entryVacuumCancelOutcomeUnknown, .entryVacuumCancelPending, [], true⟩]
  | .cancel .selectionVacuumEntry, .refused =>
      turnsFrom [.entryVacuumCancelPending, .entryVacuumCancelOutcomeUnknown]
        .entryVacuumCancelRejected
  | .cancel .selectionVacuumEntry, .unknown =>
      turnsFrom [.entryVacuumCancelPending] .entryVacuumCancelOutcomeUnknown
  | .cancel .runnerOldStop, .confirmed => turnsFrom [.runnerOldStopCancelPending] .runnerProtected
  | .cancel .runnerOldStop, .refused =>
      turnsFrom [.runnerOldStopCancelPending] .runnerOldStopCancelRejected
  | .cancel .runnerOldStop, .unknown =>
      turnsFrom [.runnerOldStopCancelPending] .runnerOldStopCancelOutcomeUnknown
  | .cancel .runnerOldStop, .absent =>
      [⟨.runnerOldStopCancelOutcomeUnknown, .runnerProtected, [], true⟩]
  | .cancel .reconciliationCleanup, .confirmed =>
      turnsFrom [.reconciliationPending] .reconciliationPending
  | .cancel .reconciliationCleanup, .refused =>
      turnsFrom [.reconciliationPending, .cancelOutcomeUnknown] .cancelRejected
  | .cancel .reconciliationCleanup, .unknown =>
      turnsFrom [.reconciliationPending] .cancelOutcomeUnknown
  | .cancel .reconciliationCleanup, .absent =>
      [⟨.cancelRejected, .reconciliationPending, [], false⟩,
        ⟨.cancelOutcomeUnknown, .reconciliationPending, [], true⟩]
  | _, _ => []

section Turns

variable {current : TradeAggregate} {event : TicketEvent} {fact : TicketFact} {result : Reduction}
  {status target : AggregateStatus} {updates : TradeAggregate → TradeAggregate}
  {effects first : List KernelEffect} {turns : List Turn}

@[simp] theorem askedSlots_nil : askedSlots [] = [] := rfl

@[simp] theorem askedSlots_append : askedSlots (first ++ effects) =
    askedSlots first ++ askedSlots effects := by
  rw [askedSlots, requests_append, List.filterMap_append]
  rfl

@[simp] theorem absentCancels_nil : absentCancels [] = [] := rfl

@[simp] theorem absentCancels_append : absentCancels (first ++ effects) =
    absentCancels first ++ absentCancels effects := List.filterMap_append

@[simp] theorem askedSlots_resolveFrom (unknown : AggregateStatus) (kind : String) :
    askedSlots (current.resolveFrom unknown kind) = [] := by
  rw [askedSlots, requests_resolveFrom, List.filterMap_nil]

@[simp] theorem absentCancels_resolveFrom (unknown : AggregateStatus) (kind : String) :
    absentCancels (current.resolveFrom unknown kind) = [] := by
  unfold TradeAggregate.resolveFrom
  split_ifs <;> rfl

@[simp] theorem askedSlots_resolveCancelFrom (unknown : AggregateStatus) (id kind : String) :
    askedSlots (current.resolveCancelFrom unknown id kind) = [] := by
  rw [askedSlots, requests_resolveCancelFrom, List.filterMap_nil]

theorem absentCancels_resolveCancelFrom (unknown : AggregateStatus) (id kind : String) :
    absentCancels (current.resolveCancelFrom unknown id kind) =
      if current.status = unknown then [id] else [] := by
  unfold TradeAggregate.resolveCancelFrom
  split_ifs <;> rfl

/-- The turn of a transition. -/
theorem turn_transition (status : AggregateStatus) : (transition current event target updates
    effects).turn status =
      ⟨status, target, askedSlots effects, decide (absentCancels effects ≠ [])⟩ := rfl

/-- A turn from one of several statuses, whose effects ask for some commands and find none
absent. -/
theorem turn_mem {sources : List AggregateStatus} (asks : List CommandSlot)
    (member : current.status ∈ sources) (asked : askedSlots effects = asks)
    (silent : absentCancels effects = [])
    (listed : ∀ source ∈ sources, (⟨source, target, asks, false⟩ : Turn) ∈ turns) :
    (transition current event target updates effects).turn current.status ∈ turns := by
  rw [turn_transition, asked, silent]
  exact listed _ member

/-- A report: no command is asked for. -/
theorem turn_reported {guard : Reduced Unit} {reason required kind : String}
    {sources : List AggregateStatus}
    (reduced : reported current event guard reason required target kind = .ok result)
    (member : guard = .ok () → current.status ∈ sources)
    (listed : ∀ source ∈ sources, (⟨source, target, [], false⟩ : Turn) ∈ turns) :
    result.turn current.status ∈ turns := by
  obtain ⟨passed, -, rfl⟩ := reported_eq_ok.mp reduced
  exact turn_mem [] (member passed) rfl rfl listed

/-- The order of a report from a single status. -/
theorem status_of_held {source : AggregateStatus} {id mismatch : String} {held : Option String}
    (passed : (do requireStatus current source; requireSameOrder id held mismatch) = .ok ()) :
    current.status ∈ [source] :=
  List.mem_singleton.mpr (requireStatus_bind_eq_ok.mp passed).1

theorem turn_accepted {expected : List AggregateStatus} {id required kind : String}
    {unknown : AggregateStatus} {record : String → TradeAggregate → TradeAggregate}
    (reduced : orderAccepted current event expected id required target record unknown kind =
      .ok result)
    (listed : ∀ source ∈ expected, (⟨source, target, [], false⟩ : Turn) ∈ turns) :
    result.turn current.status ∈ turns := by
  obtain ⟨member, -, rfl⟩ := orderAccepted_eq_ok.mp reduced
  exact turn_mem [] member (askedSlots_resolveFrom ..) (absentCancels_resolveFrom ..) listed

theorem turn_closedUnfilled {sources : List AggregateStatus} (member : current.status ∈ sources)
    (asked : askedSlots first = []) (silent : absentCancels first = [])
    (listed : ∀ source ∈ sources, (⟨source, target, [], false⟩ : Turn) ∈ turns) :
    (closedUnfilled current event target updates first).turn current.status ∈ turns := by
  refine turn_mem [] member ?_ ?_ listed
  · rw [askedSlots_append, asked]
    rfl
  · rw [absentCancels_append, silent]
    rfl

theorem turn_initialStopMissing {partialKind kind : String} (asked : askedSlots first = [])
    (silent : absentCancels first = []) (at_source : current.status = status) :
    (initialStopMissing current event first partialKind kind).turn current.status ∈
      unprotectedTurns status := by
  have member : current.status ∈ [status] := List.mem_singleton.mpr at_source
  unfold initialStopMissing
  split_ifs
  · refine turn_mem [.controlledFlatten] member ?_ ?_ (by simp [unprotectedTurns])
    · rw [askedSlots_append, asked]
      rfl
    · rw [absentCancels_append, silent]
      rfl
  · refine turn_mem [.exit] member ?_ ?_ (by simp [unprotectedTurns])
    · rw [askedSlots_append, asked]
      rfl
    · rw [absentCancels_append, silent]
      rfl

theorem single {done : Unit} (passed : requireStatus current status = .ok done) :
    current.status ∈ [status] :=
  List.mem_singleton.mpr (requireStatus_eq_ok.mp passed)

/-- A cleanup cancel whose target is gone, after a refusal or an unknown outcome. -/
theorem turn_cancelAbsence {id kind : String}
    (member : current.status ∈ [.cancelRejected, .cancelOutcomeUnknown])
    (listed : ∀ turn ∈ ([⟨.cancelRejected, .reconciliationPending, [], false⟩,
      ⟨.cancelOutcomeUnknown, .reconciliationPending, [], true⟩] : List Turn), turn ∈ turns) :
    (cleared current event id
      (current.resolveCancelFrom .cancelOutcomeUnknown id kind)).turn current.status ∈ turns := by
  rw [cleared, turn_transition, askedSlots_resolveCancelFrom, absentCancels_resolveCancelFrom]
  refine listed _ ?_
  rcases List.mem_pair.mp member with status | status
  all_goals
    rw [status]
    simp

/-- **The outcome of a command leads along one of its turns.** -/
theorem turn_of_answers {slot : CommandSlot} {outcome : CommandOutcome}
    (reduced : reduceFact current event fact = .ok result)
    (answers : fact.answers = some (slot, outcome))
    (placed : outcome = .confirmed → ∀ purpose, slot = .cancel purpose →
      current.status ∈ [purpose.applicableStatus, purpose.unknownStatus]) :
    result.turn current.status ∈ answerTurns slot outcome := by
  cases fact <;> first
    | (obtain ⟨rfl, rfl⟩ := Prod.mk.inj (Option.some.inj answers))
    | (simp only [TicketFact.answers, reduceCtorEq] at answers)
  case leverageConfirmed fact =>
    obtain ⟨member, -, rfl⟩ := leverageConfirmed_eq_ok.mp reduced
    exact turn_mem [.entry] member (by rw [askedSlots_append, askedSlots_resolveFrom]; rfl)
      (by rw [absentCancels_append, absentCancels_resolveFrom]; rfl) (by decide)
  case leverageRejected reason =>
    obtain ⟨member, rfl⟩ := leverageRejected_eq_ok.mp reduced
    exact turn_closedUnfilled member (askedSlots_resolveFrom ..) (absentCancels_resolveFrom ..)
      (by decide)
  case leverageOutcomeUnknown reason => exact turn_reported reduced single (by decide)
  case entryAccepted id => exact turn_accepted reduced (by decide)
  case entryRejected reason =>
    obtain ⟨member, rfl⟩ := entryRejected_eq_ok.mp reduced
    exact turn_closedUnfilled member rfl rfl (by decide)
  case entryOutcomeUnknown reason =>
    exact turn_reported reduced requireStatusIn_eq_ok.mp (by decide)
  case entryAbsenceConfirmed commandId =>
    obtain ⟨status, -, returned⟩ := absenceConfirmed_eq_ok.mp reduced
    obtain rfl := Except.ok.inj returned
    exact turn_closedUnfilled (List.mem_singleton.mpr status) rfl rfl (by decide)
  case entryRemainderCancelConfirmed id =>
    obtain ⟨member, -, rfl⟩ := entryRemainderCancelConfirmed_eq_ok.mp reduced
    have asked : askedSlots [.prepareControlledFlattenCommand current.ticketId
      current.positionQty] = [.controlledFlatten] := rfl
    rw [turn_transition, askedSlots_append, askedSlots_resolveCancelFrom, asked,
      absentCancels_append, absentCancels_resolveCancelFrom]
    rcases List.mem_pair.mp member with status | status
    all_goals
      rw [status]
      simp [answerTurns, absentCancels]
  case entryRemainderCancelRejected id reason =>
    exact turn_reported reduced status_of_held (by decide)
  case entryRemainderCancelOutcomeUnknown id reason =>
    exact turn_reported reduced status_of_held (by decide)
  case entryVacuumCancelConfirmed id =>
    obtain ⟨member, -, rfl⟩ := entryVacuumCancelConfirmed_eq_ok.mp reduced
    rw [turn_transition, askedSlots_resolveCancelFrom, absentCancels_resolveCancelFrom]
    rcases List.mem_pair.mp member with status | status
    all_goals
      rw [status]
      simp [answerTurns]
  case entryVacuumCancelRejected id reason =>
    obtain ⟨member, -, rfl⟩ := entryVacuumCancelRejected_eq_ok.mp reduced
    exact turn_mem [] member (by rw [askedSlots_append, askedSlots_resolveFrom]; rfl)
      (by rw [absentCancels_append, absentCancels_resolveFrom]; rfl) (by decide)
  case entryVacuumCancelOutcomeUnknown id reason =>
    obtain ⟨status, -, rfl⟩ := entryVacuumCancelOutcomeUnknown_eq_ok.mp reduced
    exact turn_mem [] (List.mem_singleton.mpr status) rfl rfl (by decide)
  case initialStopConfirmed id quantity =>
    obtain ⟨member, -, -, rfl⟩ := initialStopConfirmed_eq_ok.mp reduced
    unfold stopConfirmed
    split_ifs
    · exact turn_mem [.controlledFlatten] member rfl rfl (by decide)
    · exact turn_mem [] member (askedSlots_resolveFrom ..) (absentCancels_resolveFrom ..)
        (by decide)
  case initialStopRejected reason =>
    obtain ⟨status, -, rfl⟩ := initialStopRejected_eq_ok.mp reduced
    exact turn_initialStopMissing rfl rfl status
  case initialStopOutcomeUnknown reason => exact turn_reported reduced single (by decide)
  case initialStopAbsenceConfirmed commandId =>
    obtain ⟨status, -, returned⟩ := absenceConfirmed_eq_ok.mp reduced
    obtain rfl := Except.ok.inj returned
    exact turn_initialStopMissing rfl rfl status
  case takeProfitConfirmed id quantity =>
    obtain ⟨member, -, -, rfl⟩ := takeProfitConfirmed_eq_ok.mp reduced
    exact turn_mem [] member (askedSlots_resolveFrom ..) (absentCancels_resolveFrom ..) (by decide)
  case takeProfitRejected reason => exact turn_reported reduced single (by decide)
  case takeProfitOutcomeUnknown reason => exact turn_reported reduced single (by decide)
  case takeProfitAbsenceConfirmed commandId =>
    obtain ⟨status, -, limitPrice, -, rfl⟩ := takeProfitAbsenceConfirmed_eq_ok.mp reduced
    exact turn_mem [.takeProfit] (List.mem_singleton.mpr status) rfl rfl (by decide)
  case protectionReplacementConfirmed fact =>
    obtain ⟨member, -, -, -, -, rfl⟩ := protectionReplacementConfirmed_eq_ok.mp reduced
    exact turn_mem [.cancel .runnerOldStop] member
      (by rw [askedSlots_append, askedSlots_resolveFrom]; rfl)
      (by rw [absentCancels_append, absentCancels_resolveFrom]; rfl) (by decide)
  case protectionReplacementRejected reason => exact turn_reported reduced single (by decide)
  case protectionReplacementOutcomeUnknown reason => exact turn_reported reduced single (by decide)
  case protectionReplacementAbsenceConfirmed commandId =>
    obtain ⟨status, -, activeStop, -, stopPrice, -, watermarkMs, -, rfl⟩ :=
      protectionReplacementAbsenceConfirmed_eq_ok.mp reduced
    exact turn_mem [.replaceProtection] (List.mem_singleton.mpr status) rfl rfl (by decide)
  case exitAccepted id => exact turn_accepted reduced (by decide)
  case exitRejected reason => exact turn_reported reduced single (by decide)
  case exitOutcomeUnknown reason => exact turn_reported reduced single (by decide)
  case exitAbsenceConfirmed commandId =>
    obtain ⟨status, -, returned⟩ := absenceConfirmed_eq_ok.mp reduced
    obtain rfl := Except.ok.inj returned
    exact turn_mem [] (List.mem_singleton.mpr status) rfl rfl (by decide)
  case controlledFlattenAccepted id => exact turn_accepted reduced (by decide)
  case controlledFlattenRejected reason => exact turn_reported reduced single (by decide)
  case controlledFlattenOutcomeUnknown reason => exact turn_reported reduced single (by decide)
  case controlledFlattenAbsenceConfirmed commandId =>
    obtain ⟨status, -, returned⟩ := absenceConfirmed_eq_ok.mp reduced
    obtain rfl := Except.ok.inj returned
    exact turn_mem [] (List.mem_singleton.mpr status) rfl rfl (by decide)
  case protectionCancelConfirmed id =>
    obtain ⟨status, -, rfl⟩ | ⟨status, -, -, rfl⟩ := protectionCancelConfirmed_eq_ok.mp reduced
    · exact turn_mem [] (List.mem_singleton.mpr status) rfl rfl (by decide)
    · have place := placed rfl _ rfl
      simp [status, CancelPurpose.applicableStatus, CancelPurpose.unknownStatus] at place
  case protectionCancelRejected id reason =>
    exact turn_reported reduced status_of_held (by decide)
  case protectionCancelOutcomeUnknown id reason =>
    exact turn_reported reduced status_of_held (by decide)
  case protectionCancelAbsenceConfirmed id =>
    obtain ⟨status, -, rfl⟩ := protectionCancelAbsenceConfirmed_eq_ok.mp reduced
    rw [turn_transition, status]
    simp [answerTurns, absentCancels, askedSlots, requests, KernelEffect.asksCommand,
      TradeAggregate.resolveIncident]
  case ownedOrphanCancelConfirmed id =>
    obtain ⟨status, -, -, rfl⟩ := ownedOrphanCancelConfirmed_eq_ok.mp reduced
    exact turn_mem [] (List.mem_singleton.mpr status) rfl rfl (by decide)
  case cancelOrderRejected id reason => exact turn_reported reduced status_of_held (by decide)
  case cancelOrderOutcomeUnknown id reason => exact turn_reported reduced status_of_held (by decide)
  case cancelOrderAbsenceConfirmed id =>
    obtain ⟨member, -, rfl⟩ := cancelOrderAbsenceConfirmed_eq_ok.mp reduced
    exact turn_cancelAbsence member (by decide)
  case cancelOrderStillOpenConfirmed id =>
    obtain ⟨status, -, rfl⟩ := cancelOrderStillOpenConfirmed_eq_ok.mp reduced
    exact turn_mem [] (List.mem_singleton.mpr status) rfl rfl (by decide)

/-! ### Cancels found absent -/

/-- No turn of a list finds a cancel absent. -/
theorem silent_of_turn {source : AggregateStatus} (listed : result.turn source ∈ turns)
    (silent : ∀ turn ∈ turns, turn.marks = false) : absentCancels result.effects = [] := by
  have quiet : decide (absentCancels result.effects ≠ []) = false := silent _ listed
  simpa using quiet

/-- **An outcome that finds a cancel absent does so in the status of its unknown outcome, and names
the order that the cancel's purpose is about.** -/
theorem absentCancels_of_answers {slot : CommandSlot} {outcome : CommandOutcome}
    (reduced : reduceFact current event fact = .ok result)
    (answers : fact.answers = some (slot, outcome))
    (placed : outcome = .confirmed → ∀ purpose, slot = .cancel purpose →
      current.status ∈ [purpose.applicableStatus, purpose.unknownStatus]) :
    absentCancels result.effects = [] ∨ ∃ purpose id, slot = .cancel purpose ∧
      current.status = purpose.unknownStatus ∧ purpose.target current = some id ∧
      absentCancels result.effects = [id] := by
  have turn := turn_of_answers reduced answers placed
  cases fact <;> first
    | (obtain ⟨rfl, rfl⟩ := Prod.mk.inj (Option.some.inj answers))
    | (simp only [TicketFact.answers, reduceCtorEq] at answers)
  case entryRemainderCancelConfirmed id =>
    obtain ⟨-, held, rfl⟩ := entryRemainderCancelConfirmed_eq_ok.mp reduced
    have marks : absentCancels (current.resolveCancelFrom .partialFillCancelOutcomeUnknown id
        "entry_remainder_cancel_outcome_unknown" ++
          [.prepareControlledFlattenCommand current.ticketId current.positionQty]) =
        if current.status = .partialFillCancelOutcomeUnknown then [id] else [] := by
      rw [absentCancels_append, absentCancels_resolveCancelFrom]
      exact List.append_nil _
    rw [transition_effects, marks]
    by_cases unknown : current.status = .partialFillCancelOutcomeUnknown
    · exact .inr ⟨.entryRemainder, id, rfl, unknown, held, if_pos unknown⟩
    · exact .inl (if_neg unknown)
  case entryVacuumCancelConfirmed id =>
    obtain ⟨-, held, rfl⟩ := entryVacuumCancelConfirmed_eq_ok.mp reduced
    rw [transition_effects, absentCancels_resolveCancelFrom]
    by_cases unknown : current.status = .entryVacuumCancelOutcomeUnknown
    · exact .inr ⟨.selectionVacuumEntry, id, rfl, unknown, held, if_pos unknown⟩
    · exact .inl (if_neg unknown)
  case protectionCancelAbsenceConfirmed id =>
    obtain ⟨status, held, rfl⟩ := protectionCancelAbsenceConfirmed_eq_ok.mp reduced
    exact .inr ⟨.runnerOldStop, id, rfl, status, held, rfl⟩
  case cancelOrderAbsenceConfirmed id =>
    obtain ⟨-, held, rfl⟩ := cancelOrderAbsenceConfirmed_eq_ok.mp reduced
    rw [cleared, transition_effects, absentCancels_resolveCancelFrom]
    by_cases unknown : current.status = .cancelOutcomeUnknown
    · exact .inr ⟨.reconciliationCleanup, id, rfl, unknown, held, if_pos unknown⟩
    · exact .inl (if_neg unknown)
  all_goals exact .inl (silent_of_turn turn (by decide))

end Turns

/-! ### Volunteered facts -/

/-- A position with its stop to be placed, or to be flattened at once. -/
def filledTurns (source : AggregateStatus) : List Turn :=
  [⟨source, .protectionPending, [.initialStop], false⟩,
    ⟨source, .controlledFlattenPending, [.controlledFlatten], false⟩]

/-- The turns of the facts that no command is behind, but for those of a reconciliation. -/
def volunteerTurns : List Turn :=
  filledTurns .entryAccepted ++ filledTurns .entryVacuumCancelled ++
    turnsFrom [.entryAccepted] .partialFillIncident [.cancel .entryRemainder] ++
    turnsFrom exitStatuses .reconciliationPending ++
    turnsFrom (exitStatuses ++ externalFlatStatuses ++ [.cancelRejected]) .reconciliationPending
      [.cancel .reconciliationCleanup] ++
    turnsFrom [.postFillRiskPending] .controlledFlattenPending [.controlledFlatten] ++
    turnsFrom [.postFillRiskPending] .tp1Pending [.takeProfit] ++
    turnsFrom [.positionProtected, .runnerProtected] .runnerReplacementPending
      [.replaceProtection] ++
    turnsFrom [.positionProtected, .runnerProtected, .exitRejected] .exitPending [.exit] ++
    turnsFrom [.settlementPending] .reviewPending ++
    turnsFrom [.reviewPending, .terminal] .terminal ++
    turnsFrom [.entryAccepted, .entryVacuumCancelRejected] .entryVacuumCancelPending
      [.cancel .selectionVacuumEntry] ++
    turnsFrom openEntryStatuses .entryVacuumCancelled ++
    turnsFrom [.entryVacuumCancelled] .entryReconciledAbsent

/-- The turns of a reconciliation that no cancel is pending in. -/
def cleanupTurns : List Turn :=
  turnsFrom [.reconciliationPending] .reconciliationPending ++
    turnsFrom [.reconciliationPending] .reconciliationPending [.cancel .reconciliationCleanup] ++
    turnsFrom [.reconciliationPending] .settlementPending

section Volunteers

variable {kernel : Kernel} {work : Work} {event : TicketEvent} {fact : TicketFact}
  {result : Reduction}

theorem turn_of_entryFilled {current : TradeAggregate} {source : AggregateStatus}
    {filled : EntryFilled} (at_source : current.status = source) :
    (transition current event (entryFilledTarget filled) (postFillUpdates filled)
      (entryFilledEffects current filled)).turn current.status ∈ filledTurns source := by
  rw [turn_transition, at_source]
  unfold entryFilledTarget entryFilledEffects
  cases filled.postFillRisk.disposition with
  | normal => exact List.mem_cons_self
  | flattenAfterProtection => exact List.mem_cons_self
  | flattenImmediately => exact List.mem_cons_of_mem _ List.mem_cons_self

theorem turn_of_flattened {current : TradeAggregate} (member : current.status ∈ exitStatuses) :
    (flattened current event).turn current.status ∈ volunteerTurns := by
  have lane (ids : List KernelEffect) : askedSlots (ids ++
      if current.entryLaneHeld then [.releaseEntryLane current.ticketId] else []) =
        askedSlots ids := by
    rw [askedSlots_append]
    split_ifs <;> exact List.append_nil _
  have calm (ids : List KernelEffect) : absentCancels (ids ++
      if current.entryLaneHeld then [.releaseEntryLane current.ticketId] else []) =
        absentCancels ids := by
    rw [absentCancels_append]
    split_ifs <;> exact List.append_nil _
  unfold flattened
  cases nextCleanupOrderId current with
  | none => exact turn_mem [] member (lane []) (calm []) (by decide)
  | some id =>
    exact turn_mem [.cancel .reconciliationCleanup] member (lane _) (calm _) (by decide)

theorem turn_of_reconciles {aggregate : TradeAggregate} {snapshot : PositionSnapshot}
    (reconciles : Reconciles aggregate snapshot fact)
    (reduced : reduceFact aggregate event fact = .ok result) :
    result.turn aggregate.status ∈ volunteerTurns ∨
      aggregate.pendingCancelExchangeOrderId = none ∧
        result.turn aggregate.status ∈ cleanupTurns ∨
      fact.answers = some (.cancel .reconciliationCleanup, .absent) := by
  cases reconciles with
  | filled fact status whole read =>
    obtain ⟨-, -, -, -, rfl⟩ := entryFilled_eq_ok.mp reduced
    exact .inl ((by decide : ∀ turn ∈ filledTurns .entryAccepted, turn ∈ volunteerTurns) _
      (turn_of_entryFilled status))
  | partly price status bounds =>
    obtain ⟨-, -, -, rfl⟩ := entryPartiallyFilled_eq_ok.mp reduced
    exact .inl (turn_mem [.cancel .entryRemainder] (List.mem_singleton.mpr status) rfl rfl
      (by decide))
  | exited status flat =>
    obtain ⟨-, rfl⟩ := positionFlatConfirmed_eq_ok.mp reduced
    exact .inl (turn_of_flattened status)
  | lost status flat =>
    obtain ⟨member, cleanupOrderId, -, rfl⟩ := externalFlatDetected_eq_ok.mp reduced
    exact .inl (turn_mem [.cancel .reconciliationCleanup] member rfl rfl (by decide))
  | foreign id status idle =>
    exact .inr (.inl ⟨idle, turn_reported reduced single (by decide)⟩)
  | gone id status idle absent =>
    obtain ⟨-, -, -, rfl⟩ := ownedOrderAbsenceConfirmed_eq_ok.mp reduced
    exact .inr (.inl ⟨idle, turn_mem [] (List.mem_singleton.mpr status) rfl rfl (by decide)⟩)
  | orphan id orderNamespace status idle =>
    obtain ⟨-, -, rfl⟩ := ownedOrphanOrderDetected_eq_ok.mp reduced
    exact .inr (.inl ⟨idle, turn_mem [.cancel .reconciliationCleanup]
      (List.mem_singleton.mpr status) rfl rfl (by decide)⟩)
  | matched status idle empty flat =>
    obtain ⟨-, -, -, -, rfl⟩ := reconciliationMatched_eq_ok.mp reduced
    exact .inr (.inl ⟨idle, turn_mem [] (List.mem_singleton.mpr status) rfl rfl (by decide)⟩)
  | retried id orderNamespace status pending =>
    obtain ⟨-, -, rfl⟩ := ownedOrphanOrderDetected_eq_ok.mp reduced
    exact .inl (turn_mem [.cancel .reconciliationCleanup] (List.mem_singleton.mpr status) rfl rfl
      (by decide))
  | failed id status pending absent => exact .inr (.inr rfl)

theorem turn_of_advances {current : TradeAggregate} (advances : fact.advances = true)
    (reduced : reduceFact current event fact = .ok result) :
    result.turn current.status ∈ volunteerTurns := by
  cases fact with
  | postFillStressAssessed fact =>
    obtain ⟨status, -, -, ⟨-, rfl⟩ | ⟨-, limitPrice, tp1Quantity, -, -, -, rfl⟩⟩ :=
      postFillStressAssessed_eq_ok.mp reduced
    · exact turn_mem [.controlledFlatten] (List.mem_singleton.mpr status) rfl rfl (by decide)
    · exact turn_mem [.takeProfit] (List.mem_singleton.mpr status) rfl rfl (by decide)
  | takeProfitFilled fact =>
    obtain ⟨status, -, -, activeStop, -, -, rfl⟩ := takeProfitFilled_eq_ok.mp reduced
    exact turn_mem [.replaceProtection] (List.mem_singleton.mpr status) rfl rfl (by decide)
  | runnerStopRequested stopPrice watermarkMs =>
    obtain ⟨status, activeStop, -, _, -, -, -, rfl⟩ := runnerStopRequested_eq_ok.mp reduced
    exact turn_mem [.replaceProtection] (List.mem_singleton.mpr status) rfl rfl (by decide)
  | exitRequested reason =>
    obtain ⟨member, -, rfl⟩ := exitRequested_eq_ok.mp reduced
    exact turn_mem [.exit] member rfl rfl (by decide)
  | budgetSettled =>
    obtain ⟨status, rfl⟩ := budgetSettled_eq_ok.mp reduced
    exact turn_mem [] (List.mem_singleton.mpr status) rfl rfl (by decide)
  | reviewRecorded reviewId =>
    obtain ⟨status, -, rfl⟩ := reviewRecorded_eq_ok.mp reduced
    exact turn_mem [] (List.mem_singleton.mpr status) rfl rfl (by decide)
  | reviewRevised reviewId supersedesReviewId =>
    obtain ⟨status, -, -, -, rfl⟩ := reviewRevised_eq_ok.mp reduced
    exact turn_mem [] (List.mem_singleton.mpr status) rfl rfl (by decide)
  | _ => simp [TicketFact.advances] at advances

theorem turn_of_drains {aggregate : TradeAggregate} {entryVacuumId : NonBlankText}
    {snapshot : Option PositionSnapshot} (drains : Drains aggregate entryVacuumId snapshot fact)
    (reduced : reduceFact aggregate event fact = .ok result) :
    result.turn aggregate.status ∈ volunteerTurns := by
  cases drains with
  | cancel fact status vacuum =>
    obtain ⟨-, -, -, rfl⟩ := entryVacuumCancelRequested_eq_ok.mp reduced
    refine turn_mem [.cancel .selectionVacuumEntry] status ?_ ?_ (by decide)
    · rw [askedSlots_append, askedSlots_resolveFrom]
      rfl
    · rw [absentCancels_append, absentCancels_resolveFrom]
      rfl
  | orderGone fact seen status read vacuum filled absent =>
    obtain ⟨-, -, -, -, rfl⟩ := entryVacuumOrderAbsenceConfirmed_eq_ok.mp reduced
    exact turn_mem [] status (askedSlots_resolveFrom ..) (absentCancels_resolveFrom ..) (by decide)
  | unfilled seen status read flat empty =>
    obtain ⟨-, -, -, rfl⟩ := entryVacuumAbsenceConfirmed_eq_ok.mp reduced
    exact turn_closedUnfilled (List.mem_singleton.mpr status) rfl rfl (by decide)
  | whole fact status =>
    obtain ⟨-, -, -, -, rfl⟩ := entryFilled_eq_ok.mp reduced
    exact (by decide : ∀ turn ∈ filledTurns .entryVacuumCancelled, turn ∈ volunteerTurns) _
      (turn_of_entryFilled status)
  | retained fact status =>
    obtain ⟨-, -, -, -, rfl⟩ := vacuumPartialRetained_eq_ok.mp reduced
    exact turn_mem [.initialStop] (List.mem_singleton.mpr status) rfl rfl (by decide)
  | flattened fact status =>
    obtain ⟨-, -, rfl⟩ := vacuumPartialFlattenRequired_eq_ok.mp reduced
    exact turn_mem [.controlledFlatten] (List.mem_singleton.mpr status) rfl rfl (by decide)

/-- **A fact that no command is behind leads along one of the turns of such facts; or, where no
cancel is pending, along one of a reconciliation's; or it says that the target of a failed cleanup
is gone.** -/
theorem turn_of_volunteers (volunteers : Volunteers kernel work fact)
    (reduced : reduceFact kernel.aggregate event fact = .ok result) :
    result.turn kernel.aggregate.status ∈ volunteerTurns ∨
      kernel.aggregate.pendingCancelExchangeOrderId = none ∧
        result.turn kernel.aggregate.status ∈ cleanupTurns ∨
      fact.answers = some (.cancel .reconciliationCleanup, .absent) := by
  cases volunteers with
  | reconciled latestObservedAtMs openIncidentKind snapshot fact reconciles =>
    exact turn_of_reconciles reconciles reduced
  | advanced fact occurredAtMs advances => exact .inl (turn_of_advances advances reduced)
  | drained entryVacuumId nowMs reading fact drains dispatched =>
    exact .inl (turn_of_drains drains reduced)

end Volunteers

end TradingKernel
