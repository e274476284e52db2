/-
**Which commands a status leaves room for.**

`stageOf slot status` says what the stored commands of a slot look like while their Ticket is in a
status: which statuses the one command may have that is not settled, and which the settled ones may
have. A status of a closing Ticket says nothing of the slots that the Ticket has passed. `Staged`
says that every slot is in its stage, and that a command the status waits for has the terms it waits
for; both hold along every run (`staged`). That every turn leads from stage to stage is decided over
the lists of turns.
-/

import TradingKernel.System.CommandClaims
import TradingKernel.System.Turns

namespace TradingKernel

open Reducer

/-! ### Stages -/

/-- The statuses of a command whose outcome is open. -/
def liveStatuses : List ExchangeCommandStatus := [.prepared, .claimed, .outcomeUnknown]

/-- The status of the slot's one live command, where it has one, and those of the settled ones. -/
structure Stage where
  live : List (Option ExchangeCommandStatus)
  settled : List ExchangeCommandStatus
  deriving DecidableEq

namespace Stage

/-- The commands of a slot are in the stage: at most one of them is live. -/
def Holds (stage : Stage) (rows : List CommandRow) : Prop :=
  ∃ (current : Option CommandRow) (earlier : List CommandRow),
    rows.Perm (current.toList ++ earlier) ∧ current.map CommandRow.status ∈ stage.live ∧
      ∀ row ∈ earlier, row.status ∈ stage.settled ∧ row.status ∉ liveStatuses

/-- A stage that leaves more room. -/
def Le (stage later : Stage) : Prop :=
  stage.live ⊆ later.live ∧ stage.settled ⊆ later.settled

instance (stage later : Stage) : Decidable (stage.Le later) :=
  inferInstanceAs (Decidable ((∀ _ ∈ _, _) ∧ ∀ _ ∈ _, _))

/-- No command is live. -/
def Idle (stage : Stage) : Prop := ∀ live ∈ stage.live, live = none

instance (stage : Stage) : Decidable stage.Idle := inferInstanceAs (Decidable (∀ _ ∈ _, _))

/-- The live command has got another status. -/
def answered (stage : Stage) (status : ExchangeCommandStatus) : Stage :=
  if status ∈ liveStatuses then ⟨[some status], stage.settled⟩ else ⟨[none], status :: stage.settled⟩

/-- A command of unknown outcome has been found absent. -/
def marked (stage : Stage) : Stage where
  live := stage.live.map fun live => if live = some .outcomeUnknown then none else live
  settled := .reconciledAbsent :: stage.settled

/-- A command has been asked for. -/
def asked (stage : Stage) : Stage := ⟨[some .prepared], stage.settled⟩

/-- No command is live any more. -/
def idled (stage : Stage) : Stage := ⟨[none], stage.settled⟩

section Holds

variable {stage later : Stage} {rows rest : List CommandRow} {row new : CommandRow}

theorem Holds.mono (holds : stage.Holds rows) (le : stage.Le later) : later.Holds rows := by
  obtain ⟨current, earlier, parts, live, settled⟩ := holds
  refine ⟨current, earlier, parts, le.1 live, fun row member => ?_⟩
  exact ⟨le.2 (settled row member).1, (settled row member).2⟩

theorem holds_nil : Holds ⟨[none], []⟩ [] :=
  ⟨none, [], .refl _, List.mem_cons_self, by simp⟩

/-- **A live command is the slot's one live command.** -/
theorem Holds.split (holds : stage.Holds rows) (parts : rows.Perm (row :: rest))
    (isLive : row.status ∈ liveStatuses) : some row.status ∈ stage.live ∧
      ∀ other ∈ rest, other.status ∈ stage.settled ∧ other.status ∉ liveStatuses := by
  obtain ⟨current, earlier, was, live, settled⟩ := holds
  have there : row ∈ current.toList ++ earlier :=
    was.mem_iff.mp (parts.mem_iff.mpr List.mem_cons_self)
  have held : row ∈ current := by
    rcases List.mem_append.mp there with held | old
    · exact Option.mem_toList.mp held
    · exact absurd isLive (settled row old).2
  obtain rfl := Option.mem_def.mp held
  refine ⟨live, fun other member => settled other ?_⟩
  exact (List.Perm.cons_inv (parts.symm.trans was)).mem_iff.mp member

/-- A live command is one of the stage's. -/
theorem Holds.live_mem (holds : stage.Holds rows) (member : row ∈ rows)
    (isLive : row.status ∈ liveStatuses) : some row.status ∈ stage.live := by
  obtain ⟨before, after, parts⟩ := List.append_of_mem member
  exact (holds.split (parts ▸ List.perm_middle) isLive).1

theorem Holds.not_live (holds : stage.Holds rows) (idle : stage.Idle) (member : row ∈ rows) :
    row.status ∉ liveStatuses :=
  fun isLive => by simpa using idle _ (holds.live_mem member isLive)

/-- **The live command answered.** -/
theorem Holds.answer (holds : stage.Holds rows) (parts : rows.Perm (row :: rest))
    (isLive : row.status ∈ liveStatuses) : (stage.answered new.status).Holds (new :: rest) := by
  obtain ⟨-, settled⟩ := holds.split parts isLive
  unfold answered
  split_ifs with open_
  · exact ⟨some new, rest, .refl _, List.mem_cons_self, settled⟩
  · refine ⟨none, new :: rest, .refl _, List.mem_cons_self, ?_⟩
    rintro other (_ | ⟨_, member⟩)
    · exact ⟨List.mem_cons_self, open_⟩
    · exact ⟨List.mem_cons_of_mem _ (settled other member).1, (settled other member).2⟩

theorem Holds.idle (holds : stage.Holds rows)
    (settled : ∀ row ∈ rows, row.status ∉ liveStatuses)
    (lives : ∀ live ∈ stage.live, ∀ status ∈ live, status ∈ liveStatuses) :
    stage.idled.Holds rows := by
  obtain ⟨current, earlier, parts, live, old⟩ := holds
  cases current with
  | none => exact ⟨none, earlier, parts, List.mem_cons_self, old⟩
  | some row =>
    have isLive := lives _ live row.status rfl
    exact absurd isLive (settled row (parts.mem_iff.mpr List.mem_cons_self))

/-- **A command asked for**, in a slot without a live one. -/
theorem Holds.ask (holds : stage.Holds rows) (idle : stage.Idle) (prepared : new.status = .prepared) :
    stage.asked.Holds (rows ++ [new]) := by
  obtain ⟨current, earlier, parts, live, settled⟩ := holds
  have nobody : current = none := by simpa using idle _ live
  subst nobody
  refine ⟨some new, earlier, ?_, ?_, settled⟩
  · exact (parts.append_right [new]).trans (List.perm_append_singleton new earlier)
  · simp [asked, prepared]

/-! ### Cancels found absent -/

/-- Commands that the commit finds none of. -/
theorem Holds.untouched {orderIds : List String} {observedAtMs : ℤ} (holds : stage.Holds rows)
    (missed : ∀ row ∈ rows, ¬ FoundAbsent orderIds row) :
    stage.Holds (rows.map (reconciled orderIds observedAtMs)) := by
  have kept : ∀ row ∈ rows, reconciled orderIds observedAtMs row = row :=
    fun row member => if_neg (missed row member)
  rw [List.map_congr_left kept, List.map_id']
  exact holds

/-- **The live command found absent.** -/
theorem Holds.mark {orderIds : List String} {observedAtMs : ℤ} (holds : stage.Holds rows)
    (found : ∀ row ∈ rows, row.status = .outcomeUnknown → FoundAbsent orderIds row) :
    stage.marked.Holds (rows.map (reconciled orderIds observedAtMs)) := by
  obtain ⟨current, earlier, parts, live, settled⟩ := holds
  have kept : ∀ row ∈ earlier, reconciled orderIds observedAtMs row = row := fun row member =>
    reconciled_of_known fun unknown =>
      (settled row member).2 (by rw [unknown]; decide)
  have mapped : earlier.map (reconciled orderIds observedAtMs) = earlier := by
    rw [List.map_congr_left kept, List.map_id']
  have known : ∀ row ∈ earlier, row.status ∈ stage.marked.settled ∧ row.status ∉ liveStatuses :=
    fun row member =>
      ⟨List.mem_cons_of_mem _ (settled row member).1, (settled row member).2⟩
  have all := parts.map (reconciled orderIds observedAtMs)
  rw [List.map_append, mapped] at all
  cases current with
  | none => exact ⟨none, earlier, all, List.mem_map.mpr ⟨none, live, by simp⟩, known⟩
  | some row =>
    by_cases unknown : row.status = .outcomeUnknown
    · have absent := found row (parts.mem_iff.mpr List.mem_cons_self) unknown
      have status : (reconciled orderIds observedAtMs row).status = .reconciledAbsent := by
        rw [reconciled, if_pos absent]
        rfl
      refine ⟨none, reconciled orderIds observedAtMs row :: earlier, all, ?_, ?_⟩
      · refine List.mem_map.mpr ⟨_, live, ?_⟩
        simp [unknown]
      · rintro other (_ | ⟨_, member⟩)
        · rw [status]
          exact ⟨List.mem_cons_self, by decide⟩
        · exact known other member
    · rw [Option.toList_some, List.map_singleton, reconciled_of_known unknown] at all
      refine ⟨some row, earlier, all, List.mem_map.mpr ⟨_, live, ?_⟩, known⟩
      simp [unknown]

end Holds

end Stage

/-! ### The stages of a Ticket -/

/-- The statuses of a Ticket whose position is gone. -/
def closingStatuses : List AggregateStatus :=
  [.reconciliationPending, .cancelRejected, .cancelOutcomeUnknown, .settlementPending,
    .reviewPending, .terminal]

/-- The statuses before the leverage is set. -/
def leverageStatuses : List AggregateStatus := [.leveragePending, .leverageOutcomeUnknown]

/-- The statuses of an ENTRY that may still fill. -/
def enteringStatuses : List AggregateStatus :=
  leverageStatuses ++ [.leverageConfirmed, .entryPending, .entryOutcomeUnknown, .entryAccepted,
    .entryVacuumCancelPending, .entryVacuumCancelRejected, .entryVacuumCancelOutcomeUnknown,
    .entryVacuumCancelled]

/-- The statuses of an ENTRY that filled in part. -/
def partialStatuses : List AggregateStatus :=
  [.partialFillIncident, .partialFillCancelRejected, .partialFillCancelOutcomeUnknown]

/-- The statuses of a position before its TP1 is asked for. -/
def protectingStatuses : List AggregateStatus :=
  [.protectionPending, .initialStopOutcomeUnknown, .postFillRiskPending]

/-- The statuses of TP1 and of the runner stop. -/
def takingStatuses : List AggregateStatus := [.tp1Pending, .tp1OutcomeUnknown, .positionProtected]

def runnerStatuses : List AggregateStatus :=
  [.runnerOldStopCancelPending, .runnerOldStopCancelRejected, .runnerOldStopCancelOutcomeUnknown,
    .runnerProtected]

def replacingStatuses : List AggregateStatus :=
  [.runnerReplacementPending, .runnerReplacementOutcomeUnknown]

namespace CommandSlot

/-- The statuses in which no command of the slot has been asked for. -/
def untouchedStatuses : CommandSlot → List AggregateStatus
  | entry => leverageStatuses
  | initialStop => enteringStatuses
  | takeProfit => enteringStatuses ++ protectingStatuses
  | replaceProtection => enteringStatuses ++ protectingStatuses ++ takingStatuses
  | exit => enteringStatuses ++ protectingStatuses ++ takingStatuses ++ replacingStatuses ++
      runnerStatuses
  | controlledFlatten => enteringStatuses ++ partialStatuses ++ protectingStatuses
  | _ => []

/-- The statuses of the commands that a command of the slot may follow. -/
def followed : CommandSlot → List ExchangeCommandStatus
  | takeProfit => [.reconciledAbsent]
  | exit => [.rejected, .reconciledAbsent]
  | replaceProtection => [.accepted, .reconciledAccepted, .reconciledAbsent]
  | cancel _ => settledStatuses
  | _ => []

/-- The statuses in which the next command of the slot may be asked for. -/
def restingStatuses : CommandSlot → List AggregateStatus
  | exit => [.exitRejected]
  | replaceProtection => runnerStatuses
  | _ => []

/-- The statuses of Tickets that have passed the slot, whatever became of its commands. -/
def passedStatuses : CommandSlot → List AggregateStatus
  | takeProfit | exit | replaceProtection | controlledFlatten | cancel .runnerOldStop =>
      closingStatuses
  | cancel .selectionVacuumEntry =>
      closingStatuses ++ protectingStatuses ++ takingStatuses ++ replacingStatuses ++
        runnerStatuses ++ exitStatuses ++
        [.entryVacuumCancelled, .entryReconciledAbsent, .tp1Rejected, .runnerReplacementRejected]
  | _ => []

/-- The slots whose status goes on when their command is carried out. -/
def lingers : CommandSlot → Bool
  | cancel .selectionVacuumEntry | cancel .reconciliationCleanup => true
  | _ => false

end CommandSlot

/-- The stage of a slot in a status, unless the Ticket has passed the slot. -/
def stageOf (slot : CommandSlot) (status : AggregateStatus) : Option Stage :=
  if status ∈ slot.applicableStatuses then
    some ⟨(if slot.lingers then [none] else []) ++ [some .prepared, some .claimed], slot.followed⟩
  else if status = slot.unknownStatus then some ⟨[some .outcomeUnknown], slot.followed⟩
  else if status ∈ slot.untouchedStatuses then some ⟨[none], []⟩
  else if status ∈ slot.restingStatuses then some ⟨[none], slot.followed⟩
  else if status ∈ slot.passedStatuses then none
  else some ⟨[none], settledStatuses⟩

/-! ### Turns lead from stage to stage -/

namespace Turn

/-- The stage of a slot after the turn's effects: a cancel found absent is settled, and a command
asked for is prepared. -/
def found (turn : Turn) (slot : CommandSlot) (stage : Stage) : Stage :=
  if turn.marks = true ∧ slot.isCancel = true then stage.marked else stage

def after (turn : Turn) (slot : CommandSlot) (stage : Stage) : Stage :=
  if slot ∈ turn.asks then (turn.found slot stage).asked else turn.found slot stage

/-- The turn leads from the stage of a slot to the stage of its target; a command is asked for where
none is live, and where no command is asked for, the target waits for none. -/
structure Leads (turn : Turn) (slot : CommandSlot) (stage : Stage) : Prop where
  marked : turn.marks = true → slot.isCancel = true →
    some .outcomeUnknown ∈ stage.live → turn.source = slot.unknownStatus
  idle : slot ∈ turn.asks → (turn.found slot stage).Idle
  arrives : ∀ later ∈ stageOf slot turn.target, (turn.after slot stage).Le later

instance (turn : Turn) (slot : CommandSlot) (stage : Stage) : Decidable (turn.Leads slot stage) :=
  decidable_of_iff ((turn.marks = true → slot.isCancel = true →
      some .outcomeUnknown ∈ stage.live → turn.source = slot.unknownStatus) ∧
      (slot ∈ turn.asks → (turn.found slot stage).Idle) ∧
      ∀ later ∈ stageOf slot turn.target, (turn.after slot stage).Le later)
    ⟨fun ⟨marked, idle, arrives⟩ => ⟨marked, idle, arrives⟩,
      fun ⟨marked, idle, arrives⟩ => ⟨marked, idle, arrives⟩⟩

/-- No command that was live before the turn is one that its target waits for. -/
def Renews (turn : Turn) (slot : CommandSlot) (stage : Stage) : Prop :=
  turn.target ∈ slot.servingStatuses → (turn.found slot stage).Idle

instance (turn : Turn) (slot : CommandSlot) (stage : Stage) : Decidable (turn.Renews slot stage) :=
  inferInstanceAs (Decidable (_ → _))

/-- A slot that has been passed stays so. -/
def Passes (turn : Turn) (slot : CommandSlot) : Prop :=
  stageOf slot turn.target = none ∧ turn.target ∉ slot.servingStatuses

instance (turn : Turn) (slot : CommandSlot) : Decidable (turn.Passes slot) :=
  inferInstanceAs (Decidable (_ ∧ _))

/-- The turn is sound for slots in these stages. The command of a kept slot goes on. -/
def Sound (turn : Turn) (stages : CommandSlot → Option Stage) (kept : Option CommandSlot) : Prop :=
  turn.asks.length ≤ 1 ∧ ∀ slot ∈ CommandSlot.all,
    (∀ stage ∈ stages slot, turn.Leads slot stage ∧ (kept ≠ some slot → turn.Renews slot stage)) ∧
      (stages slot = none → turn.Passes slot)

instance (turn : Turn) (stages : CommandSlot → Option Stage) (kept : Option CommandSlot) :
    Decidable (turn.Sound stages kept) :=
  inferInstanceAs (Decidable (_ ∧ ∀ _ ∈ _, _))

end Turn

/-- The stages in a status. -/
def stagesAt (status : AggregateStatus) : CommandSlot → Option Stage := fun slot =>
  stageOf slot status

/-- The stages with one of them changed. -/
def stagesWith (status : AggregateStatus) (slot : CommandSlot) (change : Stage → Stage) :
    CommandSlot → Option Stage := fun other =>
  if other = slot then (stageOf other status).map change else stageOf other status

theorem sound_volunteers : ∀ turn ∈ volunteerTurns, turn.Sound (stagesAt turn.source) none := by
  decide

theorem sound_cleanups : ∀ turn ∈ cleanupTurns, turn.Sound
    (stagesWith turn.source (.cancel .reconciliationCleanup) Stage.idled) none := by
  decide

/-- The target of an unknown cancel is gone. -/
theorem sound_absences : ∀ slot ∈ CommandSlot.all, ∀ outcome ∈ [.confirmed, .absent],
    ∀ turn ∈ answerTurns slot outcome, (∀ stage ∈ stageOf slot turn.source,
      some .outcomeUnknown ∈ stage.live → slot.isCancel = true →
        turn.Sound (stagesAt turn.source) none) := by
  decide

/-- The target of a failed cleanup is gone. -/
theorem sound_failures : ∀ turn ∈ answerTurns (.cancel .reconciliationCleanup) .absent,
    turn.Sound (stagesAt turn.source) none := by
  decide

/-- A live command goes on when its outcome stays unknown. -/
def keptSlot (slot : CommandSlot) (status : ExchangeCommandStatus) : Option CommandSlot :=
  if status ∈ liveStatuses then some slot else none

theorem sound_answers : ∀ slot ∈ CommandSlot.all, ∀ settlement ∈ settlements,
    ∀ turn ∈ answerTurns slot settlement.2.1, ∀ stage ∈ stageOf slot turn.source,
      some settlement.1 ∈ stage.live → turn.Sound (stagesWith turn.source slot fun stage =>
        stage.answered settlement.2.2) (keptSlot slot settlement.2.2) := by
  decide

/-- The slots whose commands report are in a stage. -/
theorem stageOf_answers : ∀ slot ∈ CommandSlot.all,
    ∀ outcome ∈ ([.confirmed, .refused, .unknown, .absent] : List CommandOutcome),
      ∀ turn ∈ answerTurns slot outcome, stageOf slot turn.source ≠ none := by
  decide

/-- A first command is superseded by a vacuum. -/
theorem sound_supersessions : ∀ slot ∈ [.setLeverage, .entry],
    ∀ turn ∈ turnsFrom [.leveragePending, .leverageConfirmed, .entryPending] .entryRejected,
      ∀ stage ∈ stageOf slot turn.source, some .prepared ∈ stage.live →
        turn.Sound (stagesWith turn.source slot fun stage => stage.answered .superseded) none := by
  decide

/-- Nothing has been asked for. -/
def untouchedStage : CommandSlot → Option Stage := fun _ => some ⟨[none], []⟩

theorem sound_issue : ∀ turn ∈ ([⟨.leveragePending, .leveragePending, [.setLeverage], false⟩,
    ⟨.entryPending, .entryPending, [.entry], false⟩] : List Turn),
      turn.Sound untouchedStage none := by
  decide

end TradingKernel
