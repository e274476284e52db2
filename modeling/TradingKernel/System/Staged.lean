/-
**Every slot of a Ticket's commands is in its stage, along every run.**

`Staged.of_materialised` carries the stages over one commit, for any turn that is sound
(`Turn.Sound`); each kind of work is then one application of it, with the soundness of its turns
looked up in `Stages`. Along the way the terms of a live command stay the ones that its status waits
for (`Staged.terms`), so a result that comes back finds its Ticket waiting for it.
-/

import TradingKernel.Lifecycle.OrderNames
import TradingKernel.System.Stages

namespace TradingKernel

open Text Guard Reducer

/-! ### The commands of a slot -/

def CommandTable.inSlot (table : CommandTable) (slot : CommandSlot) : List CommandRow :=
  table.rows.filter fun row => row.command.slot = slot

section InSlot

variable {table updated : CommandTable} {slot : CommandSlot} {row new other : CommandRow}

theorem mem_inSlot : row ∈ table.inSlot slot ↔ row ∈ table ∧ row.command.slot = slot := by
  rw [CommandTable.inSlot, List.mem_filter, decide_eq_true_eq]
  exact Iff.rfl

/-- The slot and the terms of a command are read off its terms. -/
theorem slot_of_terms {command later : ExchangeCommand}
    (same : later.toCommandTerms = command.toCommandTerms) : later.slot = command.slot := by
  unfold ExchangeCommand.slot
  rw [same]

theorem matches_of_terms {aggregate : TradeAggregate} {command later : ExchangeCommand}
    (same : later.toCommandTerms = command.toCommandTerms) :
    MatchesTerms aggregate later ↔ MatchesTerms aggregate command := by
  unfold MatchesTerms
  rw [same]

/-- A replaced row changes its own slot only. -/
theorem inSlot_replaced (replaced : Table.Replaced table row new updated)
    (same : new.command.slot = row.command.slot) :
    (∀ slot, row.command.slot ≠ slot → (updated.inSlot slot).Perm (table.inSlot slot)) ∧
      ∃ rest, (table.inSlot row.command.slot).Perm (row :: rest) ∧
        (updated.inSlot row.command.slot).Perm (new :: rest) := by
  obtain ⟨rest, was, is⟩ := replaced
  constructor
  · intro slot apart
    have before := was.filter fun other => decide (other.command.slot = slot)
    have later := is.filter fun other => decide (other.command.slot = slot)
    rw [List.filter_cons_of_neg (by simpa using apart)] at before
    rw [List.filter_cons_of_neg (by simpa [same] using apart)] at later
    exact later.trans before.symm
  · refine ⟨rest.filter fun other => decide (other.command.slot = row.command.slot), ?_, ?_⟩
    · have before := was.filter fun other => decide (other.command.slot = row.command.slot)
      rwa [List.filter_cons_of_pos (by simp)] at before
    · have later := is.filter fun other => decide (other.command.slot = row.command.slot)
      rwa [List.filter_cons_of_pos (by simp [same])] at later

end InSlot

/-! ### The commands a commit adds -/

section Added

variable {aggregate : TradeAggregate} {effects asked : List KernelEffect}
  {added : List CommandRow} {effect : KernelEffect} {command : ExchangeCommand}

theorem slots_of_added (answers : List.Forall₂ (Answers aggregate) asked added) :
    asked.filterMap KernelEffect.slot = added.map fun row => row.command.slot := by
  induction answers with
  | nil => rfl
  | cons answer _ ih =>
    rw [List.filterMap_cons, slot_of_carriedOutBy answer.2, ih, List.map_cons]

/-- An order and a cancel match the terms of the aggregate that waits for them. -/
theorem matches_of_awaited (carries : effect.CarriedOutBy aggregate command)
    (awaited : AwaitedBy aggregate effect) (identified : Identified aggregate) :
    MatchesTerms aggregate command := by
  have cancels {id : String} {purpose : CancelPurpose} (isCancel : IsCancel command id purpose)
      (target : purpose.target aggregate = some id) (named : Named (purpose.target aggregate)) :
      MatchesTerms aggregate command := by
    obtain ⟨kind, payload, carried, text, rfl⟩ := isCancel
    simp only [MatchesTerms, kind, carried]
    rw [target, text, (named id target).1]
  cases effect with
  | prepareSetLeverageCommand ticket =>
    obtain ⟨kind, payload, carried, leverage⟩ := carries
    simp only [MatchesTerms, kind, carried]
    rw [leverage, awaited.2]
  | prepareEntryCommand ticket digest =>
    obtain ⟨_, kind, payload, carried, -⟩ := carries
    simp only [MatchesTerms, kind, carried]
  | prepareInitialStopCommand ticketId quantity stopPrice =>
    obtain ⟨kind, payload, carried, -⟩ := carries
    simp only [MatchesTerms, kind, carried]
  | prepareTakeProfitCommand ticketId quantity limitPrice =>
    obtain ⟨kind, payload, carried, terms⟩ := carries
    simp only [MatchesTerms, kind, carried]
    rw [terms]
    exact awaited.2
  | prepareProtectionReplacementCommand ticketId quantity stopPrice replaces watermarkMs =>
    obtain ⟨kind, payload, carried, terms⟩ := carries
    obtain ⟨-, exact_, price, active, watermark⟩ := awaited
    simp only [MatchesTerms, kind, carried]
    refine ⟨?_, ⟨stopPrice, ?_, price⟩, ⟨replaces, ?_, active⟩, ⟨watermarkMs, ?_, watermark⟩⟩
    all_goals rw [terms]
    · exact exact_
    all_goals rfl
  | prepareExitCommand ticketId quantity reason =>
    obtain ⟨kind, payload, carried, -⟩ := carries
    simp only [MatchesTerms, kind, carried]
  | cancelEntryRemainder ticketId =>
    obtain ⟨id, held, isCancel⟩ := carries
    exact cancels isCancel held identified.entry
  | cancelVacuumEntryOrder ticketId id vacuumId =>
    exact cancels carries awaited.2 identified.pendingCancel
  | prepareControlledFlattenCommand ticketId quantity =>
    obtain ⟨kind, payload, carried, -⟩ := carries
    simp only [MatchesTerms, kind, carried]
  | cancelProtectionOrders ticketId id orderNamespace purpose =>
    rcases awaited with ⟨rfl, -, target⟩ | ⟨rfl, -, target⟩
    · exact cancels carries target identified.replaced
    · exact cancels carries target identified.pendingCancel
  | _ => exact absurd carries id

end Added

/-! ### The invariant -/

/-- **Every slot is in its stage, and what the status waits for has its terms.** -/
structure Staged (kernel : Kernel) : Prop where
  identified : Identified kernel.aggregate
  stages : ∀ slot, ∀ stage ∈ stageOf slot kernel.aggregate.status,
    stage.Holds (kernel.commands.inSlot slot)
  terms : ∀ row ∈ kernel.commands, row.status ∈ liveStatuses →
    kernel.aggregate.status ∈ row.command.slot.servingStatuses →
      MatchesTerms kernel.aggregate row.command

/-- The slots are in these stages. -/
def InStages (stages : CommandSlot → Option Stage) (commands : CommandTable) : Prop :=
  ∀ slot, ∀ stage ∈ stages slot, stage.Holds (commands.inSlot slot)

section Commit

variable {before next : Kernel} {result : Reduction} {occurredAtMs : ℤ} {source : AggregateStatus}
  {stages : CommandSlot → Option Stage} {kept : Option CommandSlot} {slot : CommandSlot}
  {stage : Stage} {row : CommandRow}

/-- What a commit adds to a table, by slot. -/
theorem inSlot_materialised (materialised : Materialised occurredAtMs result.effects before next) :
    ∃ added, List.Forall₂ (Answers before.aggregate) (requests result.effects) added ∧
      (∀ slot, next.commands.inSlot slot =
        (before.commands.inSlot slot).map (reconciled (absentCancels result.effects) occurredAtMs) ++
          added.filter fun row => row.command.slot = slot) ∧
      ∀ row, row ∈ next.commands ↔ row ∈ added ∨ ∃ old ∈ before.commands,
        row = reconciled (absentCancels result.effects) occurredAtMs old := by
  obtain ⟨added, answers, rows⟩ := materialised.rows
  refine ⟨added, answers, fun slot => ?_, fun row => ?_⟩
  · rw [CommandTable.inSlot, rows, List.filter_append, List.filter_map]
    refine congrArg (· ++ _) (congrArg _ (List.filter_congr fun row _ => ?_))
    show decide ((reconciled _ _ row).command.slot = slot) = decide (row.command.slot = slot)
    rw [slot_of_terms reconciled_terms]
  · rw [← Table.mem_rows, rows, List.mem_append, List.mem_map, or_comm]
    simp only [Table.mem_rows, eq_comm]

/-- The commands a commit adds in a slot: the one that was asked for, if it was. -/
theorem added_inSlot (slot : CommandSlot) {aggregate : TradeAggregate} {added : List CommandRow}
    (answers : List.Forall₂ (Answers aggregate) (requests result.effects) added)
    (single : (result.turn source).asks.length ≤ 1) :
    slot ∉ (result.turn source).asks ∧
        (added.filter fun row => decide (row.command.slot = slot)) = [] ∨
      slot ∈ (result.turn source).asks ∧ ∃ row, row.status = .prepared ∧ added = [row] ∧
        (added.filter fun row => decide (row.command.slot = slot)) = [row] := by
  have slots : (result.turn source).asks = added.map fun row => row.command.slot :=
    slots_of_added answers
  rw [slots] at single ⊢
  cases added with
  | nil => exact .inl ⟨by simp, rfl⟩
  | cons row rest =>
    obtain rfl : rest = [] := by
      rw [List.map_cons, List.length_cons] at single
      simpa using single
    by_cases same : row.command.slot = slot
    · obtain ⟨effect, _, answer, -, -⟩ := List.forall₂_cons_right_iff.mp answers
      refine .inr ⟨by simp [same], row, answer.1, rfl, ?_⟩
      simp [same]
    · refine .inl ⟨by simpa [eq_comm] using same, ?_⟩
      simp [same]

/-- **One slot over one commit.** -/
theorem Turn.Leads.holds {orderIds : List String} {rows addedRows : List CommandRow} {turn : Turn}
    (leads : turn.Leads slot stage) (holds : stage.Holds rows)
    (inSlot : ∀ row ∈ rows, row.command.slot = slot)
    (silent : turn.marks = false → orderIds = [])
    (found : turn.marks = true → turn.source = slot.unknownStatus → ∀ row ∈ rows,
      row.status = .outcomeUnknown → FoundAbsent orderIds row)
    (added : slot ∉ turn.asks ∧ addedRows = [] ∨
      slot ∈ turn.asks ∧ ∃ row, row.status = .prepared ∧ addedRows = [row]) :
    (turn.found slot stage).Holds (rows.map (reconciled orderIds occurredAtMs)) ∧
      (turn.after slot stage).Holds (rows.map (reconciled orderIds occurredAtMs) ++ addedRows) := by
  have settled : (turn.found slot stage).Holds (rows.map (reconciled orderIds occurredAtMs)) := by
    unfold Turn.found
    split_ifs with marks
    · refine holds.mark fun row member unknown => ?_
      have isLive : row.status ∈ liveStatuses := by
        rw [unknown]
        decide
      have open_ := holds.live_mem member isLive
      rw [unknown] at open_
      exact found marks.1 (leads.marked marks.1 marks.2 open_) row member unknown
    · refine holds.untouched fun row member absent => marks ⟨?_, ?_⟩
      · obtain ⟨-, -, id, among, -⟩ := absent
        by_contra quiet
        rw [silent (by simpa using quiet)] at among
        exact List.not_mem_nil among
      · rw [← inSlot row member]
        obtain ⟨payload, carried⟩ := exists_cancel_payload absent.1
        rw [slot_of_cancel absent.1 carried]
        rfl
  refine ⟨settled, ?_⟩
  unfold Turn.after
  rcases added with ⟨notAsked, rfl⟩ | ⟨asked, row, prepared, rfl⟩
  · rw [if_neg notAsked, List.append_nil]
    exact settled
  · rw [if_pos asked]
    exact settled.ask (leads.idle asked) prepared

/-- A command that is still live after a commit was as it is before. -/
theorem reconciled_of_live {orderIds : List String}
    (isLive : (reconciled orderIds occurredAtMs row).status ∈ liveStatuses) :
    reconciled orderIds occurredAtMs row = row := by
  unfold reconciled at isLive ⊢
  split_ifs at isLive ⊢
  · exact absurd isLive (by rw [CommandRow.settled_status]; decide)
  · rfl

/-- **The stages after a commit whose turn is sound.** -/
theorem Staged.of_materialised (materialised : Materialised occurredAtMs result.effects before next)
    (same : before.aggregate = result.aggregate) (asks : Asks result)
    (identified : Identified result.aggregate) (inStages : InStages stages before.commands)
    (sound : (result.turn source).Sound stages kept)
    (found : absentCancels result.effects ≠ [] → ∀ row ∈ before.commands,
      row.status = .outcomeUnknown → source = row.command.slot.unknownStatus →
        FoundAbsent (absentCancels result.effects) row)
    (goesOn : ∀ row ∈ before.commands, kept = some row.command.slot →
      row.status ∈ liveStatuses → MatchesTerms result.aggregate row.command) : Staged next := by
  obtain ⟨added, answers, slots, members⟩ := inSlot_materialised materialised
  have aggregate : next.aggregate = result.aggregate := materialised.aggregate.trans same
  have silent : (result.turn source).marks = false → absentCancels result.effects = [] := by
    intro quiet
    simpa [Reduction.turn] using quiet
  -- one slot of the stages, before the new command and after it
  have carried (slot : CommandSlot) (stage : Stage) (here : stage ∈ stages slot) :
      ((result.turn source).found slot stage).Holds ((before.commands.inSlot slot).map
          (reconciled (absentCancels result.effects) occurredAtMs)) ∧
        ((result.turn source).after slot stage).Holds (next.commands.inSlot slot) := by
    rw [slots slot]
    refine ((sound.2 slot slot.mem_all).1 stage here).1.holds (inStages slot stage here)
      (fun row member => (mem_inSlot.mp member).2) silent ?_ ?_
    · intro marks at_unknown row member unknown
      obtain ⟨there, isSlot⟩ := mem_inSlot.mp member
      refine found (by simpa [Reduction.turn] using marks) row there unknown ?_
      rw [isSlot]
      exact at_unknown
    · rcases added_inSlot slot answers sound.1 with quiet | ⟨asked, row, prepared, -, is⟩
      · exact .inl quiet
      · exact .inr ⟨asked, row, prepared, is⟩
  refine ⟨aggregate ▸ identified, fun slot later at_later => ?_, fun row member isLive serving => ?_⟩
  · rw [aggregate] at at_later
    cases here : stages slot with
    | none =>
      have passed : stageOf slot result.aggregate.status = none :=
        ((sound.2 slot slot.mem_all).2 here).1
      rw [passed] at at_later
      exact absurd at_later (by simp)
    | some stage =>
      exact (carried slot stage here).2.mono
        (((sound.2 slot slot.mem_all).1 stage here).1.arrives later at_later)
  · rw [aggregate] at serving ⊢
    rcases (members row).mp member with new | ⟨old, there, rfl⟩
    · -- a new command is the one that was asked for
      cases asks with
      | nothing none idle =>
        rw [none] at answers
        cases answers
        exact absurd new (by simp)
      | one effect only awaited =>
        rw [only] at answers
        obtain ⟨asked, rest, answer, others, rfl⟩ := List.forall₂_cons_left_iff.mp answers
        cases others
        obtain rfl := List.mem_singleton.mp new
        have carries := answer.2
        rw [same] at carries
        exact matches_of_awaited carries awaited identified
    · have unmoved := reconciled_of_live isLive
      rw [unmoved] at isLive serving ⊢
      have here := sound.2 old.command.slot old.command.slot.mem_all
      by_cases on : kept = some old.command.slot
      · exact goesOn old there on isLive
      · cases held : stages old.command.slot with
        | none => exact absurd serving (here.2 held).2
        | some stage =>
          have idle := (here.1 stage held).2 on serving
          refine absurd isLive ((carried _ stage held).1.not_live idle ?_)
          exact List.mem_map.mpr ⟨old, mem_inSlot.mpr ⟨there, rfl⟩, unmoved⟩

end Commit

/-! ### Works -/

/-- A command of the table that the status waits for has its terms. -/
def TermsIn (aggregate : TradeAggregate) (commands : CommandTable) : Prop :=
  ∀ row ∈ commands, row.status ∈ liveStatuses →
    aggregate.status ∈ row.command.slot.servingStatuses → MatchesTerms aggregate row.command

section Works

variable {kernel next : Kernel} {work : Work} {commands : CommandTable} {event : TicketEvent}
  {reduction : Reduction} {occurredAtMs : ℤ} {row new : CommandRow} {slot : CommandSlot}
  {outcome : CommandOutcome} {stage : Stage} {current : TradeAggregate} {fact : TicketFact}
  {command : ExchangeCommand} {status : AggregateStatus} {reached : ExchangeCommandStatus}

theorem Stage.Holds.perm {rows others : List CommandRow} (holds : stage.Holds rows)
    (same : others.Perm rows) : stage.Holds others := by
  obtain ⟨live, earlier, parts, rest⟩ := holds
  exact ⟨live, earlier, same.trans parts, rest⟩

/-- The terms of a command go on where only the status changes. -/
theorem matches_unchanged {effects : List KernelEffect} (terms : MatchesTerms current command) :
    MatchesTerms (transition current event status unchanged effects).aggregate command := by
  unfold MatchesTerms at terms ⊢
  split at terms
  all_goals first
    | exact terms
    | exact ⟨terms.quantity, terms.price, terms.replaces, terms.watermark⟩

theorem unchanged_of_reported {guard : Reduced Unit} {reason required kind : String}
    (reduced : reported current event guard reason required status kind = .ok reduction) :
    ∃ status effects, reduction = transition current event status unchanged effects := by
  obtain ⟨-, -, rfl⟩ := reported_eq_ok.mp reduced
  exact ⟨_, _, rfl⟩

/-- An outcome that stays unknown changes the status only. -/
theorem unchanged_of_unknown (reduced : reduceFact current event fact = .ok reduction)
    (answers : fact.answers = some (slot, .unknown)) :
    ∃ status effects, reduction = transition current event status unchanged effects := by
  cases fact <;> first
    | (obtain ⟨rfl, unknown⟩ := Prod.mk.inj (Option.some.inj answers); cases unknown)
    | (simp only [TicketFact.answers, reduceCtorEq] at answers)
  case entryVacuumCancelOutcomeUnknown id reason =>
    obtain ⟨-, -, rfl⟩ := entryVacuumCancelOutcomeUnknown_eq_ok.mp reduced
    exact ⟨_, _, rfl⟩
  all_goals exact unchanged_of_reported reduced

/-- **The cancels that an outcome finds absent are those of unknown outcome in its status.** -/
theorem foundAbsent_of_answers (reduced : reduceFact current event fact = .ok reduction)
    (answers : fact.answers = some (slot, outcome))
    (placed : outcome = .confirmed → ∀ purpose, slot = .cancel purpose →
      current.status ∈ [purpose.applicableStatus, purpose.unknownStatus])
    (terms : TermsIn current commands) (marks : absentCancels reduction.effects ≠ [])
    (member : row ∈ commands) (unknown : row.status = .outcomeUnknown)
    (at_unknown : current.status = row.command.slot.unknownStatus) :
    FoundAbsent (absentCancels reduction.effects) row := by
  rcases absentCancels_of_answers reduced answers placed with
    silent | ⟨purpose, id, -, status, target, is⟩
  · exact absurd silent marks
  · have same : row.command.slot = .cancel purpose :=
      (by decide : ∀ slot ∈ CommandSlot.all, ∀ other ∈ CommandSlot.all,
        slot.unknownStatus = other.unknownStatus → slot = other) _ row.command.slot.mem_all _
        (CommandSlot.mem_all _) (at_unknown.symm.trans status)
    obtain ⟨cancels, payload, carried, rfl⟩ := cancel_of_slot same
    have serving : current.status ∈ row.command.slot.servingStatuses := by
      rw [at_unknown]
      exact List.mem_cons_self
    have matched := terms row member (by rw [unknown]; decide) serving
    simp only [MatchesTerms, cancels, carried] at matched
    rw [target] at matched
    refine ⟨cancels, unknown, id, by simp [is], ?_⟩
    simp only [CommandTable.Cancels, carried]
    exact (Option.some.inj matched).symm

/-- The placement of a slot's cancel. -/
theorem Placed.of_slot (placed : Placed status command outcome) :
    outcome = .confirmed → ∀ purpose, command.slot = .cancel purpose →
      status ∈ [purpose.applicableStatus, purpose.unknownStatus] := by
  intro confirmed purpose same
  obtain ⟨-, payload, carried, rfl⟩ := cancel_of_slot same
  exact placed confirmed payload carried

section Replaced

variable (replaced : Table.Replaced kernel.commands row new commands)
  (became : row.Became reached new)
include replaced became

/-- The stages after a live command has got another status. -/
theorem Staged.answered (staged : Staged kernel) (isLive : row.status ∈ liveStatuses) :
    InStages (stagesWith kernel.aggregate.status row.command.slot fun stage =>
      stage.answered reached) commands := by
  obtain ⟨others, rest, was, is⟩ := inSlot_replaced replaced (slot_of_terms became.1)
  intro slot stage here
  unfold stagesWith at here
  split_ifs at here with same
  · subst same
    obtain ⟨earlier, before, rfl⟩ := Option.map_eq_some_iff.mp here
    have holds : (earlier.answered new.status).Holds (new :: rest) :=
      (staged.stages _ earlier before).answer was isLive
    rw [became.2] at holds
    exact holds.perm is
  · exact (staged.stages slot stage here).perm (others slot (Ne.symm same))

theorem Staged.termsIn (staged : Staged kernel) (isLive : row.status ∈ liveStatuses) :
    TermsIn kernel.aggregate commands := by
  intro other member live serving
  rcases replaced.of_mem_updated member with rfl | ⟨there, -⟩
  · rw [slot_of_terms became.1] at serving
    exact (matches_of_terms became.1).mpr (staged.terms row replaced.here isLive serving)
  · exact staged.terms other there live serving

end Replaced

/-- A claim. -/
theorem Staged.of_claimed (staged : Staged kernel) (prepared : row.status = .prepared)
    (became : row.Became .claimed new)
    (applicable : kernel.aggregate.status ∈ row.command.slot.applicableStatuses)
    (replaced : Table.Replaced kernel.commands row new next.commands)
    (same : next.aggregate = kernel.aggregate) : Staged next := by
  have isLive : row.status ∈ liveStatuses := by
    rw [prepared]
    decide
  refine ⟨same ▸ staged.identified, fun slot stage here => ?_, ?_⟩
  · rw [same] at here
    have carried := staged.answered replaced became isLive slot
    unfold stagesWith at carried
    by_cases at_slot : slot = row.command.slot
    · subst at_slot
      rw [if_pos rfl] at carried
      refine (carried _ (Option.map_eq_some_iff.mpr ⟨stage, here, rfl⟩)).mono ?_
      exact (by decide : ∀ slot ∈ CommandSlot.all, ∀ status ∈ slot.applicableStatuses,
        ∀ stage ∈ stageOf slot status, (stage.answered .claimed).Le stage) _
        row.command.slot.mem_all _ applicable stage here
    · rw [if_neg at_slot] at carried
      exact carried stage here
  · rw [same]
    exact staged.termsIn replaced became isLive

/-- Only a status that its command is dispatched in leaves a command prepared. -/
theorem applicable_of_prepared (here : stage ∈ stageOf slot status)
    (prepared : some .prepared ∈ stage.live) : status ∈ slot.applicableStatuses := by
  unfold stageOf at here
  by_contra passed
  rw [if_neg passed] at here
  split_ifs at here
  all_goals
    first
      | (obtain rfl := Option.some.inj here; simp at prepared)
      | simp at here

/-- A command of a slot that its Ticket has passed is superseded. -/
theorem Staged.of_superseded (staged : Staged kernel) (prepared : row.status = .prepared)
    (became : row.Became .superseded new)
    (passed : kernel.aggregate.status ∉ row.command.slot.applicableStatuses)
    (replaced : Table.Replaced kernel.commands row new next.commands)
    (same : next.aggregate = kernel.aggregate) : Staged next := by
  have isLive : row.status ∈ liveStatuses := by
    rw [prepared]
    decide
  refine ⟨same ▸ staged.identified, fun slot stage here => ?_, ?_⟩
  · rw [same] at here
    have carried := staged.answered replaced became isLive slot
    unfold stagesWith at carried
    by_cases at_slot : slot = row.command.slot
    · subst at_slot
      have open_ := (staged.stages _ stage here).live_mem
        (mem_inSlot.mpr ⟨replaced.here, rfl⟩) isLive
      rw [prepared] at open_
      exact absurd (applicable_of_prepared here open_) passed
    · rw [if_neg at_slot] at carried
      exact carried stage here
  · rw [same]
    exact staged.termsIn replaced became isLive

/-- A first command superseded by a vacuum. -/
theorem Staged.of_vacuumed {fact : EntryVacuumSuperseded} (staged : Staged kernel)
    (prepared : row.status = .prepared) (became : row.Became .superseded new)
    (first : row.kind = .setLeverage ∨ row.kind = .entry)
    (replaced : Table.Replaced kernel.commands row new commands)
    (supersedes : event.fact = .entryVacuumSuperseded fact)
    (committed : Committed kernel commands event reduction occurredAtMs next) : Staged next := by
  have isLive : row.status ∈ liveStatuses := by
    rw [prepared]
    decide
  have reduced := committed.accepted.reduced
  rw [supersedes] at reduced
  obtain ⟨member, result⟩ := entryVacuumSuperseded_eq_ok.mp reduced
  have turn : reduction.turn kernel.aggregate.status ∈
      turnsFrom [.leveragePending, .leverageConfirmed, .entryPending] .entryRejected := by
    rw [result]
    exact turn_closedUnfilled member rfl rfl (by decide)
  have slot : row.command.slot ∈ ([.setLeverage, .entry] : List CommandSlot) := by
    rcases first with kind | kind
    · have is : row.command.slot = .setLeverage := slot_of_kind kind
      rw [is]
      decide
    · have is : row.command.slot = .entry := slot_of_kind kind
      rw [is]
      decide
  have silent : absentCancels reduction.effects = [] := silent_of_turn turn (by decide)
  have tracked : ∀ slot ∈ ([.setLeverage, .entry] : List CommandSlot),
      ∀ turn ∈ turnsFrom [.leveragePending, .leverageConfirmed, .entryPending] .entryRejected,
        stageOf slot turn.source ≠ none := by decide
  obtain ⟨stage, here⟩ := Option.ne_none_iff_exists'.mp (tracked _ slot _ turn)
  have open_ := (staged.stages _ stage here).live_mem (mem_inSlot.mpr ⟨replaced.here, rfl⟩) isLive
  rw [prepared] at open_
  exact .of_materialised committed.materialised rfl (.of_reduceFact reduced)
    (staged.identified.moved (.of_reduceFact reduced)) (staged.answered replaced became isLive)
    (sound_supersessions _ slot _ turn stage here open_) (fun marks => absurd silent marks)
    fun other _ on => absurd on (by simp)

/-- A reported outcome. -/
theorem Staged.of_answered (staged : Staged kernel)
    (settles : (row.status, outcome, new.status) ∈ settlements) (became : row.Became new.status new)
    (replaced : Table.Replaced kernel.commands row new commands)
    (answers : event.fact.answers = some (row.command.slot, outcome))
    (placed : Placed kernel.aggregate.status row.command outcome)
    (committed : Committed kernel commands event reduction occurredAtMs next) : Staged next := by
  have isLive : row.status ∈ liveStatuses :=
    (by decide : ∀ settlement ∈ settlements, settlement.1 ∈ liveStatuses) _ settles
  have reduced := committed.accepted.reduced
  have turn := turn_of_answers reduced answers placed.of_slot
  have listed : outcome ∈ ([.confirmed, .refused, .unknown, .absent] : List CommandOutcome) := by
    cases outcome <;> decide
  obtain ⟨stage, here⟩ := Option.ne_none_iff_exists'.mp
    (stageOf_answers _ row.command.slot.mem_all _ listed _ turn)
  have open_ := (staged.stages _ stage here).live_mem (mem_inSlot.mpr ⟨replaced.here, rfl⟩) isLive
  have terms := staged.termsIn replaced became isLive
  refine .of_materialised committed.materialised rfl (.of_reduceFact reduced)
    (staged.identified.moved (.of_reduceFact reduced)) (staged.answered replaced became isLive)
    (sound_answers _ row.command.slot.mem_all _ settles _ turn stage here open_)
    (fun marks other member unknown at_unknown =>
      foundAbsent_of_answers reduced answers placed.of_slot terms marks member unknown at_unknown)
    fun other member on live => ?_
  -- the command goes on: its outcome is unknown, and the Ticket keeps its terms
  have unsettled : new.status ∈ liveStatuses := by
    unfold keptSlot at on
    split_ifs at on with unsettled
    exact unsettled
  have unknown : outcome = .unknown :=
    (by decide : ∀ settlement ∈ settlements, settlement.2.2 ∈ liveStatuses →
      settlement.2.1 = .unknown) _ settles unsettled
  have same : row.command.slot = other.command.slot := by
    rw [keptSlot, if_pos unsettled] at on
    exact Option.some.inj on
  subst unknown
  obtain ⟨status, effects, is⟩ := unchanged_of_unknown reduced answers
  have serving : kernel.aggregate.status ∈ other.command.slot.servingStatuses := by
    rw [← same]
    exact (by decide : ∀ slot ∈ CommandSlot.all, ∀ turn ∈ answerTurns slot .unknown,
      turn.source ∈ slot.servingStatuses) _ row.command.slot.mem_all _ turn
  rw [is]
  exact matches_unchanged (terms other member live serving)

/-- The target of an unknown cancel is gone. -/
theorem Staged.of_targetGone (staged : Staged kernel) (member : row ∈ kernel.commands)
    (unknown : row.status = .outcomeUnknown) (cancels : row.kind = .cancelOrder)
    (ended : outcome = .confirmed ∨ outcome = .absent)
    (answers : event.fact.answers = some (row.command.slot, outcome))
    (placed : Placed kernel.aggregate.status row.command outcome)
    (committed : Committed kernel kernel.commands event reduction occurredAtMs next) :
    Staged next := by
  have isLive : row.status ∈ liveStatuses := by
    rw [unknown]
    decide
  have reduced := committed.accepted.reduced
  have turn := turn_of_answers reduced answers placed.of_slot
  have listed : outcome ∈ ([.confirmed, .refused, .unknown, .absent] : List CommandOutcome) := by
    cases outcome <;> decide
  obtain ⟨stage, here⟩ := Option.ne_none_iff_exists'.mp
    (stageOf_answers _ row.command.slot.mem_all _ listed _ turn)
  have open_ := (staged.stages _ stage here).live_mem (mem_inSlot.mpr ⟨member, rfl⟩) isLive
  rw [unknown] at open_
  have isCancel : row.command.slot.isCancel = true := by
    obtain ⟨payload, carried⟩ := exists_cancel_payload cancels
    rw [slot_of_cancel cancels carried]
    rfl
  have ends : outcome ∈ ([.confirmed, .absent] : List CommandOutcome) := by
    rcases ended with rfl | rfl <;> decide
  exact .of_materialised committed.materialised rfl (.of_reduceFact reduced)
    (staged.identified.moved (.of_reduceFact reduced)) staged.stages
    (sound_absences _ row.command.slot.mem_all _ ends _ turn stage here open_ isCancel)
    (fun marks other member unknown at_unknown =>
      foundAbsent_of_answers reduced answers placed.of_slot staged.terms marks member unknown
        at_unknown)
    fun other _ on => absurd on (by simp)

/-- **Without a pending cancel no cleanup is live.** -/
theorem Staged.idle_cleanup (staged : Staged kernel)
    (status : kernel.aggregate.status = .reconciliationPending)
    (idle : kernel.aggregate.pendingCancelExchangeOrderId = none) :
    ∀ row ∈ kernel.commands.inSlot (.cancel .reconciliationCleanup),
      row.status ∉ liveStatuses := by
  intro row member isLive
  obtain ⟨there, slot⟩ := mem_inSlot.mp member
  obtain ⟨cancels, payload, carried, purpose⟩ := cancel_of_slot slot
  have matched := staged.terms row there isLive (by rw [status, slot]; decide)
  simp only [MatchesTerms, cancels, carried, purpose, CancelPurpose.target] at matched
  rw [idle] at matched
  simp at matched

/-- A fact that no command is behind. -/
theorem Staged.of_volunteered (staged : Staged kernel)
    (volunteers : Volunteers kernel work event.fact)
    (committed : Committed kernel kernel.commands event reduction occurredAtMs next) :
    Staged next := by
  have reduced := committed.accepted.reduced
  have identified := staged.identified.moved (.of_reduceFact reduced)
  rcases turn_of_volunteers volunteers reduced with turn | ⟨idle, turn⟩ | answers
  · have silent : absentCancels reduction.effects = [] := silent_of_turn turn (by decide)
    exact .of_materialised committed.materialised rfl (.of_reduceFact reduced) identified
      staged.stages (sound_volunteers _ turn) (fun marks => absurd silent marks)
      fun other _ on => absurd on (by simp)
  · have silent : absentCancels reduction.effects = [] := silent_of_turn turn (by decide)
    have status : kernel.aggregate.status = .reconciliationPending :=
      (by decide : ∀ turn ∈ cleanupTurns, turn.source = .reconciliationPending) _ turn
    refine .of_materialised committed.materialised rfl (.of_reduceFact reduced) identified ?_
      (sound_cleanups _ turn) (fun marks => absurd silent marks) fun other _ on =>
        absurd on (by simp)
    intro slot stage here
    unfold stagesWith at here
    split_ifs at here with same
    · subst same
      obtain ⟨earlier, before, rfl⟩ := Option.map_eq_some_iff.mp here
      refine (staged.stages _ earlier before).idle (staged.idle_cleanup status idle) ?_
      have before' : earlier ∈ stageOf (.cancel .reconciliationCleanup) .reconciliationPending :=
        status ▸ before
      exact (by decide : ∀ stage ∈ stageOf (.cancel .reconciliationCleanup)
        .reconciliationPending, ∀ live ∈ stage.live, ∀ status ∈ live, status ∈ liveStatuses) _
        before'
    · exact staged.stages slot stage here
  · have placed : CommandOutcome.absent = .confirmed → ∀ purpose,
        CommandSlot.cancel .reconciliationCleanup = .cancel purpose →
          kernel.aggregate.status ∈ [purpose.applicableStatus, purpose.unknownStatus] :=
      fun confirmed => absurd confirmed (by decide)
    have turn := turn_of_answers reduced answers placed
    exact .of_materialised committed.materialised rfl (.of_reduceFact reduced) identified
      staged.stages (sound_failures _ turn)
      (fun marks other member unknown at_unknown =>
        foundAbsent_of_answers reduced answers placed staged.terms marks member unknown at_unknown)
      fun other _ on => absurd on (by simp)

/-- **Every work keeps the stages.** -/
theorem Staged.of_worked (staged : Staged kernel) (worked : Worked kernel work next) :
    Staged next := by
  cases worked with
  | looked same kept =>
    refine ⟨kept.aggregate ▸ staged.identified, ?_, ?_⟩
    · rw [kept.aggregate, same]
      exact staged.stages
    · rw [kept.aggregate, same]
      exact staged.terms
  | claimed row new workerId nowMs leaseUntilMs vacuum made prepared became applicable replaced
      kept =>
    exact staged.of_claimed prepared became (commandIsApplicable_iff.mp applicable) replaced
      kept.aggregate
  | superseded row new prepared became passed replaced kept =>
    refine staged.of_superseded prepared became (fun applies => ?_) replaced kept.aggregate
    rw [commandIsApplicable_iff.mpr applies] at passed
    simp at passed
  | vacuumed row new commands event reduction occurredAtMs fact prepared became first replaced
      supersedes committed =>
    exact staged.of_vacuumed prepared became first replaced supersedes committed
  | answered row new commands event reduction occurredAtMs outcome _ settles became replaced
      answers placed committed =>
    exact staged.of_answered settles became replaced answers placed committed
  | targetGone row event reduction occurredAtMs outcome member unknown cancels _ ended answers
      placed committed =>
    exact staged.of_targetGone member unknown cancels ended answers placed committed
  | volunteered event reduction occurredAtMs volunteers committed =>
    exact staged.of_volunteered volunteers committed

/-- A Ticket that has just been issued. -/
theorem Staged.of_issue {claim : Option CapacityClaim} {header : EventHeader}
    {ticket : TradeTicket} (issued : Kernel.issue claim header ticket = .ok next) :
    Staged next := by
  have materialised := issue_eq_ok issued
  let result : Reduction := ⟨issuedAggregate ticket 1, issuedEffects ticket⟩
  have turn : result.turn (issuedAggregate ticket 1).status ∈
      ([⟨.leveragePending, .leveragePending, [.setLeverage], false⟩,
        ⟨.entryPending, .entryPending, [.entry], false⟩] : List Turn) := by
    cases change : ticket.leverageChangeRequired with
    | true =>
      simp only [result, Reduction.turn, issuedAggregate, issuedEffects, change, if_true]
      exact List.mem_cons_self
    | false =>
      simp only [result, Reduction.turn, issuedAggregate, issuedEffects, change, if_false,
        Bool.false_eq_true]
      exact List.mem_cons_of_mem _ List.mem_cons_self
  have silent : absentCancels result.effects = [] := silent_of_turn turn (by decide)
  have inStages : InStages untouchedStage Table.empty := by
    intro slot stage here
    obtain rfl := Option.some.inj here
    exact Stage.holds_nil
  refine Staged.of_materialised materialised rfl (Asks.issued ticket) (.issued ticket) inStages
    (sound_issue _ turn) (fun marks => absurd silent marks) ?_
  intro other member
  exact absurd member List.not_mem_nil

end Works

/-- **Along every run every slot is in its stage.** -/
theorem staged {allowed : Kernel → Work → Prop} {start kernel : Kernel} {works : List Work}
    (run : WorkRun allowed start works kernel) : Staged kernel :=
  run.invariant Staged Staged.of_issue fun staged returned _ =>
    staged.of_worked (.of_work returned)

end TradingKernel
