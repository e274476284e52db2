/-
**A waiting Ticket and the command it waits for.**

In a status that waits for a command, the slot that the status is dispatched for has exactly one live
command, and it is PREPARED or CLAIMED (`live_of_waiting`). A CLAIMED one is recorded by its worker or
expires. A PREPARED one can be claimed until its deadline (`claims_of_claimable`), and from then on by
nobody (`not_claimed_of_overdue`): claims, expiries and lookups each filter on another status. So the
Ticket has a command that some worker can act on exactly while that command is not overdue.
-/

import TradingKernel.System.Staged

namespace TradingKernel

open Text Guard

/-! ### Commands that a worker can act on -/

/-- Some worker can act on the command: it can be claimed and dispatched, it is claimed, or its
outcome can be looked up. -/
def CommandRow.Actionable (row : CommandRow) (status : AggregateStatus) (nowMs : ℤ) : Prop :=
  CommandTable.Claimable nowMs row ∧ commandIsApplicable row.command status = true ∨
    row.status = .claimed ∨ row.status = .outcomeUnknown

/-- The status waits for the command. -/
def CommandRow.Serves (row : CommandRow) (status : AggregateStatus) : Prop :=
  status ∈ row.command.slot.servingStatuses

/-- A command that the status waits for is one that some worker can act on. -/
def Kernel.Served (kernel : Kernel) (nowMs : ℤ) : Prop :=
  ∃ row ∈ kernel.commands, row.Serves kernel.aggregate.status ∧
    row.Actionable kernel.aggregate.status nowMs

/-- The command that the status waits for is PREPARED past its deadline. -/
def Kernel.Overdue (kernel : Kernel) (nowMs : ℤ) : Prop :=
  ∃ row ∈ kernel.commands, row.Serves kernel.aggregate.status ∧ row.status = .prepared ∧
    row.command.deadlineAtMs ≤ nowMs

section Waiting

variable {kernel next : Kernel} {row other : CommandRow} {nowMs leaseUntilMs : ℤ}

/-- **A command that can be claimed is CLAIMED by the claim.** -/
theorem claims_of_claimable (member : row ∈ kernel.commands)
    (claimable : CommandTable.Claimable nowMs row)
    (applicable : commandIsApplicable row.command kernel.aggregate.status = true)
    (workerId : NonBlankText) (timed : 0 < nowMs ∧ nowMs < leaseUntilMs) :
    ∃ next, kernel.work (.act (.claim row.key workerId nowMs leaseUntilMs none)) = .ok next ∧
      next.aggregate = kernel.aggregate ∧ row.claimedBy workerId leaseUntilMs ∈ next.commands := by
  obtain ⟨commands, updates⟩ : ∃ commands,
      kernel.commands.claimOnePrepared row.key workerId nowMs leaseUntilMs = .ok commands :=
    CommandTable.transit_of_mem member rfl claimable
  have there : row.claimedBy workerId leaseUntilMs ∈ commands :=
    (CommandTable.transit_eq_ok updates).changed member rfl
  refine ⟨{ kernel with commands := commands }, ?_, rfl, there⟩
  refine refuse_bind_eq_ok.mpr ⟨not_not.mpr timed, ?_⟩
  refine bind_eq_ok.mpr ⟨commands, updates, demand_bind_eq_ok.mpr ⟨row, row_of_mem member, ?_⟩⟩
  rw [if_neg (not_not.mpr applicable)]
  rfl

/-- **Nobody claims a command whose deadline has passed.** -/
theorem not_claimed_of_overdue {key : CommandKey} {workerId : NonBlankText}
    {vacuum : Option NonBlankText} (member : row ∈ kernel.commands) (isKey : row.key = key)
    (overdue : row.command.deadlineAtMs ≤ nowMs) :
    kernel.work (.act (.claim key workerId nowMs leaseUntilMs vacuum)) ≠ .ok next := by
  intro returned
  obtain ⟨-, returned⟩ := refuse_bind_eq_ok.mp returned
  obtain ⟨commands, claims, -⟩ := bind_eq_ok.mp returned
  obtain ⟨source, there, same, claimable⟩ := (CommandTable.transit_eq_ok claims).source
  obtain rfl := Table.eq_of_key there member (same.trans isKey.symm)
  exact absurd claimable.2 (not_lt.mpr overdue)

/-- A waiting status has one slot that it is dispatched for, whose command is PREPARED or
CLAIMED. -/
theorem stage_of_waiting : ∀ status ∈ waitingStatuses, ∃ slot ∈ CommandSlot.all,
    status ∈ slot.applicableStatuses ∧
      stageOf slot status = some ⟨[some .prepared, some .claimed], slot.followed⟩ ∧
      ∀ other ∈ CommandSlot.all, status ∈ other.servingStatuses → other = slot := by
  decide

/-- **The one live command of a waiting Ticket.** -/
theorem live_of_waiting (staged : Staged kernel)
    (waits : kernel.aggregate.status ∈ waitingStatuses) :
    ∃ row ∈ kernel.commands, row.Serves kernel.aggregate.status ∧
      commandIsApplicable row.command kernel.aggregate.status = true ∧
      (row.status = .prepared ∨ row.status = .claimed) ∧
      ∀ other ∈ kernel.commands, other.Serves kernel.aggregate.status →
        other.status ∈ liveStatuses → other = row := by
  obtain ⟨slot, -, applicable, is, alone⟩ := stage_of_waiting _ waits
  have holds := staged.stages slot _ is
  obtain ⟨current, earlier, parts, live, settled⟩ := id holds
  cases current with
  | none => simp at live
  | some row =>
    obtain ⟨member, same⟩ := mem_inSlot.mp (parts.mem_iff.mpr List.mem_cons_self)
    have serves : row.Serves kernel.aggregate.status := by
      unfold CommandRow.Serves
      rw [same]
      exact List.mem_cons_of_mem _ applicable
    refine ⟨row, member, serves, commandIsApplicable_iff.mpr (same ▸ applicable), by simpa using live,
      fun other there waitsFor isLive => ?_⟩
    have inSlot := mem_inSlot.mpr ⟨there, alone _ other.command.slot.mem_all waitsFor⟩
    rcases List.mem_cons.mp (parts.mem_iff.mp inSlot) with is | old
    · exact is
    · exact absurd isLive (settled other old).2

/-- **A waiting Ticket is served while its command is not overdue.** -/
theorem served_iff_of_staged (staged : Staged kernel)
    (waits : kernel.aggregate.status ∈ waitingStatuses) (nowMs : ℤ) :
    kernel.Served nowMs ↔ ¬ kernel.Overdue nowMs := by
  obtain ⟨row, member, serves, applicable, open_, alone⟩ := live_of_waiting staged waits
  constructor
  · rintro ⟨other, there, serving, acts⟩ ⟨late, lateThere, lateServes, prepared, overdue⟩
    have isLate : late = row := alone late lateThere lateServes (by rw [prepared]; decide)
    have isLive : other.status ∈ liveStatuses := by
      rcases acts with ⟨⟨status, -⟩, -⟩ | status | status
      all_goals
        rw [status]
        decide
    obtain rfl : other = late := (alone other there serving isLive).trans isLate.symm
    rcases acts with ⟨⟨-, early⟩, -⟩ | claimed | unknown
    · exact absurd early (not_lt.mpr overdue)
    · rw [prepared] at claimed
      cases claimed
    · rw [prepared] at unknown
      cases unknown
  · intro early
    refine ⟨row, member, serves, ?_⟩
    rcases open_ with prepared | claimed
    · refine .inl ⟨⟨prepared, ?_⟩, applicable⟩
      by_contra late
      exact early ⟨row, member, serves, prepared, not_lt.mp late⟩
    · exact .inr (.inl claimed)

end Waiting

/-! ### The law -/

section Law

variable {allowed : Kernel → Work → Prop} {start kernel : Kernel} {works : List Work}

/-- **A waiting Ticket has a command that some worker can act on exactly while the command that it
waits for is not PREPARED past its deadline.** -/
theorem waiting_ticket_served_iff (run : WorkRun allowed start works kernel) (nowMs : ℤ)
    (waits : kernel.aggregate.status ∈ waitingStatuses) :
    kernel.Served nowMs ↔ ¬ kernel.Overdue nowMs :=
  served_iff_of_staged (staged run) waits nowMs

/-- The sample Ticket, filled. -/
def filledWorks : List Work :=
  (dispatched .entry entryAnswer ++ [Action.reconcile none none filledSnapshot]).map Work.act

/-- The filled sample Ticket: it waits for its initial stop, and no command of it is claimed or of
unknown outcome. -/
theorem exists_filledRun : ∃ start kernel,
    WorkRun (fun _ _ => True) start filledWorks kernel ∧
      kernel.aggregate.status = .protectionPending ∧ kernel.aggregate.positionQty = 4 ∧
      ∀ row ∈ kernel.commands, row.status ≠ .claimed ∧ row.status ≠ .outcomeUnknown ∧
        (row.status = .prepared → row.command.deadlineAtMs = 31000) := by
  obtain ⟨start, kernel, run, tested⟩ := exists_workRun (fun _ _ => True) filledWorks
    (fun kernel => kernel.aggregate.status = .protectionPending ∧
      kernel.aggregate.positionQty = 4 ∧ kernel.commands.rows.all fun row =>
        row.status ≠ .claimed ∧ row.status ≠ .outcomeUnknown ∧
          (row.status = .prepared → row.command.deadlineAtMs = 31000))
    (by decide +kernel)
  simp only [Bool.decide_and, Bool.and_eq_true, decide_eq_true_eq, List.all_eq_true] at tested
  exact ⟨start, kernel, run, tested⟩

/-- The initial stop of the sample Ticket before its deadline. -/
theorem waiting_ticket_served_iff_before_deadline : ∃ start kernel,
    WorkRun (fun _ _ => True) start filledWorks kernel ∧
      kernel.aggregate.status = .protectionPending ∧
      (kernel.Served 30000 ↔ ¬ kernel.Overdue 30000) ∧ kernel.Served 30000 := by
  obtain ⟨start, kernel, run, status, -, early⟩ := exists_filledRun
  have law := waiting_ticket_served_iff run 30000 (by rw [status]; decide)
  refine ⟨start, kernel, run, status, law, law.mpr ?_⟩
  rintro ⟨row, member, -, prepared, overdue⟩
  have deadline := (early row member).2.2 prepared
  omega

/-- **A filled Ticket whose stop no worker will place**: once the deadline of the PREPARED initial
stop has passed, no command of the Ticket can be claimed, is claimed, or can be looked up. -/
theorem unprotected_ticket_stranded : ∃ start kernel,
    WorkRun (fun _ _ => True) start filledWorks kernel ∧
      kernel.aggregate.status = .protectionPending ∧ kernel.aggregate.positionQty = 4 ∧
      kernel.aggregate.status ∈ waitingStatuses ∧
      ∀ nowMs, 31000 ≤ nowMs → ¬ kernel.Served nowMs ∧ ∀ row ∈ kernel.commands,
        ¬ CommandTable.Claimable nowMs row ∧ row.status ≠ .claimed ∧
          row.status ≠ .outcomeUnknown := by
  obtain ⟨start, kernel, run, status, filled, settled⟩ := exists_filledRun
  refine ⟨start, kernel, run, status, filled, by rw [status]; decide, fun nowMs late => ?_⟩
  have stranded : ∀ row ∈ kernel.commands, ¬ CommandTable.Claimable nowMs row ∧
      row.status ≠ .claimed ∧ row.status ≠ .outcomeUnknown := by
    intro row member
    obtain ⟨claimed, unknown, deadline⟩ := settled row member
    refine ⟨?_, claimed, unknown⟩
    rintro ⟨prepared, before⟩
    have passed := deadline prepared
    omega
  refine ⟨?_, stranded⟩
  rintro ⟨row, member, -, ⟨claimable, -⟩ | claimed | unknown⟩
  · exact (stranded row member).1 claimable
  · exact (stranded row member).2.1 claimed
  · exact (stranded row member).2.2 unknown

end Law

end TradingKernel
