/-
**What a committed reduction leaves in the command table.**

`Materialised` is the whole effect of a commit: the aggregate is the reduction's, the rows that were
there are still there (a cancel that the effects found absent is marked so, `reconciled`), and
behind them stands one new row for each requested command, prepared, with the kind and the terms the
effect asks for (`KernelEffect.CarriedOutBy`). `Materialised.of_commitReduction` proves it by
induction on the effects, from `Materialised.of_materialise` for one of them.
-/

import TradingKernel.Domain.Requests
import TradingKernel.Infrastructure.CommitReduction

namespace TradingKernel

open Text Guard

/-! ### Commands that carry out an effect -/

/-- The command is an order of the kind, on the terms. -/
def IsOrder (command : ExchangeCommand) (kind : ExchangeCommandKind) (terms : OrderTerms) : Prop :=
  command.kind = kind ∧ ∃ payload, command.payload = .order payload ∧ payload.toOrderTerms = terms

/-- The command cancels the order, for the purpose. -/
def IsCancel (command : ExchangeCommand) (exchangeOrderId : String) (purpose : CancelPurpose) :
    Prop :=
  command.kind = .cancelOrder ∧ ∃ payload, command.payload = .cancel payload ∧
    payload.exchangeOrderId.text = strip exchangeOrderId ∧ payload.purpose = purpose

/-- The command is what the effect asks for, on the aggregate it is committed with. -/
def KernelEffect.CarriedOutBy (aggregate : TradeAggregate) (command : ExchangeCommand) :
    KernelEffect → Prop
  | .prepareEntryCommand ticket _ =>
      ∃ digest, IsOrder command .entry (entryTerms ticket digest)
  | .prepareSetLeverageCommand ticket =>
      command.kind = .setLeverage ∧ ∃ payload, command.payload = .setLeverage payload ∧
        payload.desiredLeverage = ticket.selectedLeverage
  | .prepareInitialStopCommand _ quantity stopPrice =>
      IsOrder command .initialStop (stopTerms aggregate quantity stopPrice)
  | .prepareTakeProfitCommand _ quantity limitPrice =>
      IsOrder command .takeProfit (takeProfitTerms aggregate quantity limitPrice)
  | .prepareProtectionReplacementCommand _ quantity stopPrice replaces watermarkMs =>
      IsOrder command .replaceProtection
        (replacementTerms aggregate quantity stopPrice replaces watermarkMs)
  | .prepareExitCommand _ quantity _ => IsOrder command .exit (marketTerms aggregate quantity)
  | .cancelEntryRemainder _ =>
      ∃ id, aggregate.entryExchangeOrderId = some id ∧ IsCancel command id .entryRemainder
  | .cancelVacuumEntryOrder _ id _ => IsCancel command id .selectionVacuumEntry
  | .prepareControlledFlattenCommand _ quantity =>
      IsOrder command .controlledFlatten (marketTerms aggregate quantity)
  | .cancelProtectionOrders _ id _ purpose => IsCancel command id purpose
  | _ => False

/-- The row is a new command that carries out the effect. -/
def Answers (aggregate : TradeAggregate) (effect : KernelEffect) (row : CommandRow) : Prop :=
  row.status = .prepared ∧ effect.CarriedOutBy aggregate row.command

/-! ### What the builders return -/

section Builders

variable {identity : TicketIdentity} {key : CommandKey} {payload : CommandPayload}
  {aggregate : TradeAggregate} {ticket : TradeTicket} {claim : CapacityClaim}
  {terms : OrderTerms} {createdAtMs deadlineAtMs occurredAtMs : ℤ} {command : ExchangeCommand}

/-- A new command has the key, the payload and the times it was built with, and is prepared. -/
theorem newCommand_eq_ok
    (returned : newCommand identity key payload createdAtMs deadlineAtMs = .ok command) :
    command.status = .prepared ∧ command.kind = key.kind ∧ command.generation = key.generation ∧
      command.payload = payload ∧ command.createdAtMs = createdAtMs ∧
      command.deadlineAtMs = deadlineAtMs := by
  obtain ⟨terms, prepared⟩ := CommandTerms.prepare_eq_ok.mp (validated_eq_ok.mp returned)
  simp [terms, prepared]

theorem orderCommand_eq_ok (returned : orderCommand aggregate key terms occurredAtMs = .ok command) :
    command.status = .prepared ∧ IsOrder command key.kind terms := by
  obtain ⟨payload, built, returned⟩ := bind_eq_ok.mp returned
  have validTerms := OrderTerms.validate_eq_ok.mp (validated_eq_ok.mp built)
  obtain ⟨prepared, kind, -, isPayload, -⟩ := newCommand_eq_ok returned
  exact ⟨prepared, kind, payload, isPayload, validTerms⟩

theorem entryCommand_eq_ok {digest : String}
    (returned : entryCommand ticket digest occurredAtMs = .ok command) :
    command.status = .prepared ∧ IsOrder command .entry (entryTerms ticket digest) := by
  obtain ⟨payload, built, returned⟩ := bind_eq_ok.mp returned
  have validTerms := OrderTerms.validate_eq_ok.mp (validated_eq_ok.mp built)
  obtain ⟨prepared, kind, -, isPayload, -⟩ := newCommand_eq_ok returned
  exact ⟨prepared, kind, payload, isPayload, validTerms⟩

theorem setLeverageCommand_eq_ok
    (returned : setLeverageCommand ticket claim occurredAtMs = .ok command) :
    command.status = .prepared ∧ command.kind = .setLeverage ∧
      ∃ payload, command.payload = .setLeverage payload ∧
        payload.desiredLeverage = ticket.selectedLeverage := by
  obtain ⟨payload, built, returned⟩ := bind_eq_ok.mp returned
  have validTerms := SetLeverageTerms.validate_eq_ok.mp (validated_eq_ok.mp built)
  obtain ⟨prepared, kind, -, isPayload, -⟩ := newCommand_eq_ok returned
  exact ⟨prepared, kind, payload, isPayload, by rw [validTerms]⟩

theorem cancelCommand_eq_ok {generation : ℕ} {exchangeOrderId : String}
    {orderNamespace : OrderNamespace} {purpose : CancelPurpose} {entryVacuumId : Option String}
    (returned : cancelCommand aggregate generation exchangeOrderId orderNamespace purpose
      entryVacuumId occurredAtMs = .ok command) :
    command.status = .prepared ∧ IsCancel command exchangeOrderId purpose := by
  obtain ⟨target, stripped, returned⟩ := demand_bind_eq_ok.mp returned
  obtain ⟨payload, built, returned⟩ := bind_eq_ok.mp returned
  have validTerms := CancelTerms.validate_eq_ok.mp (validated_eq_ok.mp built)
  obtain ⟨prepared, kind, -, isPayload, -⟩ := newCommand_eq_ok returned
  have isTarget : target.text = strip exchangeOrderId := by
    unfold NonBlankText.ofText? at stripped
    split_ifs at stripped
    rw [← Option.some.inj stripped]
  refine ⟨prepared, kind, payload, isPayload, ?_, ?_⟩
  · rw [validTerms, isTarget]
  · rw [validTerms]

end Builders

/-! ### Cancels found absent -/

/-- The orders whose cancel the effects found absent. -/
def absentCancels (effects : List KernelEffect) : List String :=
  effects.filterMap fun effect =>
    match effect with
    | .markCancelCommandReconciledAbsent _ id => some id
    | _ => none

/-- The row is a cancel of unknown outcome, of one of the orders. -/
def FoundAbsent (orderIds : List String) (row : CommandRow) : Prop :=
  row.kind = .cancelOrder ∧ row.status = .outcomeUnknown ∧
    ∃ id ∈ orderIds, CommandTable.Cancels id row.command

instance (orderIds : List String) (row : CommandRow) : Decidable (FoundAbsent orderIds row) :=
  inferInstanceAs (Decidable (_ ∧ _))

/-- A row after the effects: settled, if it is a cancel that they found absent. -/
def reconciled (orderIds : List String) (observedAtMs : ℤ) (row : CommandRow) : CommandRow :=
  if FoundAbsent orderIds row then row.settled .reconciledAbsent observedAtMs else row

section Reconciled

variable {orderIds : List String} {observedAtMs : ℤ} {row : CommandRow}

theorem reconciled_terms : (reconciled orderIds observedAtMs row).command.toCommandTerms =
    row.command.toCommandTerms := by
  unfold reconciled
  split_ifs <;> rfl

/-- Only an unknown outcome is reconciled. -/
theorem reconciled_of_known (known : row.status ≠ .outcomeUnknown) :
    reconciled orderIds observedAtMs row = row :=
  if_neg fun found => known found.2.1

@[simp] theorem reconciled_nil : reconciled [] observedAtMs row = row := by
  refine if_neg ?_
  rintro ⟨-, -, id, member, -⟩
  exact List.not_mem_nil member

/-- A row that is in another status after the effects has been found absent. -/
theorem reconciled_status : (reconciled orderIds observedAtMs row).status = row.status ∨
    FoundAbsent orderIds row ∧
      (reconciled orderIds observedAtMs row).status = .reconciledAbsent := by
  unfold reconciled
  split_ifs with found
  · exact .inr ⟨found, rfl⟩
  · exact .inl rfl

theorem map_reconciled_nil (rows : List CommandRow) :
    rows.map (reconciled [] observedAtMs) = rows := by
  rw [List.map_congr_left fun row _ => reconciled_nil, List.map_id']

theorem reconciled_append {later : List String} :
    reconciled later observedAtMs (reconciled orderIds observedAtMs row) =
      reconciled (orderIds ++ later) observedAtMs row := by
  by_cases found : FoundAbsent orderIds row
  · have whole : FoundAbsent (orderIds ++ later) row := by
      obtain ⟨kind, unknown, id, member, cancels⟩ := found
      exact ⟨kind, unknown, id, List.mem_append_left _ member, cancels⟩
    have settled : reconciled orderIds observedAtMs row =
        row.settled .reconciledAbsent observedAtMs := if_pos found
    rw [settled, reconciled_of_known (by simp)]
    exact (if_pos whole).symm
  · have kept : reconciled orderIds observedAtMs row = row := if_neg found
    have same : FoundAbsent (orderIds ++ later) row ↔ FoundAbsent later row := by
      refine and_congr_right fun kind => and_congr_right fun unknown => ?_
      constructor
      · rintro ⟨id, member, cancels⟩
        rcases List.mem_append.mp member with earlier | later
        · exact absurd ⟨kind, unknown, id, earlier, cancels⟩ found
        · exact ⟨id, later, cancels⟩
      · rintro ⟨id, member, cancels⟩
        exact ⟨id, List.mem_append_right _ member, cancels⟩
    rw [kept]
    unfold reconciled
    simp only [same]

end Reconciled

/-! ### Commits -/

/-- What the effects leave of a kernel. -/
structure Materialised (occurredAtMs : ℤ) (effects : List KernelEffect) (kernel next : Kernel) :
    Prop where
  aggregate : next.aggregate = kernel.aggregate
  claim : next.claim = kernel.claim
  rows : ∃ added, List.Forall₂ (Answers kernel.aggregate) (requests effects) added ∧
    next.commands.rows =
      kernel.commands.rows.map (reconciled (absentCancels effects) occurredAtMs) ++ added

namespace Materialised

variable {occurredAtMs : ℤ} {effect : KernelEffect} {effects : List KernelEffect}
  {kernel middle next : Kernel} {command : ExchangeCommand}

/-- An effect that asks for nothing, and leaves the commands alone. -/
theorem silent (asks : effect.asksCommand = false) (marks : absentCancels [effect] = [])
    (aggregate : next.aggregate = kernel.aggregate := by rfl)
    (claim : next.claim = kernel.claim := by rfl)
    (commands : next.commands = kernel.commands := by rfl) :
    Materialised occurredAtMs [effect] kernel next where
  aggregate := aggregate
  claim := claim
  rows := by
    refine ⟨[], ?_, ?_⟩
    · simp [requests, asks]
    · rw [marks, map_reconciled_nil, commands, List.append_nil]

/-- An effect that asks for a command, and the command prepared for it. -/
theorem prepared (asks : effect.asksCommand = true) (marks : absentCancels [effect] = [])
    (status : command.status = .prepared)
    (carries : effect.CarriedOutBy kernel.aggregate command)
    (returned : kernel.prepare command = .ok next) :
    Materialised occurredAtMs [effect] kernel next := by
  obtain ⟨commands, added, returned⟩ := bind_eq_ok.mp returned
  obtain rfl := Except.ok.inj returned
  refine ⟨rfl, rfl, [⟨command, none, none, none⟩], ?_, ?_⟩
  · simp [requests, asks, Answers, CommandRow.status, status, carries]
  · rw [marks, map_reconciled_nil]
    exact (Table.insert_eq_ok.mp added).2

/-- A command of a kind that is prepared once, or may be retried. -/
theorem prepareOnce {kind : ExchangeCommandKind} {terms : OrderTerms}
    (asks : effect.asksCommand = true) (marks : absentCancels [effect] = [])
    (carries : ∀ command, IsOrder command kind terms →
      effect.CarriedOutBy kernel.aggregate command)
    (returned : kernel.prepareOnce kind terms occurredAtMs = .ok next) :
    Materialised occurredAtMs [effect] kernel next := by
  obtain ⟨command, built, returned⟩ := bind_eq_ok.mp returned
  obtain ⟨status, isOrder⟩ := orderCommand_eq_ok built
  exact prepared asks marks status (carries command isOrder) returned

theorem prepareRetryable {kind : ExchangeCommandKind} {terms : OrderTerms}
    (asks : effect.asksCommand = true) (marks : absentCancels [effect] = [])
    (carries : ∀ command, IsOrder command kind terms →
      effect.CarriedOutBy kernel.aggregate command)
    (returned : kernel.prepareRetryable kind terms occurredAtMs = .ok next) :
    Materialised occurredAtMs [effect] kernel next := by
  obtain ⟨generation, -, returned⟩ := bind_eq_ok.mp returned
  obtain ⟨command, built, returned⟩ := bind_eq_ok.mp returned
  obtain ⟨status, isOrder⟩ := orderCommand_eq_ok built
  exact prepared asks marks status (carries command isOrder) returned

theorem prepareEntryCancel {exchangeOrderId : String} {purpose : CancelPurpose}
    {entryVacuumId : Option String} (asks : effect.asksCommand = true)
    (marks : absentCancels [effect] = [])
    (carries : ∀ command, IsCancel command exchangeOrderId purpose →
      effect.CarriedOutBy kernel.aggregate command)
    (returned : kernel.prepareEntryCancel exchangeOrderId purpose entryVacuumId occurredAtMs =
      .ok next) :
    Materialised occurredAtMs [effect] kernel next := by
  obtain ⟨command, built, returned⟩ := bind_eq_ok.mp returned
  obtain ⟨status, isCancel⟩ := cancelCommand_eq_ok built
  exact prepared asks marks status (carries command isCancel) returned

/-- The cancels of an order that the effect finds absent. -/
theorem marked {ticketId exchangeOrderId : String}
    (returned : kernel.materialise occurredAtMs
      (.markCancelCommandReconciledAbsent ticketId exchangeOrderId) = .ok next) :
    Materialised occurredAtMs [.markCancelCommandReconciledAbsent ticketId exchangeOrderId] kernel
      next := by
  obtain ⟨commands, updates, returned⟩ := bind_eq_ok.mp returned
  obtain rfl := Except.ok.inj returned
  refine ⟨rfl, rfl, [], List.Forall₂.nil, ?_⟩
  obtain ⟨-, rfl⟩ := Table.update_eq_ok.mp updates
  rw [List.append_nil]
  refine List.map_congr_left fun row _ => ?_
  have same : (row.kind = .cancelOrder ∧ row.status = .outcomeUnknown ∧
      CommandTable.Cancels exchangeOrderId row.command) ↔ FoundAbsent [exchangeOrderId] row := by
    simp [FoundAbsent]
  unfold reconciled
  exact if_congr same rfl rfl

/-- **One effect.** -/
theorem of_materialise (returned : kernel.materialise occurredAtMs effect = .ok next) :
    Materialised occurredAtMs [effect] kernel next := by
  cases effect with
  | prepareEntryCommand ticket digest =>
    obtain ⟨claim, -, returned⟩ := bind_eq_ok.mp returned
    obtain ⟨command, built, returned⟩ := bind_eq_ok.mp returned
    obtain ⟨status, isOrder⟩ := entryCommand_eq_ok built
    exact prepared rfl rfl status ⟨_, isOrder⟩ returned
  | prepareSetLeverageCommand ticket =>
    obtain ⟨claim, -, returned⟩ := bind_eq_ok.mp returned
    obtain ⟨command, built, returned⟩ := bind_eq_ok.mp returned
    obtain ⟨status, isLeverage⟩ := setLeverageCommand_eq_ok built
    exact prepared rfl rfl status isLeverage returned
  | prepareInitialStopCommand ticketId quantity stopPrice =>
    exact prepareOnce rfl rfl (fun _ => id) returned
  | prepareTakeProfitCommand ticketId quantity limitPrice =>
    exact prepareRetryable rfl rfl (fun _ => id) returned
  | prepareProtectionReplacementCommand ticketId quantity stopPrice replaces watermarkMs =>
    exact prepareRetryable rfl rfl (fun _ => id) returned
  | prepareExitCommand ticketId quantity reason =>
    exact prepareRetryable rfl rfl (fun _ => id) returned
  | cancelEntryRemainder ticketId =>
    obtain ⟨entryOrderId, held, returned⟩ := demand_bind_eq_ok.mp returned
    exact prepareEntryCancel rfl rfl (fun _ isCancel => ⟨entryOrderId, held, isCancel⟩) returned
  | cancelVacuumEntryOrder ticketId exchangeOrderId entryVacuumId =>
    obtain ⟨-, returned⟩ := refuse_bind_eq_ok.mp returned
    exact prepareEntryCancel rfl rfl (fun _ => id) returned
  | requestControlledFlatten ticketId quantity =>
    obtain ⟨-, returned⟩ := refuse_bind_eq_ok.mp returned
    obtain rfl := Except.ok.inj returned
    exact silent rfl rfl
  | prepareControlledFlattenCommand ticketId quantity =>
    exact prepareOnce rfl rfl (fun _ => id) returned
  | cancelProtectionOrders ticketId exchangeOrderId orderNamespace purpose =>
    obtain ⟨generation, -, returned⟩ := bind_eq_ok.mp returned
    obtain ⟨command, built, returned⟩ := bind_eq_ok.mp returned
    obtain ⟨status, isCancel⟩ := cancelCommand_eq_ok built
    exact prepared rfl rfl status isCancel returned
  | markCancelCommandReconciledAbsent ticketId exchangeOrderId => exact marked returned
  | resolveIncident ticketId incidentKind =>
    obtain ⟨-, returned⟩ := refuse_bind_eq_ok.mp returned
    obtain rfl := Except.ok.inj returned
    exact silent rfl rfl
  | _ =>
    obtain rfl := Except.ok.inj returned
    exact silent rfl rfl

/-- A new command is not touched by the effects that follow it. -/
theorem reconciled_added {aggregate : TradeAggregate} {asked : List KernelEffect}
    {added : List CommandRow} (answers : List.Forall₂ (Answers aggregate) asked added)
    (orderIds : List String) : added.map (reconciled orderIds occurredAtMs) = added := by
  induction answers with
  | nil => rfl
  | cons answer _ ih =>
    rw [List.map_cons, ih, reconciled_of_known (by rw [answer.1]; decide)]

/-- **One effect and then the others.** -/
theorem cons (first : Materialised occurredAtMs [effect] kernel middle)
    (rest : Materialised occurredAtMs effects middle next) :
    Materialised occurredAtMs (effect :: effects) kernel next := by
  obtain ⟨added, answers, rows⟩ := first.rows
  obtain ⟨later, laterAnswers, laterRows⟩ := rest.rows
  refine ⟨rest.aggregate.trans first.aggregate, rest.claim.trans first.claim, added ++ later,
    ?_, ?_⟩
  · rw [requests_cons]
    rw [first.aggregate] at laterAnswers
    exact List.rel_append answers laterAnswers
  · have split : absentCancels (effect :: effects) =
        absentCancels [effect] ++ absentCancels effects :=
      List.filterMap_append (l := [effect])
    rw [laterRows, rows, List.map_append, List.map_map, reconciled_added answers, split,
      List.append_assoc]
    exact congrArg (· ++ _) (List.map_congr_left fun row _ => reconciled_append)

theorem of_materialiseAll (returned : Kernel.materialiseAll occurredAtMs kernel effects =
    .ok next) : Materialised occurredAtMs effects kernel next := by
  induction effects generalizing kernel with
  | nil =>
    obtain rfl := Except.ok.inj returned
    exact ⟨rfl, rfl, [], List.Forall₂.nil, by
      rw [absentCancels, List.filterMap_nil, map_reconciled_nil, List.append_nil]⟩
  | cons effect effects ih =>
    obtain ⟨middle, first, rest⟩ := bind_eq_ok.mp returned
    exact (of_materialise first).cons (ih rest)

/-- **A committed reduction.** -/
theorem of_commitReduction {reduction : Reduction}
    (committed : kernel.commitReduction occurredAtMs reduction = .ok next) :
    Materialised occurredAtMs reduction.effects
      { kernel with aggregate := reduction.aggregate } next :=
  of_materialiseAll committed

end Materialised

end TradingKernel
