/-
**A command is executed at most once.**

Any number of workers call the repository's methods, and every worker whose claim succeeds may then
make the venue call of its command. A claim leaves `PREPARED`, and nothing leads back there, so a
command is claimed once; the claims that are made are the venue calls that were made and the ones
that are still to come (`Claims.sent`), so it is sent once. The owner of a claimed row is the worker
of that claim, and the final statuses are the source of no edge.
-/

import TradingKernel.Infrastructure.CommandCalls
import TradingKernel.Lib.Run
import TradingKernel.Lifecycle.Replay

namespace TradingKernel

open Text

/-! ### Executions -/

/-- The commands of all Tickets, and the claims whose venue call has not been made. -/
structure Execution where
  store : CommandStore
  unsent : List (CommandIdentity × NonBlankText)

/-- A call that succeeded, or the venue call of a claimed command. -/
inductive ExecutionLabel where
  | call (made : CommandCall)
  | send (id : CommandIdentity) (workerId : NonBlankText)

namespace ExecutionLabel

/-- The label claims the command. -/
def claims (id : CommandIdentity) : ExecutionLabel → Bool
  | call made => made.claimant.any fun claim => claim.1 = id
  | send _ _ => false

/-- The label sends the command to the venue. -/
def sends (id : CommandIdentity) : ExecutionLabel → Bool
  | call _ => false
  | send other _ => other = id

end ExecutionLabel

namespace Execution

/-- No commands yet. -/
def start : Execution where
  store _ := Table.empty
  unsent := []

/-- The status of a command. -/
def statusOf (state : Execution) (id : CommandIdentity) : Option ExchangeCommandStatus :=
  state.store.statusOf id

/-- One step of one worker; a call that raises is rolled back and is no step. -/
def next (state : Execution) : ExecutionLabel → Option Execution
  | .call call =>
      match state.store.carry call with
      | .error _ => none
      | .ok store => some ⟨store, state.unsent ++ call.claimant.toList⟩
  | .send id workerId =>
      if (id, workerId) ∈ state.unsent then
        some { state with unsent := state.unsent.erase (id, workerId) }
      else none

end Execution

/-- The interleavings of the workers' steps. -/
abbrev ExecutionRun (history : List ExecutionLabel) (state : Execution) : Prop :=
  Run (fun state label next => Execution.next state label = some next) Execution.start history
    state

/-- The statuses of a command whose outcome is known. -/
def settledStatuses : List ExchangeCommandStatus :=
  [.accepted, .rejected, .superseded, .reconciledAccepted, .reconciledAbsent]

/-- What a run does to each command. -/
structure ExecutedOnce (history : List ExecutionLabel) (state : Execution) : Prop where
  /-- A command leaves `PREPARED` for `CLAIMED` at most once. -/
  claimed : ∀ id, history.countP (ExecutionLabel.claims id) ≤ 1
  /-- Nothing but a claim makes a command `CLAIMED`, and a claim finds it `PREPARED`. -/
  moved : ∀ before label later source target id, history = before ++ [label] ++ later →
    ExecutionRun before source → source.next label = some target →
    (label.claims id = true → source.statusOf id = some .prepared ∧
      target.statusOf id = some .claimed) ∧
    (label.claims id = false → target.statusOf id = some .claimed →
      source.statusOf id = some .claimed)
  /-- A result is recorded while the command is `CLAIMED`, by the worker that claimed it. -/
  recorded : ∀ before call later id workerId, history = before ++ [.call call] ++ later →
    call.recorder = some (id, workerId) → ∃ source, ExecutionRun before source ∧
      source.statusOf id = some .claimed ∧
      (∃ row ∈ source.store id.ticketId, row.key = id.key ∧
        CommandTable.ClaimedBy workerId row) ∧
      ∃ claim, ExecutionLabel.call claim ∈ before ∧ claim.claimant = some (id, workerId)
  /-- An expired claim leaves an unknown outcome, and no claim comes after it. -/
  expired : ∀ before later id observedAtMs,
    history = before ++ [.call (.recordExpiredClaimUnknown id observedAtMs)] ++ later →
    (∃ target, ExecutionRun (before ++ [.call (.recordExpiredClaimUnknown id observedAtMs)])
      target ∧ target.statusOf id = some .outcomeUnknown) ∧
    later.countP (ExecutionLabel.claims id) = 0
  /-- A settled command keeps its status. -/
  settled : ∀ earlier later since id status, history = earlier ++ later →
    ExecutionRun earlier since → since.statusOf id = some status → status ∈ settledStatuses →
    state.statusOf id = some status
  /-- The venue call of a command is made at most once. -/
  sent : ∀ id, history.countP (ExecutionLabel.sends id) ≤ 1

/-! ### One step -/

section Step

variable {state next : Execution} {call : CommandCall} {label : ExecutionLabel}
  {id : CommandIdentity} {workerId : NonBlankText} {status : ExchangeCommandStatus}

theorem next_call_eq_some : state.next (.call call) = some next ↔
    ∃ store, state.store.carry call = .ok store ∧
      next = ⟨store, state.unsent ++ call.claimant.toList⟩ := by
  unfold Execution.next
  cases carried : state.store.carry call with
  | error raised => simp [carried]
  | ok store => simp [carried, eq_comm]

theorem next_send_eq_some : state.next (.send id workerId) = some next ↔
    (id, workerId) ∈ state.unsent ∧
      next = { state with unsent := state.unsent.erase (id, workerId) } := by
  show (if (id, workerId) ∈ state.unsent then some _ else none) = some next ↔ _
  split_ifs with there <;> simp [there, eq_comm]

theorem claims_iff : (ExecutionLabel.call call).claims id = true ↔
    ∃ workerId, call.claimant = some (id, workerId) := by
  rw [ExecutionLabel.claims]
  cases call.claimant with
  | none => simp
  | some claim =>
    obtain ⟨other, owner⟩ := claim
    simp

/-- A claim goes from `PREPARED` to `CLAIMED`. -/
theorem edge_of_claimant (claims : call.claimant = some (id, workerId)) :
    call.edge = (some .prepared, .claimed) := by
  cases call <;> first | rfl | simp [CommandCall.claimant] at claims

/-- Only a new command becomes `PREPARED`. -/
theorem new_of_edge (target : call.edge.2 = .prepared) : call.edge.1 = none := by
  cases call with
  | add ticketId command prepared => rfl
  | recordResult ownId ownWorker result =>
    have same : result.status = .prepared := target
    exact absurd (same ▸ result.status_mem) (by decide)
  | _ => simp [CommandCall.edge] at target

/-- No call leaves a settled status. -/
theorem edge_unsettled (source : call.edge.1 = some status) : status ∉ settledStatuses := by
  cases call <;> simp only [CommandCall.edge, Option.some.injEq, reduceCtorEq] at source <;>
    subst source <;> decide

/-- What a step does to the status of a command. -/
theorem next_moved (steps : state.next label = some next) :
    (label.claims id = true → state.statusOf id = some .prepared ∧
      next.statusOf id = some .claimed) ∧
    (label.claims id = false → next.statusOf id = some .claimed →
      state.statusOf id = some .claimed) := by
  cases label with
  | call call =>
    obtain ⟨store, carried, rfl⟩ := next_call_eq_some.mp steps
    constructor
    · intro claims
      obtain ⟨workerId, claims⟩ := claims_iff.mp claims
      have struck := CommandStore.carry_struck carried (CommandStore.hit_of_claimant claims)
      rwa [edge_of_claimant claims] at struck
    · intro other reached
      by_cases hit : state.store.Hit call id
      · obtain ⟨-, arrived⟩ := CommandStore.carry_struck carried hit
        have target : call.edge.2 = .claimed := Option.some.inj (arrived.symm.trans reached)
        have claims := claims_iff.mpr (CommandStore.claimant_of_edge target hit)
        rw [other] at claims
        exact absurd claims (by decide)
      · exact (CommandStore.carry_others carried hit).symm.trans reached
  | send ownId ownWorker =>
    obtain ⟨-, rfl⟩ := next_send_eq_some.mp steps
    exact ⟨fun claims => absurd claims Bool.false_ne_true, fun _ reached => reached⟩

/-- Nothing leads back to `PREPARED`. -/
theorem unclaimed_before (steps : state.next label = some next)
    (unclaimed : next.statusOf id = none ∨ next.statusOf id = some .prepared) :
    state.statusOf id = none ∨ state.statusOf id = some .prepared := by
  cases label with
  | call call =>
    obtain ⟨store, carried, rfl⟩ := next_call_eq_some.mp steps
    by_cases hit : state.store.Hit call id
    · obtain ⟨source, arrived⟩ := CommandStore.carry_struck carried hit
      have reached : store.statusOf id = none ∨ store.statusOf id = some .prepared := unclaimed
      rw [arrived] at reached
      rcases reached with none | prepared
      · exact absurd none (by simp)
      · exact .inl (source.trans (new_of_edge (Option.some.inj prepared)))
    · have same : state.statusOf id = store.statusOf id :=
        (CommandStore.carry_others carried hit).symm
      rw [same]
      exact unclaimed
  | send ownId ownWorker =>
    obtain ⟨-, rfl⟩ := next_send_eq_some.mp steps
    exact unclaimed

/-- A settled command stays as it is. -/
theorem settled_after (steps : state.next label = some next)
    (reached : state.statusOf id = some status) (settled : status ∈ settledStatuses) :
    next.statusOf id = some status := by
  cases label with
  | call call =>
    obtain ⟨store, carried, rfl⟩ := next_call_eq_some.mp steps
    by_cases hit : state.store.Hit call id
    · obtain ⟨source, -⟩ := CommandStore.carry_struck carried hit
      exact absurd settled (edge_unsettled (source.symm.trans reached))
    · exact (CommandStore.carry_others carried hit).trans reached
  | send ownId ownWorker =>
    obtain ⟨-, rfl⟩ := next_send_eq_some.mp steps
    exact reached

end Step

/-! ### Along a run -/

/-- The claims of a run so far. -/
structure Claims (history : List ExecutionLabel) (state : Execution) : Prop where
  claimed : ∀ id, history.countP (ExecutionLabel.claims id) ≤ 1
  unclaimed : ∀ id, state.statusOf id = none ∨ state.statusOf id = some .prepared →
    history.countP (ExecutionLabel.claims id) = 0
  owned : ∀ id, ∀ row ∈ state.store id.ticketId, row.key = id.key → row.status = .claimed →
    ∃ workerId, row.claimOwner = some workerId ∧
      ∃ claim, ExecutionLabel.call claim ∈ history ∧ claim.claimant = some (id, workerId)
  sent : ∀ id, history.countP (ExecutionLabel.sends id) +
    (state.unsent.countP fun claim => claim.1 = id) =
      history.countP (ExecutionLabel.claims id)

namespace Claims

variable {past : List ExecutionLabel} {state next : Execution} {label : ExecutionLabel}

theorem start : Claims [] Execution.start where
  claimed _ := Nat.zero_le 1
  unclaimed _ _ := rfl
  owned _ row member := by
    have none : row ∈ ([] : List CommandRow) := member
    simp at none
  sent _ := rfl

/-- The count of a label at the end of a history. -/
theorem countP_snoc (counted : ExecutionLabel → Bool) :
    (past ++ [label]).countP counted =
      past.countP counted + if counted label = true then 1 else 0 := by
  rw [List.countP_append, List.countP_singleton]

theorem moved (claims : Claims past state) (steps : state.next label = some next) :
    Claims (past ++ [label]) next where
  claimed id := by
    rw [countP_snoc]
    split_ifs with claiming
    · -- a command that can be claimed was never claimed
      rw [claims.unclaimed id (.inr ((next_moved steps).1 claiming).1)]
    · exact claims.claimed id
  unclaimed id prepared := by
    rw [countP_snoc, claims.unclaimed id (unclaimed_before steps prepared), if_neg]
    intro claiming
    rw [((next_moved steps).1 claiming).2] at prepared
    exact absurd prepared (by decide)
  owned id row member same claimed := by
    have kept (before : row ∈ state.store id.ticketId) : ∃ workerId,
        row.claimOwner = some workerId ∧ ∃ claim,
          ExecutionLabel.call claim ∈ past ++ [label] ∧ claim.claimant = some (id, workerId) := by
      obtain ⟨workerId, owner, claim, there, claims⟩ := claims.owned id row before same claimed
      exact ⟨workerId, owner, claim, List.mem_append_left _ there, claims⟩
    cases label with
    | call call =>
      obtain ⟨store, carried, rfl⟩ := next_call_eq_some.mp steps
      obtain ⟨table, returned, rfl⟩ := CommandStore.carry_eq_ok.mp carried
      by_cases ticket : id.ticketId = call.ticketId
      · have changed : row ∈ table := by simpa [ticket] using member
        rcases CommandCall.run_claimed returned changed claimed with before | ⟨worker, owner, by_⟩
        · exact kept (ticket ▸ before)
        · rw [same, ← ticket] at by_
          exact ⟨worker, owner, call, by simp, by_⟩
      · exact kept (by simpa [Function.update_of_ne ticket] using member)
    | send ownId ownWorker =>
      obtain ⟨-, rfl⟩ := next_send_eq_some.mp steps
      exact kept member
  sent id := by
    have soFar := claims.sent id
    rw [countP_snoc, countP_snoc]
    cases label with
    | call call =>
      obtain ⟨store, carried, rfl⟩ := next_call_eq_some.mp steps
      have open_ : (call.claimant.toList.countP fun claim => claim.1 = id) =
          if (ExecutionLabel.call call).claims id = true then 1 else 0 := by
        rw [ExecutionLabel.claims]
        cases call.claimant with
        | none => rfl
        | some claim => exact List.countP_singleton
      have none : (ExecutionLabel.call call).sends id = false := rfl
      rw [none, List.countP_append, open_]
      simp only [Bool.false_eq_true, if_false]
      omega
    | send ownId ownWorker =>
      obtain ⟨there, rfl⟩ := next_send_eq_some.mp steps
      have none : (ExecutionLabel.send ownId ownWorker).claims id = false := rfl
      have erased := (List.perm_cons_erase there).countP_eq fun claim => claim.1 = id
      rw [List.countP_cons] at erased
      have same : (if decide ((ownId, ownWorker).1 = id) = true then 1 else 0) =
          if (ExecutionLabel.send ownId ownWorker).sends id = true then 1 else 0 := rfl
      rw [same] at erased
      rw [none]
      simp only [Bool.false_eq_true, if_false]
      omega

end Claims

/-! ### The law -/

section Law

variable {history : List ExecutionLabel} {state : Execution}

theorem claims_of_run (run : ExecutionRun history state) : Claims history state :=
  run.history_invariant Claims Claims.start fun _ claims steps => claims.moved steps

/-- The step in the middle of a run. -/
theorem step_within {before later : List ExecutionLabel} {label : ExecutionLabel}
    (run : ExecutionRun (before ++ [label] ++ later) state) :
    ∃ source target, ExecutionRun before source ∧ source.next label = some target ∧
      ExecutionRun (before ++ [label]) target := by
  obtain ⟨target, begun, -⟩ := Run.append_iff.mp run
  obtain ⟨source, soFar, steps⟩ := Run.snoc_iff.mp begun
  exact ⟨source, target, soFar, steps, begun⟩

/-- **A command is executed at most once.** -/
theorem command_executed_once (run : ExecutionRun history state) : ExecutedOnce history state where
  claimed := (claims_of_run run).claimed
  moved _ _ _ _ _ _ _ _ steps := next_moved steps
  recorded := by
    rintro before call later id workerId rfl records
    obtain ⟨source, target, soFar, steps, -⟩ := step_within run
    obtain ⟨store, carried, -⟩ := next_call_eq_some.mp steps
    obtain ⟨table, returned, -⟩ := CommandStore.carry_eq_ok.mp carried
    obtain ⟨ticket, row, member, same, isClaimed, owner⟩ :=
      CommandCall.run_recorded returned records
    rw [ticket] at member
    obtain ⟨claimer, owned, claim, there, claims⟩ :=
      (claims_of_run soFar).owned id row member same isClaimed
    obtain rfl : claimer = workerId := Option.some.inj (owned.symm.trans owner)
    exact ⟨source, soFar, CommandTable.statusOf_eq_some.mpr ⟨row, member, same, isClaimed⟩,
      ⟨row, member, same, isClaimed, owner⟩, claim, there, claims⟩
  expired := by
    rintro before later id observedAtMs rfl
    obtain ⟨source, target, soFar, steps, begun⟩ := step_within run
    obtain ⟨store, carried, rfl⟩ := next_call_eq_some.mp steps
    have hit : source.store.Hit (.recordExpiredClaimUnknown id observedAtMs) id := ⟨rfl, rfl⟩
    obtain ⟨wasClaimed, unknown⟩ := CommandStore.carry_struck carried hit
    refine ⟨⟨_, begun, unknown⟩, ?_⟩
    -- the claim that expired is the one claim of the command
    obtain ⟨row, member, same, isClaimed⟩ := CommandTable.statusOf_eq_some.mp wasClaimed
    obtain ⟨claimer, -, claim, there, claims⟩ :=
      (claims_of_run soFar).owned id row member same isClaimed
    have once := (claims_of_run run).claimed id
    have claimedBefore : 0 < before.countP (ExecutionLabel.claims id) :=
      List.countP_pos_iff.mpr ⟨_, there, claims_iff.mpr ⟨claimer, claims⟩⟩
    rw [List.countP_append, List.countP_append] at once
    omega
  settled := by
    rintro earlier later since id status rfl soFar reached isSettled
    obtain ⟨middle, begun, rest⟩ := Run.append_iff.mp run
    obtain rfl : middle = since :=
      Run.unique (fun steps again => Option.some.inj (steps.symm.trans again)) begun soFar
    exact rest.invariant (fun state => state.statusOf id = some status) reached
      fun kept steps => settled_after steps kept isSettled
  sent id := by
    have balance := (claims_of_run run).sent id
    have once := (claims_of_run run).claimed id
    omega

/-- A leverage change of the sample Ticket. -/
def sampleLeverageTerms : CommandTerms where
  commandId := buildCommandId sampleTicket.identity.ticketId .setLeverage 1
  ticketIdentity := sampleTicket.identity
  kind := .setLeverage
  generation := 1
  idempotencyKey := buildCommandId sampleTicket.identity.ticketId .setLeverage 1
  venueClientOrderId := none
  payload := .setLeverage ⟨⟨5, 1, sampleDigest, sampleDigest⟩, by decide +kernel⟩
  createdAtMs := 1000
  deadlineAtMs := 2000

def sampleCommand : ExchangeCommand where
  toCommandTerms := sampleLeverageTerms
  valid := by decide +kernel
  status := .prepared

/-- The law on a run in which a claim expires after the venue call. -/
theorem command_executed_once_when_expired : ∃ history state, ExecutionRun history state ∧
    history.length = 4 ∧ ExecutedOnce history state := by
  let id : CommandIdentity := ⟨sampleTicket.identity.ticketId, ⟨.setLeverage, 1⟩⟩
  let history : List ExecutionLabel := [.call (.add id.ticketId sampleCommand rfl),
    .call (.claimOnePrepared id (named "worker-1") 1100 1200), .send id (named "worker-1"),
    .call (.recordExpiredClaimUnknown id 1200)]
  have evaluates : (Run.evaluate Execution.next Execution.start history).isSome = true := by
    decide
  obtain ⟨state, reached⟩ := Option.isSome_iff_exists.mp evaluates
  have run : ExecutionRun history state := Run.of_evaluate reached
  exact ⟨history, state, run, rfl, command_executed_once run⟩

end Law

end TradingKernel
