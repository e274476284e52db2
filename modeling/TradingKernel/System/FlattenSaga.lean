/-
**The Owner's flatten, over every run of the account.**

A `ControlAction` is one transaction of the control plane or of a Ticket, and a `ControlRun` is any
sequence of them that did not raise, from a store without Tickets and operations. In every state that
a run reaches, a completed flatten has only targets that have ended, an advance never raises, and no
operation is consumed twice (`FlattenLaw`); a consume requests the exit of the whole position of each
eligible target, or of none (`ExitsAllOrNone`), and its targets only leave from then on
(`OnlyLeaves`); and an operation whose targets have ended is completed within four advances
(`CompletedBy`). All of it is read off what one action does (`ControlDid`).
-/

import TradingKernel.Lifecycle.ReviewLineage
import TradingKernel.System.FlattenSteps

namespace TradingKernel

open Text Guard

/-! ### Actions -/

inductive ControlAction where
  | ticket (transaction : Transaction)
  | setEntry (ownerPolicyId : NonBlankText) (enabled : Bool) (resumeBlocker : Option String)
      (request : ControlMutationRequest) (authorizationId : NonBlankText)
  | beginFlatten (ownerPolicyId : NonBlankText) (request : FlattenSubmitRequest)
      (authorizationId : NonBlankText)
  | freeze (ownerPolicyId authorizationId : NonBlankText) (nowMs : ℤ)
  | consume (workerId : String) (nowMs leaseUntilMs : ℤ)
  | advance (openIncidentKind : NonBlankText → Option String) (nowMs : ℤ)

/-- The state that an action leaves. -/
def ControlState.apply (state : ControlState) : ControlAction → Except Raised ControlState
  | .ticket transaction => do
      let store ← state.store.transact transaction
      return { state with store := store }
  | .setEntry ownerPolicyId enabled resumeBlocker request authorizationId =>
      state.setGlobalEntryState ownerPolicyId enabled resumeBlocker request authorizationId
  | .beginFlatten ownerPolicyId request authorizationId => do
      let outcome ← state.beginFlattenAll ownerPolicyId request authorizationId
      return outcome.1
  | .freeze ownerPolicyId authorizationId nowMs => do
      let outcome ← state.freezeFlattenTargets ownerPolicyId authorizationId nowMs
      return outcome.1
  | .consume workerId nowMs leaseUntilMs => do
      let outcome ← state.consumePendingFlatten workerId nowMs leaseUntilMs
      return outcome.1
  | .advance openIncidentKind nowMs => do
      let outcome ← state.advanceFlattenOperationOnce openIncidentKind nowMs
      return outcome.1

/-- An issue reads the policy of its claim as it is stored. -/
def ControlAction.Reads (state : ControlState) : ControlAction → Prop
  | .ticket (.issue view claim _) =>
      view.policy.map (fun policy =>
        (policy.policyVersion, policy.maxConcurrentTickets, policy.newEntrySubmitEnabled)) =
      (state.policies.lookup claim.ownerPolicyId).map fun policy =>
        (policy.policyVersion, policy.maxConcurrentTickets, policy.newEntrySubmitEnabled)
  | _ => True

instance ControlAction.decidableReads (state : ControlState) :
    (action : ControlAction) → Decidable (action.Reads state)
  | .ticket (.issue _ _ _) => inferInstanceAs (Decidable (_ = _))
  | .ticket (.commit _ _) => .isTrue trivial
  | .setEntry _ _ _ _ _ => .isTrue trivial
  | .beginFlatten _ _ _ => .isTrue trivial
  | .freeze _ _ _ => .isTrue trivial
  | .consume _ _ _ => .isTrue trivial
  | .advance _ _ => .isTrue trivial

/-- The action resumes new entries under the policy. -/
def ControlAction.Resumes (ownerPolicyId : NonBlankText) : ControlAction → Prop
  | .setEntry other enabled _ _ _ => other = ownerPolicyId ∧ enabled = true
  | _ => False

instance ControlAction.decidableResumes (ownerPolicyId : NonBlankText) :
    (action : ControlAction) → Decidable (action.Resumes ownerPolicyId)
  | .setEntry _ _ _ _ _ => inferInstanceAs (Decidable (_ ∧ _))
  | .ticket _ => .isFalse not_false
  | .beginFlatten _ _ _ => .isFalse not_false
  | .freeze _ _ _ => .isFalse not_false
  | .consume _ _ _ => .isFalse not_false
  | .advance _ _ => .isFalse not_false

/-- An action that was taken. -/
structure ControlTaken (state : ControlState) (action : ControlAction) (next : ControlState) :
    Prop where
  applied : state.apply action = .ok next
  reads : action.Reads state

/-- What an action does, if it does anything. -/
inductive ControlDid (state : ControlState) : ControlAction → ControlState → Prop where
  | nothing {action : ControlAction} : ControlDid state action state
  | transacted {transaction : Transaction} {store : Store}
      (returned : state.store.transact transaction = .ok store) :
      ControlDid state (.ticket transaction) { state with store := store }
  | entrySet {ownerPolicyId authorizationId : NonBlankText} {enabled : Bool}
      {resumeBlocker : Option String} {request : ControlMutationRequest} {next : ControlState}
      (store : next.store = state.store) (operations : next.operations = state.operations)
      (policies : ∀ other, ownerPolicyId ≠ other ∨ enabled = false → state.Paused other →
        next.Paused other) :
      ControlDid state (.setEntry ownerPolicyId enabled resumeBlocker request authorizationId) next
  | begun {ownerPolicyId authorizationId : NonBlankText} {request : FlattenSubmitRequest}
      {operation : OwnerControlOperation} {next : ControlState}
      (begun : Begun state ownerPolicyId operation next) :
      ControlDid state (.beginFlatten ownerPolicyId request authorizationId) next
  | frozen {ownerPolicyId authorizationId : NonBlankText} {nowMs : ℤ}
      {old operation : OwnerControlOperation} {next : ControlState}
      (frozen : Frozen state old operation next) :
      ControlDid state (.freeze ownerPolicyId authorizationId nowMs) next
  | consumed {workerId : String} {nowMs leaseUntilMs : ℤ}
      {operation completed : OwnerControlOperation} {next : ControlState}
      (consumed : Consumed state nowMs operation completed next) :
      ControlDid state (.consume workerId nowMs leaseUntilMs) next
  | advanced {openIncidentKind : NonBlankText → Option String} {nowMs : ℤ}
      {operation updated : OwnerControlOperation} {next : ControlState}
      (advanced : Advanced state openIncidentKind operation updated next) :
      ControlDid state (.advance openIncidentKind nowMs) next

/-- The runs of actions, from a store without Tickets and operations. -/
structure ControlRun (start : ControlState) (actions : List ControlAction) (state : ControlState) :
    Prop where
  seeded : start.store.Seeded
  unbegun : start.operations.rows = []
  steps : Run ControlTaken start actions state

section Steps

variable {start state next : ControlState} {action : ControlAction} {actions : List ControlAction}

theorem ControlTaken.did (taken : ControlTaken state action next) :
    ControlDid state action next := by
  have applied := taken.applied
  cases action with
  | ticket transaction =>
    obtain ⟨store, returned, same⟩ := bind_eq_ok.mp applied
    obtain rfl := pure_eq_ok.mp same
    exact .transacted returned
  | setEntry ownerPolicyId enabled resumeBlocker request authorizationId =>
    obtain ⟨store, operations, -, policies⟩ := ControlState.of_setGlobalEntryState applied
    exact .entrySet store operations policies
  | beginFlatten ownerPolicyId request authorizationId =>
    obtain ⟨⟨after, operation⟩, began, same⟩ := bind_eq_ok.mp applied
    obtain rfl : next = after := pure_eq_ok.mp same
    rcases ControlState.of_beginFlattenAll began with ⟨rfl, -⟩ | ⟨-, begun⟩
    · exact .nothing
    · exact .begun begun
  | freeze ownerPolicyId authorizationId nowMs =>
    obtain ⟨⟨after, operation⟩, froze, same⟩ := bind_eq_ok.mp applied
    obtain rfl : next = after := pure_eq_ok.mp same
    rcases ControlState.of_freezeFlattenTargets froze with rfl | ⟨old, -, frozen⟩
    · exact .nothing
    · exact .frozen frozen
  | consume workerId nowMs leaseUntilMs =>
    obtain ⟨⟨after, outcome⟩, consumes, same⟩ := bind_eq_ok.mp applied
    obtain rfl : next = after := pure_eq_ok.mp same
    rcases ControlState.of_consumePendingFlatten consumes with ⟨-, rfl⟩ | ⟨_, _, -, consumed⟩
    · exact .nothing
    · exact .consumed consumed
  | advance openIncidentKind nowMs =>
    obtain ⟨⟨after, outcome⟩, advances, same⟩ := bind_eq_ok.mp applied
    obtain rfl : next = after := pure_eq_ok.mp same
    obtain ⟨_, _, returns, rest⟩ := state.advanceFlattenOperationOnce_returns openIncidentKind nowMs
    rw [advances] at returns
    obtain ⟨rfl, -⟩ := Prod.mk.inj (Except.ok.inj returns)
    rcases rest with rfl | ⟨_, _, -, -, advanced⟩
    · exact .nothing
    · exact .advanced advanced

/-- Every action is a step. -/
theorem ControlTaken.step (taken : ControlTaken state action next) (kept : ControlKept state) :
    ControlStep state next := by
  cases taken.did with
  | nothing => exact .refl kept
  | transacted returned =>
    exact ⟨kept.balanced.onward returned, .refl OwnerControlOperation.Later.refl,
      fun _ here => .inl here⟩
  | entrySet store operations =>
    refine ⟨?_, .of_eq OwnerControlOperation.Later.refl operations, fun _ here => ?_⟩
    · rw [store]
      exact .refl kept.balanced
    · rw [operations] at here
      exact .inl here
  | begun begun => exact begun.step kept.balanced
  | frozen frozen => exact frozen.step kept.balanced
  | consumed consumed => exact consumed.step kept
  | advanced advanced => exact advanced.step kept

/-- What a run from a kept state reaches is kept, and a step from it. -/
theorem ControlKept.along (kept : ControlKept state) (steps : Run ControlTaken state actions next) :
    ControlKept next ∧ ControlStep state next := by
  refine steps.invariant (fun later => ControlKept later ∧ ControlStep state later)
    ⟨kept, .refl kept⟩ ?_
  rintro label middle after ⟨before, from_⟩ taken
  have step : ControlStep middle after := taken.step before
  exact ⟨step.kept before, from_.trans step⟩

theorem ControlRun.kept (run : ControlRun start actions state) : ControlKept state := by
  have begun : ControlKept start := by
    refine ⟨.seeded run.seeded, fun operation member => ?_⟩
    rw [← Table.mem_rows, run.unbegun] at member
    exact absurd member List.not_mem_nil
  exact (begun.along run.steps).1

end Steps

/-! ### A sample run -/

section Sample

/-- No Tickets, and the sample Ticket's policy, which lets new entries in. -/
def sampleControl : ControlState where
  store := emptyStore
  policies := ⟨[⟨sampleTicket.ownerPolicyId, 1, 2, true⟩], List.nodup_singleton _⟩
  authorizations := Table.empty
  operations := Table.empty

/-- The preview of the sample Ticket's account. -/
def samplePreview (state : ControlState) : Except Raised FlattenPreview :=
  state.previewFlattenAll sampleTicket.ownerPolicyId sampleClaimTicket.account.venueId
    sampleClaimTicket.account.accountId

/-- The flatten of the account as it is previewed. -/
def sampleFlattenRequest (state : ControlState) : FlattenSubmitRequest where
  expectedVersion := 1
  reason := named "sample-flatten-reason"
  idempotencyKey := named "sample-flatten-key"
  ownerIdentity := named "sample-flatten-owner"
  nowMs := 5000
  venueId := sampleClaimTicket.account.venueId
  accountId := sampleClaimTicket.account.accountId
  snapshotDigest := ((samplePreview state).toOption.map FlattenPreview.snapshotDigest).getD ""

def sampleAuthorizationId : NonBlankText := named "sample-flatten-authorization"

/-- The facts as the next events of the sample Ticket, each committed on its own. -/
def sampleCommits (n : ℕ) (facts : List PlainFact) : List ControlAction :=
  (script n facts).map fun event => .ticket (.commit Table.empty event)

/-- The sample Ticket is issued, filled and protected. -/
def protectingActions : List ControlAction :=
  .ticket (.issue sampleView sampleTicketClaim 1000) :: sampleCommits 1 protectedFacts

theorem exitAccepted_plain : (TicketFact.exitAccepted "exit-1").venueObservedAtMs = none := rfl

theorem ownedOrphanOrderDetected_plain (id : String) (orderNamespace : OrderNamespace) :
    (TicketFact.ownedOrphanOrderDetected id orderNamespace).venueObservedAtMs = none := rfl

theorem protectionCancelConfirmed_plain (id : String) :
    (TicketFact.protectionCancelConfirmed id).venueObservedAtMs = none := rfl

theorem budgetSettled_plain : TicketFact.budgetSettled.venueObservedAtMs = none := rfl

theorem reviewRecorded_plain : (TicketFact.reviewRecorded "review-1").venueObservedAtMs = none := rfl

/-- The exit is accepted and found flat, the orders are cancelled, and the Ticket is closed. -/
def leavingActions : List ControlAction :=
  sampleCommits 7 ([⟨.exitAccepted "exit-1", exitAccepted_plain⟩,
    ⟨.positionFlatConfirmed, positionFlatConfirmed_plain⟩,
    ⟨.ownedOrphanOrderDetected "tp-1" .regular, ownedOrphanOrderDetected_plain _ _⟩,
    ⟨.protectionCancelConfirmed "tp-1", protectionCancelConfirmed_plain _⟩,
    ⟨.ownedOrphanOrderDetected "stop-1" .conditional, ownedOrphanOrderDetected_plain _ _⟩,
    ⟨.protectionCancelConfirmed "stop-1", protectionCancelConfirmed_plain _⟩,
    ⟨.reconciliationMatched none, reconciliationMatched_plain⟩,
    ⟨.budgetSettled, budgetSettled_plain⟩,
    ⟨.reviewRecorded "review-1", reviewRecorded_plain⟩])

/-- Four advances, without an open incident. -/
def followingActions : List ControlAction :=
  [8000, 8001, 8002, 8003].map fun nowMs => .advance (fun _ => none) nowMs

/-- The state that actions lead to. -/
def ControlState.evaluate (state : ControlState) (actions : List ControlAction) :
    Option ControlState :=
  Run.evaluate (fun state action =>
    if action.Reads state then (state.apply action).toOption else none) state actions

theorem ControlState.evaluate_cons {state next : ControlState} {action : ControlAction}
    {actions : List ControlAction} (reads : action.Reads state)
    (applied : state.apply action = .ok next) :
    state.evaluate (action :: actions) = next.evaluate actions := by
  unfold ControlState.evaluate
  rw [Run.evaluate, if_pos reads, applied]
  rfl

theorem ControlState.run_of_evaluate {state next : ControlState} {actions : List ControlAction}
    (evaluated : state.evaluate actions = some next) : Run ControlTaken state actions next :=
  (Run.of_evaluate_ok evaluated).mono fun taken => ⟨taken.1, taken.2⟩

/-- The Owner's request to pause the sample policy. -/
def samplePauseRequest : ControlMutationRequest where
  expectedVersion := 1
  reason := named "sample-pause-reason"
  idempotencyKey := named "sample-pause-key"
  ownerIdentity := named "sample-pause-owner"
  nowMs := 2000

/-- What an issue reads once the policy is paused. -/
def pausedView : IssueView :=
  { sampleView with
    policy := sampleView.policy.map fun policy =>
      { policy with policyVersion := 2, newEntrySubmitEnabled := false } }

/-- The policy is paused over the Tickets that there are, and another issue returns. -/
def samplePauses (state : ControlState) : Bool :=
  decide (state.store.tickets.rows ≠ []) &&
  (state.authorizations.lookup samplePauseRequest.idempotencyKey).isNone &&
  (state.setGlobalEntryState sampleTicket.ownerPolicyId false none samplePauseRequest
    sampleAuthorizationId).toOption.any fun set =>
      (set.evaluate [.ticket (.issue pausedView sampleTicketClaim 3000)]).isSome

/-- The sample Ticket is issued, under the policy that lets new entries in. -/
def issuedControl : ControlState := { sampleControl with store := sampleStore }

theorem apply_sampleIssue :
    sampleControl.apply (.ticket (.issue sampleView sampleTicketClaim 1000)) = .ok issuedControl :=
  bind_eq_ok.mpr ⟨sampleStore, bind_eq_ok.mpr ⟨_, issueTicket_sample, rfl⟩, rfl⟩

/-- The issue is proved, so only the commits after it are evaluated. -/
theorem evaluate_protectingActions :
    sampleControl.evaluate protectingActions =
      issuedControl.evaluate (sampleCommits 1 protectedFacts) :=
  ControlState.evaluate_cons rfl apply_sampleIssue

/-- The issued Ticket is protected and flattened, and the operation is completed. -/
def sampleFlattens : Bool :=
  (issuedControl.evaluate (sampleCommits 1 protectedFacts)).any fun guarded =>
    (guarded.authorizations.lookup (sampleFlattenRequest guarded).idempotencyKey).isNone &&
    (samplePreview guarded).toOption.any fun preview =>
      (guarded.authorizeFlatten preview sampleTicket.ownerPolicyId (sampleFlattenRequest guarded)
        sampleAuthorizationId).toOption.any fun begun =>
        (begun.1.evaluate [.freeze sampleTicket.ownerPolicyId sampleAuthorizationId 6000]).any
          fun frozen =>
          (frozen.consumePendingFlatten "worker" 7000 7500).toOption.any fun consumed =>
            consumed.2.any (fun requested =>
              requested.targetTicketIds ≠ [] ∧ requested.state = .exitsRequested) &&
            (consumed.1.evaluate leavingActions).any fun left =>
              left.progressableOperation.any (fun operation =>
                operation.targetTicketIds ≠ [] ∧ left.targetsEnded operation = true) &&
              (left.evaluate followingActions).any fun final =>
                final.operations.rows.any fun done =>
                  done.authorizationId = sampleAuthorizationId ∧ done.state = .completed ∧
                    done.targetTicketIds ≠ []

/-- The states that the sample Ticket's flatten goes through. -/
structure SampleFlatten (guarded begun frozen consumed left final : ControlState)
    (begins requested followed done : OwnerControlOperation) : Prop where
  protecting : Run ControlTaken sampleControl protectingActions guarded
  pausing : samplePauses guarded = true
  unknown : guarded.authorizations.lookup (sampleFlattenRequest guarded).idempotencyKey = none
  begins : guarded.beginFlattenAll sampleTicket.ownerPolicyId (sampleFlattenRequest guarded)
    sampleAuthorizationId = .ok (begun, begins)
  freezes : Run ControlTaken begun
    [.freeze sampleTicket.ownerPolicyId sampleAuthorizationId 6000] frozen
  consumes : frozen.consumePendingFlatten "worker" 7000 7500 = .ok (consumed, some requested)
  asked : requested.targetTicketIds ≠ []
  exiting : requested.state = .exitsRequested
  leaves : Run ControlTaken consumed leavingActions left
  oldest : left.progressableOperation = some followed
  pursued : followed.targetTicketIds ≠ []
  ended : left.targetsEnded followed = true
  follows : Run ControlTaken left followingActions final
  here : done ∈ final.operations
  named : done.authorizationId = sampleAuthorizationId
  completed : done.state = .completed
  targets : done.targetTicketIds ≠ []

theorem issuedControl_pauses :
    (issuedControl.evaluate (sampleCommits 1 protectedFacts)).any samplePauses = true := by
  decide +kernel

theorem exists_sampleFlatten :
    ∃ guarded begun frozen consumed left final begins requested followed done,
      SampleFlatten guarded begun frozen consumed left final begins requested followed done := by
  have passes : sampleFlattens = true := by decide +kernel
  unfold sampleFlattens at passes
  obtain ⟨guarded, reached, passes⟩ := (Option.any_eq_true _ _).mp passes
  obtain ⟨unknown, passes⟩ := Bool.and_eq_true_iff.mp passes
  have protecting : sampleControl.evaluate protectingActions = some guarded :=
    evaluate_protectingActions.trans reached
  -- the pause is decided on its own, for the same state
  have pausing : samplePauses guarded = true := by
    obtain ⟨paused, isGuarded, pauses⟩ := (Option.any_eq_true _ _).mp issuedControl_pauses
    obtain rfl := Option.some.inj (isGuarded.symm.trans reached)
    exact pauses
  obtain ⟨preview, previewed, passes⟩ := (Option.any_eq_true _ _).mp passes
  obtain ⟨⟨begun, begins⟩, authorized, passes⟩ := (Option.any_eq_true _ _).mp passes
  obtain ⟨frozen, freezes, passes⟩ := (Option.any_eq_true _ _).mp passes
  obtain ⟨⟨consumed, outcome⟩, consumes, passes⟩ := (Option.any_eq_true _ _).mp passes
  obtain ⟨asked, passes⟩ := Bool.and_eq_true_iff.mp passes
  obtain ⟨requested, is, exits⟩ := (Option.any_eq_true _ _).mp asked
  obtain ⟨targets, exiting⟩ := of_decide_eq_true exits
  obtain rfl : outcome = some requested := is
  obtain ⟨left, leaves, passes⟩ := (Option.any_eq_true _ _).mp passes
  obtain ⟨progresses, passes⟩ := Bool.and_eq_true_iff.mp passes
  obtain ⟨followed, oldest, followable⟩ := (Option.any_eq_true _ _).mp progresses
  obtain ⟨final, follows, passes⟩ := (Option.any_eq_true _ _).mp passes
  obtain ⟨done, here, finished⟩ := List.any_eq_true.mp passes
  obtain ⟨named, completed, kept⟩ := of_decide_eq_true finished
  obtain ⟨some_, ended⟩ := of_decide_eq_true followable
  have previewed := toOption_eq_some.mp previewed
  -- the digest is the one of the preview, so it need not be computed
  have digest : ¬ preview.snapshotDigest ≠ (sampleFlattenRequest guarded).snapshotDigest := by
    rw [not_not]
    show _ = ((samplePreview guarded).toOption.map FlattenPreview.snapshotDigest).getD ""
    rw [previewed]
    rfl
  refine ⟨guarded, begun, frozen, consumed, left, final, begins, requested, followed, done,
    ControlState.run_of_evaluate protecting, pausing, Option.isNone_iff_eq_none.mp unknown, ?_,
    ControlState.run_of_evaluate freezes, toOption_eq_some.mp consumes, targets, exiting,
    ControlState.run_of_evaluate leaves, oldest, some_, ended,
    ControlState.run_of_evaluate follows, here, named, completed, kept⟩
  exact bind_eq_ok.mpr ⟨preview, previewed, refuse_bind_eq_ok.mpr
    ⟨digest, toOption_eq_some.mp authorized⟩⟩

namespace SampleFlatten

variable {guarded begun frozen consumed left final : ControlState}
  {begins requested followed done : OwnerControlOperation}

/-- A first action and the ones that follow it. -/
theorem run_of_start {actions : List ControlAction} {state : ControlState}
    (steps : Run ControlTaken sampleControl actions state) : ControlRun sampleControl actions state :=
  ⟨⟨rfl, fun _ member => absurd member List.not_mem_nil, rfl⟩, rfl, steps⟩

/-- From the begin of the flatten to its completion. -/
theorem later (sample : SampleFlatten guarded begun frozen consumed left final begins requested
    followed done) : Run ControlTaken begun
      ([.freeze sampleTicket.ownerPolicyId sampleAuthorizationId 6000] ++
        ([.consume "worker" 7000 7500] ++ (leavingActions ++ followingActions))) final :=
  Run.append_iff.mpr ⟨frozen, sample.freezes, Run.append_iff.mpr ⟨consumed,
    .snoc .nil ⟨bind_eq_ok.mpr ⟨_, sample.consumes, rfl⟩, trivial⟩,
    Run.append_iff.mpr ⟨left, sample.leaves, sample.follows⟩⟩⟩

/-- From the start to the begin of the flatten. -/
theorem upTo (sample : SampleFlatten guarded begun frozen consumed left final begins requested
    followed done) : Run ControlTaken sampleControl (protectingActions ++
      [.beginFlatten sampleTicket.ownerPolicyId (sampleFlattenRequest guarded)
        sampleAuthorizationId]) begun :=
  .snoc sample.protecting ⟨bind_eq_ok.mpr ⟨_, sample.begins, rfl⟩, trivial⟩

end SampleFlatten

end Sample

/-! ### The law of the operations -/

/-- What holds of the operations of a state: the targets of a completed one have ended, with their
budgets released and their reviews recorded; an advance returns, whatever incidents are open; along
every run that follows, an operation stays of its account, never returns to a state it has left, and
keeps the targets that were written; and what was consumed is not consumed again. -/
structure FlattenLaw (state : ControlState) : Prop where
  completed : ∀ operation ∈ state.operations, operation.state = .completed →
    ∀ ticketId ∈ operation.targetTicketIds,
      ∃ row ∈ state.store.tickets, row.ticketId = ticketId ∧ row.Ended
  advances : ∀ openIncidentKind nowMs,
    ∃ outcome, state.advanceFlattenOperationOnce openIncidentKind nowMs = .ok outcome
  onward : ∀ actions later, Run ControlTaken state actions later →
    Table.Evolves OwnerControlOperation.Later state.operations later.operations
  once : ∀ workerId nowMs leaseUntilMs next operation,
    state.consumePendingFlatten workerId nowMs leaseUntilMs = .ok (next, some operation) →
    ∀ actions later, Run ControlTaken next actions later →
      ∀ workerId nowMs leaseUntilMs after again,
        later.consumePendingFlatten workerId nowMs leaseUntilMs = .ok (after, some again) →
        again.authorizationId ≠ operation.authorizationId

/-- **The operations of a flatten keep their law**, in every state that a run reaches. -/
theorem flatten_law_kept {start state : ControlState} {actions : List ControlAction}
    (run : ControlRun start actions state) : FlattenLaw state where
  completed operation here := (run.kept.operations operation here).completed
  advances openIncidentKind nowMs := by
    obtain ⟨next, outcome, returned, -⟩ :=
      state.advanceFlattenOperationOnce_returns openIncidentKind nowMs
    exact ⟨_, returned⟩
  onward actions later steps := (run.kept.along steps).2.operations
  once workerId nowMs leaseUntilMs next operation consumes actions later steps := by
    intro workerAgain nowAgain leaseAgain after again consumesAgain same
    rcases ControlState.of_consumePendingFlatten consumes with ⟨none, -⟩ | ⟨old, completed, is, first⟩
    · exact absurd none (by simp)
    obtain rfl := Option.some.inj is
    rcases ControlState.of_consumePendingFlatten consumesAgain with
      ⟨none, -⟩ | ⟨stale, final, is, second⟩
    · exact absurd none (by simp)
    obtain rfl := Option.some.inj is
    obtain ⟨member, -, past⟩ := first.saved
    obtain ⟨-, named, -⟩ := second.saved
    have before : ControlKept next := first.step run.kept |>.kept run.kept
    obtain ⟨new, there, stays, moved⟩ := (before.along steps).2.operations operation member
    -- the operation that is consumed again would still be pending
    have is : new = stale := Table.eq_of_key there second.here (by rw [stays, ← same, named])
    rw [first.pending] at past
    have ahead : operation.state.rank ≤ new.state.rank := by
      rcases moved.forward with rfl | further
      · exact le_rfl
      · exact further.le
    rw [is, second.pending] at ahead
    omega

/-- The law on the sample account, whose flatten was completed. -/
theorem flatten_law_kept_of_sample : ∃ actions state, ControlRun sampleControl actions state ∧
    (∃ operation ∈ state.operations, operation.state = .completed ∧
      operation.targetTicketIds ≠ []) ∧ FlattenLaw state := by
  obtain ⟨_, _, _, _, _, final, _, _, _, done, sample⟩ := exists_sampleFlatten
  have run := SampleFlatten.run_of_start (Run.append_iff.mpr ⟨_, sample.upTo, sample.later⟩)
  exact ⟨_, final, run, ⟨done, sample.here, sample.completed, sample.targets⟩,
    flatten_law_kept run⟩

/-! ### The exits of an operation -/

/-- The class of a Ticket is that of its status. -/
theorem Store.classificationForTicket_of_mem {store : Store} {row : TicketRow}
    (here : row ∈ store.tickets) : store.classificationForTicket row.ticketId =
      classifyControlledExitStatus row.aggregate.status := by
  rw [classificationForTicket, Table.lookup_of_mem here]

/-- Every exit is requested, or none: a target cannot be left, the operation is blocked, and no Ticket
has changed; or the exit of the whole position of each eligible target is requested, once, and every
other Ticket is as it was. -/
def ExitsAllOrNone (state : ControlState) (nowMs : ℤ) (operation : OwnerControlOperation)
    (next : ControlState) : Prop :=
  operation.state = .blocked ∧ next.store = state.store ∧
      (∃ ticketId ∈ operation.targetTicketIds,
        state.store.classificationForTicket ticketId = .blocked) ∨
    operation.state = .exitsRequested ∧
      (∀ ticketId ∈ operation.targetTicketIds,
        state.store.classificationForTicket ticketId ≠ .blocked) ∧
      ∀ row ∈ state.store.tickets, ∃ new ∈ next.store.tickets, new.ticketId = row.ticketId ∧
        (row.ticketId ∈ operation.targetTicketIds ∧
            classifyControlledExitStatus row.aggregate.status = .eligible →
          row.Exiting operation.exitReason nowMs new) ∧
        (¬ (row.ticketId ∈ operation.targetTicketIds ∧
            classifyControlledExitStatus row.aggregate.status = .eligible) → new = row)

theorem Consumed.exitsAllOrNone {state next : ControlState} {nowMs : ℤ}
    {old operation : OwnerControlOperation} (consumed : Consumed state nowMs old operation next)
    (kept : ControlKept state) : ExitsAllOrNone state nowMs operation next := by
  have same : operation.targetTicketIds = old.targetTicketIds :=
    consumed.later.targets (by rw [consumed.pending]; decide)
  have reason : operation.exitReason = old.exitReason := by
    unfold OwnerControlOperation.exitReason
    simp only [consumed.saved.2.1]
  unfold ExitsAllOrNone
  rw [same, reason]
  rcases consumed.exits with ⟨blocked, stands, saved⟩ | ⟨requested, free, store, exits, saved⟩
  · exact .inl ⟨blocked, saved.store, stands⟩
  · refine .inr ⟨requested, free, ?_⟩
    have distinct : (state.eligibleTargets old).Nodup :=
      (kept.operations old consumed.here).distinct.filter _
    have rows := kept.balanced.exitsRequested_rows distinct exits
    intro row here
    have asked : row.ticketId ∈ state.eligibleTargets old ↔ row.ticketId ∈ old.targetTicketIds ∧
        classifyControlledExitStatus row.aggregate.status = .eligible := by
      rw [ControlState.eligibleTargets, List.mem_filter, decide_eq_true_eq,
        Store.classificationForTicket_of_mem here]
    rw [← asked, saved.store]
    exact rows row here

/-- **A consume requests every exit or none**, in every state that a run reaches. -/
theorem consume_exits_all_or_none {start state next : ControlState} {actions : List ControlAction}
    {workerId : String} {nowMs leaseUntilMs : ℤ} {operation : OwnerControlOperation}
    (run : ControlRun start actions state)
    (consumes : state.consumePendingFlatten workerId nowMs leaseUntilMs =
      .ok (next, some operation)) :
    ExitsAllOrNone state nowMs operation next := by
  rcases ControlState.of_consumePendingFlatten consumes with ⟨none, -⟩ | ⟨old, done, is, consumed⟩
  · exact absurd none (by simp)
  obtain rfl := Option.some.inj is
  exact consumed.exitsAllOrNone run.kept

/-- The exit of the sample Ticket was requested. -/
theorem consume_exits_all_or_none_of_sample : ∃ actions state next operation,
    ControlRun sampleControl actions state ∧ operation.targetTicketIds ≠ [] ∧
      ExitsAllOrNone state 7000 operation next := by
  obtain ⟨_, _, frozen, consumed, _, _, _, requested, _, _, sample⟩ := exists_sampleFlatten
  have run := SampleFlatten.run_of_start
    (Run.append_iff.mpr ⟨_, sample.upTo, sample.freezes⟩)
  exact ⟨_, frozen, consumed, requested, run, sample.asked,
    consume_exits_all_or_none run sample.consumes⟩

/-! ### The way out -/

/-- Every target of an operation is on its way out, or has ended, and since a state no more was asked
for it than its exit and the cancels of its cleanup. -/
def OnlyLeaves (state : ControlState) (operation : OwnerControlOperation) (later : ControlState) :
    Prop :=
  ∀ ticketId ∈ operation.targetTicketIds, ∃ row ∈ state.store.tickets, row.ticketId = ticketId ∧
    ∃ new ∈ later.store.tickets, new.ticketId = ticketId ∧ row.Leaving new

/-- A Ticket that is neither blocked nor eligible is on its way out. -/
theorem leaving_of_classified {status : AggregateStatus}
    (free : classifyControlledExitStatus status ≠ .blocked)
    (apart : classifyControlledExitStatus status ≠ .eligible) : status ∈ leavingStatuses := by
  unfold classifyControlledExitStatus at free apart
  split_ifs at free apart with eligible inProgress ended
  · exact absurd rfl apart
  · exact (by decide : _ ⊆ leavingStatuses) inProgress
  · exact List.mem_append_right _ ended
  · exact absurd rfl free

/-- **What a consume has asked to exit only leaves**: once it has requested the exits, in every run
that follows, no target gets back to a status in which it is held, and nothing but its exit and the
cancels of its cleanup is asked for it. -/
theorem consumed_targets_only_leave {start state next final : ControlState}
    {actions later : List ControlAction} {workerId : String} {nowMs leaseUntilMs : ℤ}
    {operation : OwnerControlOperation} (run : ControlRun start actions state)
    (consumes : state.consumePendingFlatten workerId nowMs leaseUntilMs =
      .ok (next, some operation))
    (requested : operation.state = .exitsRequested) (steps : Run ControlTaken next later final) :
    OnlyLeaves state operation final := by
  rcases ControlState.of_consumePendingFlatten consumes with ⟨none, -⟩ | ⟨old, done, is, consumed⟩
  · exact absurd none (by simp)
  obtain rfl := Option.some.inj is
  have kept : ControlKept next := (consumed.step run.kept).kept run.kept
  rcases consumed.exitsAllOrNone run.kept with ⟨blocked, -⟩ | ⟨-, free, rows⟩
  · rw [requested] at blocked
    exact absurd blocked (by decide)
  intro ticketId target
  have listed : ticketId ∈ old.targetTicketIds := by
    rw [← consumed.later.targets (by rw [consumed.pending]; decide)]
    exact target
  obtain ⟨row, here, rfl⟩ := (run.kept.operations old consumed.here).targets ticketId listed
  obtain ⟨new, there, same, exits, idle⟩ := rows row here
  have leaves : row.Leaving new := by
    by_cases eligible : classifyControlledExitStatus row.aggregate.status = .eligible
    · obtain ⟨⟨event, -, -, events⟩, status, -⟩ := exits ⟨target, eligible⟩
      refine ⟨by rw [status]; decide, _, events, fun entry member effect emitted => ?_⟩
      obtain rfl := List.mem_singleton.mp member
      obtain rfl := List.mem_singleton.mp emitted
      exact trivial
    · obtain rfl := idle fun asked => eligible asked.2
      refine .refl (leaving_of_classified ?_ eligible)
      rw [← Store.classificationForTicket_of_mem here]
      exact free _ target
  -- a Ticket on its way out stays there
  obtain ⟨last, after, still, moved⟩ := (kept.along steps).2.store.tickets new there
  exact ⟨row, here, rfl, last, after, still.trans same, leaves.trans (moved.leaving leaves.status)⟩

/-- The sample Ticket was asked to exit, and it left. -/
theorem consumed_targets_only_leave_of_sample : ∃ actions state operation final,
    ControlRun sampleControl actions state ∧ operation.targetTicketIds ≠ [] ∧
      OnlyLeaves state operation final := by
  obtain ⟨_, _, frozen, consumed, left, final, _, requested, _, _, sample⟩ := exists_sampleFlatten
  have run := SampleFlatten.run_of_start
    (Run.append_iff.mpr ⟨_, sample.upTo, sample.freezes⟩)
  exact ⟨_, frozen, requested, final, run, sample.asked, consumed_targets_only_leave run
    sample.consumes sample.exiting (Run.append_iff.mpr ⟨left, sample.leaves, sample.follows⟩)⟩

/-! ### Completion -/

/-- How many advances an operation takes, once its targets have ended. -/
def ControlOperationState.advancesLeft : ControlOperationState → ℕ
  | exitsRequested | exitInProgress => 4
  | reconciliationPending => 3
  | settlementPending => 2
  | reviewPending | needsIntervention => 1
  | _ => 0

section Completion

variable {state next : ControlState} {operation updated : OwnerControlOperation}
  {openIncidentKind : NonBlankText → Option String}

/-- Targets that are in some statuses are in more of them. -/
theorem ControlState.targetsIn_mono {statuses more : List AggregateStatus}
    (within : ∀ status ∈ statuses, status ∈ more)
    (targets : state.targetsIn statuses operation = true) :
    state.targetsIn more operation = true := by
  refine List.all_eq_true.mpr fun ticketId target => ?_
  have here := List.all_eq_true.mp targets ticketId target
  cases found : state.store.tickets.lookup ticketId with
  | none => simp [found] at here
  | some row =>
    simp only [found, Option.any_some, decide_eq_true_eq] at here ⊢
    exact within _ here

/-- The rows of ended targets take an operation further. -/
theorem ControlState.progressTarget_of_ended (ended : state.targetsEnded operation = true)
    (progressable : operation.state ∈ progressableStates) :
    ∃ target, state.progressTarget operation = some target ∧
      target.advancesLeft < operation.state.advancesLeft ∧
      (target = .completed ∨ target ∈ progressableStates) := by
  have terminal : state.targetsIn [.terminal] operation = true := (of_decide_eq_true ended).1
  have reconciled : state.targetsIn reconciledStatuses operation = true :=
    targetsIn_mono (by decide) terminal
  have settled : state.targetsIn budgetSettledStatuses operation = true :=
    targetsIn_mono (by decide) terminal
  unfold progressTarget
  cases at_ : operation.state with
  | exitsRequested =>
    exact ⟨_, congrArg some (if_pos reconciled), by decide, .inr (by decide)⟩
  | exitInProgress => exact ⟨_, if_pos reconciled, by decide, .inr (by decide)⟩
  | reconciliationPending => exact ⟨_, if_pos reconciled, by decide, .inr (by decide)⟩
  | settlementPending => exact ⟨_, if_pos settled, by decide, .inr (by decide)⟩
  | reviewPending => exact ⟨_, if_pos ended, by decide, .inl rfl⟩
  | needsIntervention => exact ⟨_, if_pos ended, by decide, .inl rfl⟩
  | validating | pending | claimed | completed | blocked =>
    rw [at_] at progressable
    exact absurd progressable (by decide)

/-- Nothing keeps ended targets without open incidents from being followed. -/
theorem ControlState.obstacle_none_of_ended (ended : state.targetsEnded operation = true)
    (free : ∀ ticketId ∈ operation.targetTicketIds, openIncidentKind ticketId = none) :
    operation.targetTicketIds.findSome? (state.obstacle openIncidentKind) = none := by
  refine List.findSome?_eq_none_iff.mpr fun ticketId target => ?_
  obtain ⟨row, here, rfl, -⟩ := ended_of_targetsEnded ended ticketId target
  rw [obstacle, Table.lookup_of_mem here, free _ target]
  rfl

/-- The oldest operation stays the oldest as it progresses. -/
theorem Saved.progressable (saved : Saved state operation updated next)
    (oldest : state.progressableOperation = some operation)
    (createdAtMs : updated.createdAtMs = operation.createdAtMs)
    (further : updated.state ∈ progressableStates) :
    next.progressableOperation = some updated := by
  obtain ⟨here, meets⟩ := ControlState.of_oldest oldest
  have own : ∀ old ∈ state.operations.rows, old.authorizationId = operation.authorizationId →
      old = operation := fun old there same => Table.eq_of_key there here same
  rw [ControlState.progressableOperation, ControlState.oldest, saved.rows,
    Table.leastBy_filter_map]
  · rw [ControlState.progressableOperation, ControlState.oldest] at oldest
    rw [oldest, Option.map_some, if_pos rfl]
  · intro old there
    split_ifs with same
    · rw [own old there same, createdAtMs]
    · rfl
  · intro old there
    split_ifs with same
    · rw [own old there same, meets, decide_eq_true further]
    · rfl

/-- One advance of an operation whose targets have ended. -/
theorem ControlState.advance_of_ended (nowMs : ℤ)
    (oldest : state.progressableOperation = some operation)
    (ended : state.targetsEnded operation = true)
    (free : ∀ ticketId ∈ operation.targetTicketIds, openIncidentKind ticketId = none) :
    ∃ next updated, ControlTaken state (.advance openIncidentKind nowMs) next ∧
      Saved state operation updated next ∧
      updated.targetTicketIds = operation.targetTicketIds ∧
      updated.createdAtMs = operation.createdAtMs ∧
      updated.state.advancesLeft < operation.state.advancesLeft ∧
      (updated.state = .completed ∨ updated.state ∈ progressableStates) := by
  obtain ⟨here, meets⟩ := of_oldest oldest
  have progressable : operation.state ∈ progressableStates := of_decide_eq_true meets
  obtain ⟨target, asked, closer, onward⟩ := progressTarget_of_ended ended progressable
  obtain ⟨next, updated, saves, saved, reached, same, later⟩ :=
    state.saveOperationProgress_returns nowMs none here (of_progressTarget asked).1
  refine ⟨next, updated, ⟨bind_eq_ok.mpr ⟨(next, some updated), ?_, rfl⟩, trivial⟩, saved, same,
    later.createdAtMs, reached ▸ closer, reached ▸ onward⟩
  simp only [advanceFlattenOperationOnce, oldest, obstacle_none_of_ended ended free, asked]
  exact bind_eq_ok.mpr ⟨_, saves, rfl⟩

/-- A completed operation stays as it is. -/
theorem OwnerControlOperation.Later.of_completed {new : OwnerControlOperation}
    (later : operation.Later new) (completed : operation.state = .completed) : new = operation := by
  rcases later.forward with rfl | ahead
  · rfl
  · have most : ∀ reached : ControlOperationState, reached.rank ≤ 9 := by
      intro reached
      cases reached <;> decide
    rw [completed] at ahead
    exact absurd ahead (most new.state).not_gt

/-- Advances return, one after the other. -/
theorem ControlState.advances_return (times : List ℤ) : ∃ later, Run ControlTaken state
    (times.map fun nowMs => ControlAction.advance openIncidentKind nowMs) later := by
  induction times generalizing state with
  | nil => exact ⟨state, .nil⟩
  | cons nowMs times ih =>
    obtain ⟨next, outcome, returned, -⟩ :=
      state.advanceFlattenOperationOnce_returns openIncidentKind nowMs
    obtain ⟨later, rest⟩ := @ih next
    exact ⟨later, Run.cons_iff.mpr ⟨next, ⟨bind_eq_ok.mpr ⟨_, returned, rfl⟩, trivial⟩, rest⟩⟩

/-- Advances at these times return, and complete the operation. -/
def CompletedBy (state : ControlState) (openIncidentKind : NonBlankText → Option String)
    (operation : OwnerControlOperation) (times : List ℤ) : Prop :=
  ∃ later, Run ControlTaken state
      (times.map fun nowMs => ControlAction.advance openIncidentKind nowMs) later ∧
    ∃ done ∈ later.operations, done.authorizationId = operation.authorizationId ∧
      done.state = .completed

/-- **A flatten whose targets have ended is completed**: the oldest operation that can progress,
whose targets have ended without an open incident, is completed after as many advances as are left of
it, at most four, whenever they are made. -/
theorem flatten_completes_when_ended {start : ControlState} {actions : List ControlAction}
    (run : ControlRun start actions state)
    (oldest : state.progressableOperation = some operation)
    (ended : state.targetsEnded operation = true)
    (free : ∀ ticketId ∈ operation.targetTicketIds, openIncidentKind ticketId = none)
    (times : List ℤ) (enough : operation.state.advancesLeft ≤ times.length) :
    CompletedBy state openIncidentKind operation times := by
  have kept : ControlKept state := run.kept
  clear run
  induction times generalizing state operation with
  | nil =>
    obtain ⟨-, meets⟩ := ControlState.of_oldest oldest
    have left : ∀ from_ ∈ progressableStates, 0 < from_.advancesLeft := by decide
    exact absurd (left _ (of_decide_eq_true meets)) enough.not_gt
  | cons nowMs times ih =>
    obtain ⟨next, updated, taken, saved, same, createdAtMs, closer, onward⟩ :=
      state.advance_of_ended nowMs oldest ended free
    have stays : ControlKept next := (taken.step kept).kept kept
    rcases onward with completed | further
    · -- the other advances leave a completed operation as it is
      obtain ⟨later, rest⟩ := next.advances_return times
      obtain ⟨done, there, named, moved⟩ :=
        (stays.along rest).2.operations updated saved.replaced.there
      exact ⟨later, Run.cons_iff.mpr ⟨next, taken, rest⟩, done, there, named.trans saved.same,
        by rw [moved.of_completed completed, completed]⟩
    · have still : next.targetsEnded updated = true := by
        rw [← ended]
        unfold ControlState.targetsEnded ControlState.targetsIn
        rw [same, saved.store]
      obtain ⟨later, rest, done, there, named, completed⟩ :=
        ih (saved.progressable oldest createdAtMs further) still (by rw [same]; exact free)
          (by rw [List.length_cons] at enough; omega) stays
      exact ⟨later, Run.cons_iff.mpr ⟨next, taken, rest⟩, done, there, named.trans saved.same,
        completed⟩

/-- The flatten of the sample Ticket is completed by four advances. -/
theorem flatten_completes_when_ended_of_sample : ∃ actions state operation,
    ControlRun sampleControl actions state ∧ operation.targetTicketIds ≠ [] ∧
      CompletedBy state (fun _ => none) operation [1, 2, 3, 4] := by
  obtain ⟨_, _, frozen, consumed, left, _, _, _, followed, _, sample⟩ := exists_sampleFlatten
  have consumes : ControlTaken frozen (.consume "worker" 7000 7500) consumed :=
    ⟨bind_eq_ok.mpr ⟨_, sample.consumes, rfl⟩, trivial⟩
  have run := SampleFlatten.run_of_start (Run.append_iff.mpr ⟨_, sample.upTo,
    Run.append_iff.mpr ⟨_, sample.freezes, Run.cons_iff.mpr ⟨_, consumes, sample.leaves⟩⟩⟩)
  have few : ∀ reached : ControlOperationState, reached.advancesLeft ≤ [1, 2, 3, 4].length := by
    intro reached
    cases reached <;> decide
  exact ⟨_, left, followed, run, sample.pursued, flatten_completes_when_ended run sample.oldest
    sample.ended (fun _ _ => rfl) [1, 2, 3, 4] (few _)⟩

end Completion

end TradingKernel
