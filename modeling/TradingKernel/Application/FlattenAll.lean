/-
**The Owner's flatten of an account: begin, freeze the targets, request the exits, follow them.**

`setGlobalEntryState` pauses and resumes new entries; `beginFlattenAll` stops them and adds the
operation; `freezeFlattenTargets` writes down the active Tickets of the account, unless one of them
cannot be left; `consumePendingFlatten` requests their exits in one transaction, unless one of them
cannot be left any more; and `advanceFlattenOperationOnce` takes the oldest operation one state
further, by what the Tickets' rows say. Each of them is one transaction on a `ControlState`.
-/

import TradingKernel.Application.ControlledExit
import TradingKernel.Domain.OwnerControl
import TradingKernel.Lib.Evolution

namespace TradingKernel

open Text Guard CanonicalJson

/-! ### The tables -/

/-- What an Owner policy says about entries. -/
structure OwnerEntryPolicy where
  ownerPolicyId : NonBlankText
  policyVersion : ℤ
  maxConcurrentTickets : ℤ
  newEntrySubmitEnabled : Bool

/-- The Tickets of the accounts, and the Owner's control tables. -/
structure ControlState where
  store : Store
  policies : Table OwnerEntryPolicy.ownerPolicyId
  authorizations : Table OwnerAuthorization.idempotencyKey
  operations : Table OwnerControlOperation.authorizationId

/-- A review of a Ticket is added with the event that reports it. -/
def TicketRow.reviewed (row : TicketRow) : Bool :=
  row.events.any fun entry => entry.fact?.any TicketFact.isReview

/-- An operation that is not completed and has requested its exits. -/
def progressableStates : List ControlOperationState :=
  [.exitsRequested, .exitInProgress, .reconciliationPending, .settlementPending, .reviewPending,
    .needsIntervention]

/-- The statuses of a Ticket whose position and orders are reconciled. -/
def reconciledStatuses : List AggregateStatus := [.settlementPending, .reviewPending, .terminal]

/-- The statuses of a Ticket whose budget is settled. -/
def budgetSettledStatuses : List AggregateStatus := [.reviewPending, .terminal]

/-! ### Requests -/

structure FlattenSubmitRequest extends ControlMutationRequest where
  venueId : NonBlankText
  accountId : NonBlankText
  snapshotDigest : String

def FlattenSubmitRequest.targetScope (request : FlattenSubmitRequest) : TargetScope :=
  .account request.venueId request.accountId request.snapshotDigest

/-- The operation of a request that has just been authorized. -/
def FlattenSubmitRequest.operation (request : FlattenSubmitRequest)
    (authorizationId : NonBlankText) : OwnerControlOperation where
  authorizationId := authorizationId
  state := .validating
  version := 1
  venueId := request.venueId
  accountId := request.accountId
  targetTicketIds := []
  snapshotDigest := request.snapshotDigest
  firstBlocker := none
  claimedBy := none
  leaseUntilMs := none
  createdAtMs := request.nowMs
  updatedAtMs := request.nowMs

/-- What an account is before it is flattened. -/
structure FlattenPreview where
  ownerPolicyVersion : ℤ
  globalEntryEnabled : Bool
  ticketIds : List NonBlankText
  snapshotDigest : String
  firstBlocker : Option String

/-- Where the freeze of the targets leads. -/
def FlattenPreview.freezeTarget (preview : FlattenPreview) : ControlOperationState :=
  if preview.firstBlocker.isSome then .blocked
  else if preview.ticketIds = [] then .completed
  else .pending

/-- The reason of the exits of an operation. -/
def OwnerControlOperation.exitReason (operation : OwnerControlOperation) : NonBlankText where
  text := strip ("owner_flatten_all:" ++ operation.authorizationId.text)
  stripped := strip_strip _
  nonempty := strip_ne_empty (c := 'o') (by simp) (by decide)

namespace ControlState

variable (state : ControlState)

/-- The oldest operation of those that meet a condition. -/
def oldest (meets : OwnerControlOperation → Bool) : Option OwnerControlOperation :=
  Table.leastBy OwnerControlOperation.createdAtMs (state.operations.rows.filter meets)

/-- `get_actionable_operation`. -/
def actionableOperation (nowMs : ℤ) : Option OwnerControlOperation :=
  state.oldest fun operation => operation.state = .pending ∧
    ∀ leaseUntilMs ∈ operation.leaseUntilMs, leaseUntilMs ≤ nowMs

/-- `get_progressable_operation`. -/
def progressableOperation : Option OwnerControlOperation :=
  state.oldest fun operation => operation.state ∈ progressableStates

/-- `save_operation`, over the version before. -/
def saveOperation (operation : OwnerControlOperation) : Except Raised ControlState := do
  let operations ← state.operations.update
    (fun old => old.authorizationId = operation.authorizationId ∧
      old.version = operation.version - 1)
    (fun old => { operation with authorizationId := old.authorizationId }) (fun _ => rfl)
    (conflict "Control operation version changed")
  return { state with operations := operations }

/-! ### Preview -/

/-- `_snapshot_digest`. -/
def snapshotDigest (venueId accountId : NonBlankText) (policyVersion : ℤ)
    (globalEntryEnabled : Bool) (states : List (NonBlankText × ControlledExitClassification)) :
    String :=
  let tickets := states.insertionSort fun x y => x.1.text ≤ y.1.text
  asciiDigest (.object [("scope", .text "account-wide"), ("venue_id", .text venueId.text),
    ("account_id", .text accountId.text), ("policy_version", .integer policyVersion),
    ("global_entry_enabled", .boolean globalEntryEnabled),
    ("tickets", .array (tickets.map fun ticket =>
      .array [.text ticket.1.text, .text ticket.2.value]))])

/-- What is told of a Ticket that cannot be left. -/
def notFlattenable (ticketId : NonBlankText) : Option String :=
  match state.store.tickets.lookup ticketId with
  | none => none
  | some row =>
      if classifyControlledExitStatus row.aggregate.status = .blocked then
        some ("ticket_not_flattenable:" ++ ticketId.text ++ ":" ++ row.aggregate.status.value)
      else none

def previewFlattenAll (ownerPolicyId venueId accountId : NonBlankText) :
    Except Raised FlattenPreview := do
  let policy ← demand (state.policies.lookup ownerPolicyId) (.runtimeError "owner_policy_missing")
  let ticketIds ← state.store.listActiveTicketIds venueId accountId policy.maxConcurrentTickets
  return {
    ownerPolicyVersion := policy.policyVersion
    globalEntryEnabled := policy.newEntrySubmitEnabled
    ticketIds := ticketIds
    snapshotDigest := snapshotDigest venueId accountId policy.policyVersion
      policy.newEntrySubmitEnabled
      (ticketIds.map fun ticketId => (ticketId, state.store.classificationForTicket ticketId))
    firstBlocker := ticketIds.findSome? state.notFlattenable }

/-! ### The entry of a policy -/

/-- `set_global_entry_enabled`: nothing changes where the policy says so already. -/
def setGlobalEntryEnabled (ownerPolicyId : NonBlankText) (expectedVersion : ℤ) (enabled : Bool) :
    Except Raised ControlState := do
  let policy ← demand (state.policies.lookup ownerPolicyId)
    (.runtimeError "Owner policy is missing")
  refuse (policy.policyVersion ≠ expectedVersion) (conflict "Owner policy version changed")
  if policy.newEntrySubmitEnabled = enabled then return state
  else do
    let policies ← state.policies.update (fun old => old.ownerPolicyId = ownerPolicyId)
      (fun old => { old with
        policyVersion := expectedVersion + 1
        newEntrySubmitEnabled := enabled }) (fun _ => rfl)
      (conflict "Owner policy version changed")
    return { state with policies := policies }

/-- `add_authorization`. -/
def addAuthorization (authorization : OwnerAuthorization) : Except Raised ControlState := do
  let authorizations ← state.authorizations.insert authorization .integrityError
  return { state with authorizations := authorizations }

/-- `add_operation`. -/
def addOperation (operation : OwnerControlOperation) : Except Raised ControlState := do
  let operations ← state.operations.insert operation .integrityError
  return { state with operations := operations }

/-- `set_global_entry_state`, with what keeps the entry of the policy from being resumed. -/
def setGlobalEntryState (ownerPolicyId : NonBlankText) (enabled : Bool)
    (resumeBlocker : Option String) (request : ControlMutationRequest)
    (authorizationId : NonBlankText) : Except Raised ControlState := do
  let purpose := if enabled then AuthorizationPurpose.entryResume else .entryPause
  let policy ← demand (state.policies.lookup ownerPolicyId) (.runtimeError "owner_policy_missing")
  match state.authorizations.lookup request.idempotencyKey with
  | some existing => do
      refuse (¬ existing.matches purpose request (.ownerPolicy ownerPolicyId))
        (.runtimeError "idempotency_key_conflict")
      return state
  | none => do
      refuse (policy.policyVersion ≠ request.expectedVersion)
        (.runtimeError "owner_policy_version_conflict")
      if policy.newEntrySubmitEnabled = enabled then return state
      else do
        refuse (enabled = true ∧ resumeBlocker.isSome) (.runtimeError (resumeBlocker.getD ""))
        let authorized ← state.addAuthorization
          (request.authorization authorizationId purpose (.ownerPolicy ownerPolicyId))
        authorized.setGlobalEntryEnabled ownerPolicyId request.expectedVersion enabled

/-! ### Begin -/

/-- A request on the account as it was previewed. A request whose idempotency key is known gives back
the operation that it began. -/
def authorizeFlatten (preview : FlattenPreview) (ownerPolicyId : NonBlankText)
    (request : FlattenSubmitRequest) (authorizationId : NonBlankText) :
    Except Raised (ControlState × OwnerControlOperation) :=
  match state.authorizations.lookup request.idempotencyKey with
  | some existing => do
      refuse (¬ existing.matches .ownerFlattenAll request.toControlMutationRequest
        request.targetScope) (.runtimeError "idempotency_key_conflict")
      let operation ← demand (state.operations.lookup existing.authorizationId)
        (.runtimeError "idempotency_operation_missing")
      return (state, operation)
  | none => do
      let authorization := request.toControlMutationRequest.authorization authorizationId
        .ownerFlattenAll request.targetScope
      let authorized ← state.addAuthorization authorization
      let paused ← if preview.globalEntryEnabled then
          authorized.setGlobalEntryEnabled ownerPolicyId preview.ownerPolicyVersion false
        else pure authorized
      let begun ← paused.addOperation (request.operation authorizationId)
      return (begun, request.operation authorizationId)

/-- `begin_flatten_all`, under an authorization identity that is drawn for it. -/
def beginFlattenAll (ownerPolicyId : NonBlankText) (request : FlattenSubmitRequest)
    (authorizationId : NonBlankText) : Except Raised (ControlState × OwnerControlOperation) := do
  let preview ← state.previewFlattenAll ownerPolicyId request.venueId request.accountId
  refuse (preview.snapshotDigest ≠ request.snapshotDigest)
    (.runtimeError "flatten_snapshot_conflict")
  state.authorizeFlatten preview ownerPolicyId request authorizationId

/-! ### Freeze -/

/-- `freeze_flatten_targets`. -/
def freezeFlattenTargets (ownerPolicyId authorizationId : NonBlankText) (nowMs : ℤ) :
    Except Raised (ControlState × OwnerControlOperation) := do
  let operation ← demand (state.operations.lookup authorizationId)
    (.runtimeError "flatten_operation_missing")
  if operation.state ≠ .validating then return (state, operation)
  else do
    let preview ← state.previewFlattenAll ownerPolicyId operation.venueId operation.accountId
    let target ← (advanceControlOperation operation.state (preview.freezeTarget)).mapError
      Raised.valueError
    let updated := { operation with
      state := target
      version := operation.version + 1
      targetTicketIds := preview.ticketIds
      snapshotDigest := preview.snapshotDigest
      firstBlocker := preview.firstBlocker
      updatedAtMs := nowMs }
    let saved ← state.saveOperation updated
    return (saved, updated)

/-! ### Consume -/

/-- The targets of an operation that can be asked to exit. -/
def eligibleTargets (operation : OwnerControlOperation) : List NonBlankText :=
  operation.targetTicketIds.filter fun ticketId =>
    state.store.classificationForTicket ticketId = .eligible

/-- The first target of an operation that cannot be left. -/
def blockedTarget (operation : OwnerControlOperation) : Option NonBlankText :=
  operation.targetTicketIds.find? fun ticketId =>
    state.store.classificationForTicket ticketId = .blocked

/-- The operation claimed, and taken on to the state the exits led to. -/
def finishConsume (operation : OwnerControlOperation) (workerId : String)
    (nowMs leaseUntilMs : ℤ) (target : ControlOperationState) (blocker : Option String) :
    Except Raised (ControlState × OwnerControlOperation) := do
  let claimed := { operation with
    state := .claimed
    version := operation.version + 1
    claimedBy := some workerId
    leaseUntilMs := some leaseUntilMs
    updatedAtMs := nowMs }
  let held ← state.saveOperation claimed
  let reached ← (advanceControlOperation claimed.state target).mapError Raised.valueError
  let completed := { claimed with
    state := reached
    version := claimed.version + 1
    firstBlocker := blocker
    leaseUntilMs := none
    updatedAtMs := nowMs }
  let saved ← held.saveOperation completed
  return (saved, completed)

/-- `consume_pending_flatten`. -/
def consumePendingFlatten (workerId : String) (nowMs leaseUntilMs : ℤ) :
    Except Raised (ControlState × Option OwnerControlOperation) :=
  match state.actionableOperation nowMs with
  | none => return (state, none)
  | some operation =>
      match state.blockedTarget operation with
      | some ticketId => do
          let (saved, completed) ← state.finishConsume operation workerId nowMs leaseUntilMs .blocked
            (some ("ticket_not_flattenable:" ++ ticketId.text))
          return (saved, some completed)
      | none => do
          let store ← Store.requestExits operation.exitReason nowMs state.store
            (state.eligibleTargets operation)
          let (saved, completed) ← { state with store := store }.finishConsume operation workerId
            nowMs leaseUntilMs .exitsRequested none
          return (saved, some completed)

/-! ### Advance -/

/-- What keeps a Ticket from being followed: it is missing, or an incident of it is open. -/
def obstacle (openIncidentKind : NonBlankText → Option String) (ticketId : NonBlankText) :
    Option String :=
  match state.store.tickets.lookup ticketId with
  | none => some ("ticket_missing:" ++ ticketId.text)
  | some _ => (openIncidentKind ticketId).map fun kind =>
      "ticket_incident:" ++ ticketId.text ++ ":" ++ kind

/-- Every target is in one of these statuses. -/
def targetsIn (statuses : List AggregateStatus) (operation : OwnerControlOperation) : Bool :=
  operation.targetTicketIds.all fun ticketId =>
    (state.store.tickets.lookup ticketId).any fun row => row.aggregate.status ∈ statuses

/-- Every target has ended, with its budget released and its review recorded. -/
def targetsEnded (operation : OwnerControlOperation) : Bool :=
  state.targetsIn [.terminal] operation ∧ operation.targetTicketIds.all fun ticketId =>
    (state.store.tickets.lookup ticketId).any fun row =>
      row.budgetActive = false ∧ row.reviewed = true

/-- The state that the rows of the targets take an operation to. -/
def progressTarget (operation : OwnerControlOperation) : Option ControlOperationState :=
  match operation.state with
  | .exitsRequested =>
      some (if state.targetsIn reconciledStatuses operation then .reconciliationPending
        else .exitInProgress)
  | .exitInProgress =>
      if state.targetsIn reconciledStatuses operation then some .reconciliationPending else none
  | .reconciliationPending =>
      if state.targetsIn reconciledStatuses operation then some .settlementPending else none
  | .settlementPending =>
      if state.targetsIn budgetSettledStatuses operation then some .reviewPending else none
  | .reviewPending => if state.targetsEnded operation then some .completed else none
  | .needsIntervention => if state.targetsEnded operation then some .completed else none
  | _ => none

/-- `_save_operation_progress`. -/
def saveOperationProgress (operation : OwnerControlOperation) (target : ControlOperationState)
    (nowMs : ℤ) (blocker : Option String) :
    Except Raised (ControlState × OwnerControlOperation) := do
  let reached ← (advanceControlOperation operation.state target).mapError Raised.valueError
  let updated := { operation with
    state := reached
    version := operation.version + 1
    firstBlocker := blocker
    updatedAtMs := nowMs }
  let saved ← state.saveOperation updated
  return (saved, updated)

/-- `advance_flatten_operation_once`, with the kinds of the Tickets' open incidents. -/
def advanceFlattenOperationOnce (openIncidentKind : NonBlankText → Option String) (nowMs : ℤ) :
    Except Raised (ControlState × Option OwnerControlOperation) :=
  match state.progressableOperation with
  | none => return (state, none)
  | some operation =>
      match operation.targetTicketIds.findSome? (state.obstacle openIncidentKind) with
      | some blocker =>
          if operation.state = .needsIntervention then return (state, some operation)
          else do
            let (saved, updated) ← state.saveOperationProgress operation .needsIntervention nowMs
              (some blocker)
            return (saved, some updated)
      | none =>
          match state.progressTarget operation with
          | none => return (state, some operation)
          | some target => do
              let (saved, updated) ← state.saveOperationProgress operation target nowMs none
              return (saved, some updated)

end ControlState

end TradingKernel
