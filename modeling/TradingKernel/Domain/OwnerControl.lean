/-
**The Owner's account-wide operation: its states and the transitions it may take.**

`advanceControlOperation` validates one transition against the table of allowed ones. The state of
an operation only moves forward (`rank_lt_of_allowed`), so an operation takes finitely many
transitions, and what is behind it is never entered again.
-/

import TradingKernel.Lib.CanonicalJson
import TradingKernel.Lib.Guard

namespace TradingKernel

open Text Guard CanonicalJson

/-! ### States -/

inductive ControlOperationState where
  | validating
  | pending
  | claimed
  | exitsRequested
  | exitInProgress
  | reconciliationPending
  | settlementPending
  | reviewPending
  | completed
  | blocked
  | needsIntervention
  deriving DecidableEq, Repr

namespace ControlOperationState

def value : ControlOperationState → String
  | validating => "validating"
  | pending => "pending"
  | claimed => "claimed"
  | exitsRequested => "exits_requested"
  | exitInProgress => "exit_in_progress"
  | reconciliationPending => "reconciliation_pending"
  | settlementPending => "settlement_pending"
  | reviewPending => "review_pending"
  | completed => "completed"
  | blocked => "blocked"
  | needsIntervention => "needs_intervention"

/-- `_ALLOWED_OPERATION_TRANSITIONS`. -/
def allowedTransitions : ControlOperationState → List ControlOperationState
  | validating => [pending, blocked, completed]
  | pending => [claimed, blocked]
  | claimed => [exitsRequested, blocked]
  | exitsRequested => [exitInProgress, reconciliationPending, needsIntervention]
  | exitInProgress => [reconciliationPending, needsIntervention]
  | reconciliationPending => [settlementPending, needsIntervention]
  | settlementPending => [reviewPending, needsIntervention]
  | reviewPending => [completed, needsIntervention]
  | needsIntervention => [completed]
  | completed => []
  | blocked => []

/-- How far an operation has come. -/
def rank : ControlOperationState → ℕ
  | validating => 0
  | pending => 1
  | claimed => 2
  | exitsRequested => 3
  | exitInProgress => 4
  | reconciliationPending => 5
  | settlementPending => 6
  | reviewPending => 7
  | needsIntervention => 8
  | completed => 9
  | blocked => 9

/-- Every allowed transition moves the operation forward. -/
theorem rank_lt_of_allowed {current target : ControlOperationState}
    (allowed : target ∈ current.allowedTransitions) : current.rank < target.rank := by
  cases current <;> cases target <;> first | decide | exact absurd allowed (by decide)

end ControlOperationState

/-- `advance_control_operation`. -/
def advanceControlOperation (current target : ControlOperationState) :
    Except String ControlOperationState := do
  refuse (current ≠ target ∧ target ∉ current.allowedTransitions)
    ("invalid control operation transition: " ++ current.value ++ "->" ++ target.value)
  return target

theorem advanceControlOperation_of_allowed {current target : ControlOperationState}
    (allowed : target ∈ current.allowedTransitions) :
    advanceControlOperation current target = .ok target := by
  unfold advanceControlOperation
  rw [refuse_bind_eq_ok]
  exact ⟨fun refused => refused.2 allowed, rfl⟩

/-! ### The operation -/

structure OwnerControlOperation where
  authorizationId : NonBlankText
  state : ControlOperationState
  version : ℤ
  venueId : NonBlankText
  accountId : NonBlankText
  targetTicketIds : List NonBlankText
  snapshotDigest : String
  firstBlocker : Option String
  claimedBy : Option String
  leaseUntilMs : Option ℤ
  createdAtMs : ℤ
  updatedAtMs : ℤ

/-! ### Authorizations -/

inductive AuthorizationPurpose where
  | entryPause
  | entryResume
  | ownerFlattenAll
  deriving DecidableEq, Repr

def AuthorizationPurpose.value : AuthorizationPurpose → String
  | entryPause => "entry_pause"
  | entryResume => "entry_resume"
  | ownerFlattenAll => "owner_flatten_all"

/-- What an authorization is about: the entry of a policy, or the previewed account. -/
inductive TargetScope where
  | ownerPolicy (ownerPolicyId : NonBlankText)
  | account (venueId accountId : NonBlankText) (previewDigest : String)
  deriving DecidableEq

def TargetScope.payload : TargetScope → Canonical
  | ownerPolicy ownerPolicyId => .object [("owner_policy_id", .text ownerPolicyId.text)]
  | account venueId accountId previewDigest => .object [
      ("runtime_profile_id", .text "account-wide"), ("venue_id", .text venueId.text),
      ("account_id", .text accountId.text), ("preview_digest", .text previewDigest)]

/-- The request of an Owner's mutation. -/
structure ControlMutationRequest where
  expectedVersion : ℤ
  reason : NonBlankText
  idempotencyKey : NonBlankText
  ownerIdentity : NonBlankText
  nowMs : ℤ

/-- An authorization, with the digest of the request it was given for. -/
structure OwnerAuthorization where
  authorizationId : NonBlankText
  purpose : AuthorizationPurpose
  ownerIdentity : NonBlankText
  requestDigest : String
  targetScope : TargetScope
  idempotencyKey : NonBlankText
  authorizedAtMs : ℤ

/-- The digest of a value that is rendered in ASCII. -/
def asciiDigest (value : Canonical) : String := "sha256:" ++ Sha256.hexDigest (asciiJson value)

/-- `_authorization_digest`. -/
def authorizationDigest (purpose : AuthorizationPurpose) (request : ControlMutationRequest)
    (targetScope : TargetScope) : String :=
  asciiDigest (.object [("purpose", .text purpose.value),
    ("expected_version", .integer request.expectedVersion),
    ("reason", .text request.reason.text),
    ("idempotency_key", .text request.idempotencyKey.text),
    ("target_scope", targetScope.payload)])

/-- `_authorization`, under an identity that is drawn for it. -/
def ControlMutationRequest.authorization (request : ControlMutationRequest)
    (authorizationId : NonBlankText) (purpose : AuthorizationPurpose) (targetScope : TargetScope) :
    OwnerAuthorization where
  authorizationId := authorizationId
  purpose := purpose
  ownerIdentity := request.ownerIdentity
  requestDigest := authorizationDigest purpose request targetScope
  targetScope := targetScope
  idempotencyKey := request.idempotencyKey
  authorizedAtMs := request.nowMs

/-- The authorization was given for this request. -/
def OwnerAuthorization.matches (existing : OwnerAuthorization) (purpose : AuthorizationPurpose)
    (request : ControlMutationRequest) (targetScope : TargetScope) : Prop :=
  existing.purpose = purpose ∧ existing.ownerIdentity = request.ownerIdentity ∧
    existing.targetScope = targetScope ∧
    existing.requestDigest = authorizationDigest purpose request targetScope

instance OwnerAuthorization.decidableMatches (existing : OwnerAuthorization)
    (purpose : AuthorizationPurpose) (request : ControlMutationRequest)
    (targetScope : TargetScope) : Decidable (existing.matches purpose request targetScope) :=
  inferInstanceAs (Decidable (_ ∧ _ ∧ _ ∧ _))

end TradingKernel
