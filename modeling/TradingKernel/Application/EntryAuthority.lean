/-
**`evaluate_selection_entry_authority`: what lets a signal open a position.**

The evaluator refuses by mode, vacuum, owner and policy, compares the current authority with the
control, the pair, the period and the time, and follows the chain from the authority under which the
signal was born to the current one (`grantedBirth`). The chain is checked link by link.
`valid_rests_on_unbroken_chain` says what a chain that passed is as a whole: one grant, handed on
without a gap, under the current owner control and pair.
-/

import TradingKernel.Domain.Selection.SessionAuthority
import TradingKernel.Lib.Links

namespace TradingKernel.Authority

open Text Guard Links
open Detectors (dayMs)

/-! ### The evaluator -/

inductive SelectionEntryAuthorityStatus where
  | valid
  | vacuumOpen
  | authorityInvalid
  | triggerSuppressed
  | ownerOrPolicyBlocked
  deriving DecidableEq, Repr

structure SelectionEntryAuthorityFacts where
  selectionControl : Option SelectionControl
  currentAuthority : Option SelectionSessionAuthority
  authorityChain : List SelectionSessionAuthority
  currentPair : Option UniverseAuthorityPair
  activeGenerationPair : Option UniverseAuthorityPair
  scopedVacuumOpen : Bool
  authorityInterrupted : Bool
  ownerEntryEnabled : Bool
  ownerControlVersion : Option ℤ
  globalPolicyEnabled : Bool
  triggerSuppressed : Bool

structure SelectionEntryAuthorityDecision where
  status : SelectionEntryAuthorityStatus
  selectionAuthorityId : Option String
  currentSelectionAuthorityId : Option String
  reasonCode : String
  deriving DecidableEq, Repr

/-- `_selection_allowed`. -/
def selectionAllowed (selectionAuthorityId : Option String)
    (current : Option SelectionSessionAuthority) : SelectionEntryAuthorityDecision where
  status := .valid
  selectionAuthorityId := selectionAuthorityId
  currentSelectionAuthorityId := current.map (·.selectionAuthorityId.text)
  reasonCode := "selection_authority_valid"

structure SelectionRefusal where
  status : SelectionEntryAuthorityStatus
  reasonCode : String
  deriving DecidableEq, Repr

/-- `_selection_refused`. -/
def selectionRefused (refusal : SelectionRefusal) (current : Option SelectionSessionAuthority) :
    SelectionEntryAuthorityDecision where
  status := refusal.status
  selectionAuthorityId := none
  currentSelectionAuthorityId := current.map (·.selectionAuthorityId.text)
  reasonCode := refusal.reasonCode

/-- An authority that an owner activated for the static mode of the hourly session. -/
def OrbStaticGrant (control : SelectionControl) (current : SelectionSessionAuthority) : Prop :=
  control.selectionSpecId.text = orbSelectionSpecId ∧ control.selectionMode = .staticBaseline ∧
    current.selectionMode = .staticBaseline ∧ current.authorityOutcome = .activeNew ∧
    current.activationAuthorizationId ≠ none

instance (control : SelectionControl) (current : SelectionSessionAuthority) :
    Decidable (OrbStaticGrant control current) := inferInstanceAs (Decidable (_ ∧ _))

/-- Such a grant, while the change to the dynamic mode is pending. -/
def OrbStaticPending (control : SelectionControl) (current : SelectionSessionAuthority) : Prop :=
  OrbStaticGrant control current ∧ control.pendingSelectionMode = some .dynamicSelection ∧
    control.pendingAuthorizationId ≠ none ∧ control.pendingEffectivePeriodAnchorMs ≠ none ∧
    current.selectionControlVersion.map (· + 1) = some control.controlVersion ∧
    current.createdAtMs ≤ control.updatedAtMs

instance (control : SelectionControl) (current : SelectionSessionAuthority) :
    Decidable (OrbStaticPending control current) := inferInstanceAs (Decidable (_ ∧ _))

/-- The authority of the hourly session is of another spec, epoch or control version. -/
def DiffersFromOrbControl (control : SelectionControl) (current : SelectionSessionAuthority) :
    Prop :=
  control.selectionSpecId.text = orbSelectionSpecId ∧
    (current.selectionSpecId ≠ control.selectionSpecId ∨
      (current.selectionEpochId ≠ control.selectionEpochId ∧
        ¬ (control.selectionMode = .staticBaseline ∧ current.selectionMode = .staticBaseline ∧
          current.authorityOutcome = .activeNew ∧ current.activationAuthorizationId ≠ none ∧
          (control.selectionEpochId = none ∨ OrbStaticPending control current))) ∨
      (current.selectionControlVersion ≠ some control.controlVersion ∧
        ¬ OrbStaticPending control current))

instance (control : SelectionControl) (current : SelectionSessionAuthority) :
    Decidable (DiffersFromOrbControl control current) := inferInstanceAs (Decidable (_ ∧ _))

def isLive (current : SelectionSessionAuthority) (nowMs : ℤ) : Bool :=
  current.effectiveFromMs ≤ nowMs ∧ nowMs < current.expiresAtMs

section Evaluator

variable (facts : SelectionEntryAuthorityFacts) (control : SelectionControl)
  (current : SelectionSessionAuthority) (birthSelectionAuthorityId : Option String)
  (observedCloseTimeMs nowMs : ℤ) (allowCurrentAsBirth : Bool)

/-- A static selection without a live authority grants without one. -/
def staticWithoutAuthority :
    Except SelectionRefusal (Option SelectionSessionAuthority) := do
  refuse (birthSelectionAuthorityId ≠ none)
    ⟨.authorityInvalid, "static_signal_has_unexpected_selection_authority"⟩
  return none

/-- The current authority, where the mode of the control asks for one. -/
def requiredAuthority : Except SelectionRefusal (Option SelectionSessionAuthority) :=
  match facts.currentAuthority with
  | none =>
      if control.selectionMode = .staticBaseline then
        staticWithoutAuthority birthSelectionAuthorityId
      else .error ⟨.authorityInvalid, "selection_current_authority_missing"⟩
  | some current =>
      if control.selectionMode = .staticBaseline then
        if isLive current nowMs then do
          refuse (current.selectionMode ≠ .staticBaseline ∨
              (current.authorityOutcome ≠ .fallbackPrevious ∧
                ¬ (control.selectionSpecId.text = orbSelectionSpecId ∧
                  current.authorityOutcome = .activeNew ∧
                  current.activationAuthorizationId ≠ none)))
            ⟨.authorityInvalid, "static_selection_transition_authority_invalid"⟩
          return some current
        else staticWithoutAuthority birthSelectionAuthorityId
      else return some current

/-- The reason why the time window of the authority is refused. -/
def windowReason : String :=
  if ∃ close ∈ current.firstEligibleCloseTimeMs, observedCloseTimeMs < close then
    "selection_close_before_first_eligible"
  else "selection_authority_time_window_invalid"

/-- The checks of the current authority. -/
def checkCurrentAuthority : Except SelectionRefusal Unit := do
  refuse (DiffersFromOrbControl control current)
    ⟨.authorityInvalid, "selection_control_authority_epoch_mismatch"⟩
  refuse (current.selectionMode ≠ control.selectionMode)
    ⟨.authorityInvalid, "selection_control_authority_mode_mismatch"⟩
  refuse (current.authorityOutcome ∉ tradingOutcomes)
    ⟨.authorityInvalid, "selection_authority_non_trading_outcome"⟩
  refuse (facts.currentPair = none ∨ current.authorizedPair ≠ facts.currentPair)
    ⟨.authorityInvalid, "selection_authority_pair_mismatch"⟩
  refuse (current.authorityOutcome = .activeNew ∧
      facts.activeGenerationPair ≠ current.authorizedPair)
    ⟨.authorityInvalid, "selection_authority_generation_mismatch"⟩
  refuse (some current.ownerControlVersion ≠ facts.ownerControlVersion)
    ⟨.ownerOrPolicyBlocked, "selection_owner_control_version_drift"⟩
  refuse (current.sessionStartMs ≠ observedCloseTimeMs / dayMs * dayMs)
    ⟨.authorityInvalid, "selection_authority_period_mismatch"⟩
  refuse (selectionAuthorityAllowsNewEntry current nowMs observedCloseTimeMs
      facts.scopedVacuumOpen = false)
    ⟨.authorityInvalid, windowReason current observedCloseTimeMs⟩
  refuse facts.triggerSuppressed
    ⟨.triggerSuppressed, "selection_first_trigger_already_consumed"⟩

/-- The birth authority, at the other end of an uninterrupted chain. -/
def birthOfLineage : Except SelectionRefusal String := do
  let birthId ← demand (birthSelectionAuthorityId.or
      (if allowCurrentAsBirth then some current.selectionAuthorityId.text else none))
    ⟨.authorityInvalid, "selection_birth_authority_missing"⟩
  let chain := facts.authorityChain
  refuse (chain.head?.map (·.selectionAuthorityId.text) ≠ some birthId ∨
      chain.getLast?.map (·.selectionAuthorityId) ≠ some current.selectionAuthorityId)
    ⟨.authorityInvalid, "selection_authority_lineage_missing"⟩
  refuse facts.authorityInterrupted
    ⟨.authorityInvalid, "selection_authority_lineage_interrupted"⟩
  refuse (∃ link ∈ pairwise chain,
      authoritySuccessorIsCompatible link.1 link.2 false true true true = false)
    ⟨.authorityInvalid, "selection_authority_successor_incompatible"⟩
  return birthId

/-- The birth authority that is granted, `none` where none is needed. -/
def grantedBirth : Except SelectionRefusal (Option String) :=
  match facts.selectionControl with
  | none => do
      refuse (birthSelectionAuthorityId ≠ none)
        ⟨.authorityInvalid, "selection_authority_without_control"⟩
      return none
  | some control => do
      refuse (control.selectionMode = .disabled)
        ⟨.authorityInvalid, "selection_control_disabled"⟩
      refuse facts.scopedVacuumOpen ⟨.vacuumOpen, "selection_entry_vacuum_open"⟩
      refuse (facts.ownerEntryEnabled = false ∨ facts.globalPolicyEnabled = false ∨
          facts.ownerControlVersion = none)
        ⟨.ownerOrPolicyBlocked, "selection_owner_or_policy_blocked"⟩
      match ← requiredAuthority facts control birthSelectionAuthorityId nowMs with
      | none => return none
      | some current => do
          checkCurrentAuthority facts control current observedCloseTimeMs nowMs
          let birthId ← birthOfLineage facts current birthSelectionAuthorityId allowCurrentAsBirth
          return some birthId

/-- Validate one exact or uninterrupted compatible birth authority lineage. -/
def evaluateSelectionEntryAuthority : SelectionEntryAuthorityDecision :=
  match grantedBirth facts birthSelectionAuthorityId observedCloseTimeMs nowMs
    allowCurrentAsBirth with
  | .ok birthId => selectionAllowed birthId facts.currentAuthority
  | .error refusal => selectionRefused refusal facts.currentAuthority

end Evaluator

/-! ### One link -/

section Links

variable {earlier later last : SelectionSessionAuthority}

/-- Both authorities are of one grant. -/
structure SameGrant (first second : SelectionSessionAuthority) : Prop where
  spec : first.selectionSpecId = second.selectionSpecId
  session : first.sessionStartMs = second.sessionStartMs
  boundary : first.decisionBoundaryMs = second.decisionBoundaryMs
  expiry : first.expiresAtMs = second.expiresAtMs
  mode : first.selectionMode = second.selectionMode
  owner : first.ownerControlVersion = second.ownerControlVersion
  pair : first.authorizedPair = second.authorizedPair

theorem SameGrant.refl (authority : SelectionSessionAuthority) : SameGrant authority authority :=
  ⟨rfl, rfl, rfl, rfl, rfl, rfl, rfl⟩

theorem SameGrant.trans (first : SameGrant earlier later) (second : SameGrant later last) :
    SameGrant earlier last where
  spec := first.spec.trans second.spec
  session := first.session.trans second.session
  boundary := first.boundary.trans second.boundary
  expiry := first.expiry.trans second.expiry
  mode := first.mode.trans second.mode
  owner := first.owner.trans second.owner
  pair := first.pair.trans second.pair

/-- The later authority is the next one, and names the earlier one in its continuation and in its
proof. -/
structure Continues (earlier later : SelectionSessionAuthority) : Prop where
  sequence : later.authoritySequence = earlier.authoritySequence + 1
  continuation : later.continuedFromSelectionAuthorityId = some earlier.selectionAuthorityId
  proof : later.grantProof = some (.continuousEligibleCloses earlier.selectionAuthorityId)

/-- Both first eligible closes are known, and the later one is not before the earlier one. -/
def ClosesInOrder (earlier later : SelectionSessionAuthority) : Prop :=
  ∃ first ∈ earlier.firstEligibleCloseTimeMs, ∃ second ∈ later.firstEligibleCloseTimeMs,
    first ≤ second

theorem ClosesInOrder.trans (first : ClosesInOrder earlier later)
    (second : ClosesInOrder later last) : ClosesInOrder earlier last := by
  obtain ⟨close, known, next, nextKnown, before⟩ := first
  obtain ⟨other, otherKnown, end_, endKnown, after⟩ := second
  obtain rfl := Option.some.inj (nextKnown.symm.trans otherKnown)
  exact ⟨close, known, end_, endKnown, before.trans after⟩

/-- The close is not before the first eligible one. -/
def Eligible (observedCloseTimeMs : ℤ) (authority : SelectionSessionAuthority) : Prop :=
  ∃ close ∈ authority.firstEligibleCloseTimeMs, close ≤ observedCloseTimeMs

/-- A close that is eligible under the later authority is so under the earlier one. -/
def Inherits (observedCloseTimeMs : ℤ) (earlier later : SelectionSessionAuthority) : Prop :=
  Eligible observedCloseTimeMs later → Eligible observedCloseTimeMs earlier

theorem Inherits.refl {observedCloseTimeMs : ℤ} (authority : SelectionSessionAuthority) :
    Inherits observedCloseTimeMs authority authority := id

theorem Inherits.trans {observedCloseTimeMs : ℤ} (first : Inherits observedCloseTimeMs earlier later)
    (second : Inherits observedCloseTimeMs later last) :
    Inherits observedCloseTimeMs earlier last := first ∘ second

theorem ClosesInOrder.inherits {observedCloseTimeMs : ℤ} (inOrder : ClosesInOrder earlier later) :
    Inherits observedCloseTimeMs earlier later := by
  rintro ⟨close, known, observed⟩
  obtain ⟨first, firstKnown, second, secondKnown, before⟩ := inOrder
  obtain rfl := Option.some.inj (known.symm.trans secondKnown)
  exact ⟨first, firstKnown, before.trans observed⟩

/-- What a compatible successor has to do with its birth authority. -/
structure Link (earlier later : SelectionSessionAuthority) : Prop where
  grant : SameGrant earlier later
  continues : Continues earlier later
  outcome : earlier.authorityOutcome = .preFenceContinuity
  unaudited : later.authorityGapAuditId = none
  closes : ClosesInOrder earlier later

theorem Link.of_compatible
    (compatible : authoritySuccessorIsCompatible earlier later false true true true = true) :
    Link earlier later := by
  unfold authoritySuccessorIsCompatible at compatible
  rw [if_neg (by simp)] at compatible
  split_ifs at compatible with fenced other
  have same := of_decide_eq_true compatible
  unfold DiffersFromGrant at same
  simp only [not_or, not_not] at same
  obtain ⟨spec, session, boundary, expiry, mode, owner, pair, sequence, continuation, proof,
    unaudited, second, secondKnown, first, firstKnown, inOrder⟩ := same
  exact {
    grant := ⟨spec, session, boundary, expiry, mode, owner, pair⟩
    continues := ⟨sequence, continuation, proof⟩
    outcome := not_not.mp fenced
    unaudited := unaudited
    closes := ⟨first, firstKnown, second, secondKnown, inOrder⟩ }

end Links

/-! ### What the evaluator has checked -/

section Checked

variable {facts : SelectionEntryAuthorityFacts} {control : SelectionControl}
  {current : SelectionSessionAuthority} {birthSelectionAuthorityId : Option String}
  {observedCloseTimeMs nowMs : ℤ} {allowCurrentAsBirth : Bool} {birthId : String}

/-- What a current authority that passed is. -/
structure CurrentChecked (facts : SelectionEntryAuthorityFacts) (control : SelectionControl)
    (current : SelectionSessionAuthority) (observedCloseTimeMs nowMs : ℤ) : Prop where
  mode : current.selectionMode = control.selectionMode
  trades : current.authorityOutcome ∈ tradingOutcomes
  pair : facts.currentPair ≠ none ∧ current.authorizedPair = facts.currentPair
  owner : facts.ownerControlVersion = some current.ownerControlVersion
  live : nowMs < current.expiresAtMs
  eligible : Eligible observedCloseTimeMs current

theorem CurrentChecked.of_check
    (checked : checkCurrentAuthority facts control current observedCloseTimeMs nowMs = .ok ()) :
    CurrentChecked facts control current observedCloseTimeMs nowMs := by
  unfold checkCurrentAuthority at checked
  simp only [refuse_bind_eq_ok, not_or, not_not] at checked
  obtain ⟨-, mode, trades, pair, -, owner, -, allows, -⟩ := checked
  rw [Bool.not_eq_false] at allows
  have window := of_decide_eq_true allows
  exact ⟨mode, trades, pair, owner.symm, window.2.2.1.2, window.2.2.2⟩

/-- A birth authority is at the head of a chain of links that ends in the current authority's id. -/
structure LineageChecked (facts : SelectionEntryAuthorityFacts)
    (current : SelectionSessionAuthority) (birthId : String) : Prop where
  first : facts.authorityChain.head?.map (·.selectionAuthorityId.text) = some birthId
  links : facts.authorityChain.IsChain Link

theorem LineageChecked.of_birth (granted : birthOfLineage facts current birthSelectionAuthorityId
    allowCurrentAsBirth = .ok birthId) : LineageChecked facts current birthId := by
  unfold birthOfLineage at granted
  simp only [demand_bind_eq_ok, refuse_bind_eq_ok, pure_eq_ok, not_or, not_not, not_exists,
    not_and] at granted
  obtain ⟨birth, -, ⟨first, -⟩, -, links, rfl⟩ := granted
  refine ⟨first, isChain_of_pairwise fun link member => ?_⟩
  exact .of_compatible (by simpa using links link member)

/-- The authority that a control asks for is the current one. -/
theorem current_of_required (required : requiredAuthority facts control birthSelectionAuthorityId
    nowMs = .ok (some current)) : facts.currentAuthority = some current := by
  have without : staticWithoutAuthority birthSelectionAuthorityId ≠ .ok (some current) := by
    intro returned
    obtain ⟨-, returned⟩ := refuse_bind_eq_ok.mp returned
    exact absurd (pure_eq_ok.mp returned) (by simp)
  unfold requiredAuthority at required
  split at required
  · split_ifs at required
    exact absurd required without
  · rename_i other found
    rw [found]
    split_ifs at required
    · obtain ⟨-, required⟩ := refuse_bind_eq_ok.mp required
      exact (pure_eq_ok.mp required).symm
    · exact absurd required without
    · exact (pure_eq_ok.mp required).symm

/-- A birth authority is only granted under a control without an open vacuum, by checks of the
current authority and of its lineage. -/
theorem checked_of_granted (granted : grantedBirth facts birthSelectionAuthorityId
    observedCloseTimeMs nowMs allowCurrentAsBirth = .ok (some birthId)) :
    ∃ control current, facts.selectionControl = some control ∧
      facts.currentAuthority = some current ∧ facts.scopedVacuumOpen = false ∧
      CurrentChecked facts control current observedCloseTimeMs nowMs ∧
      LineageChecked facts current birthId := by
  unfold grantedBirth at granted
  split at granted
  · obtain ⟨-, granted⟩ := refuse_bind_eq_ok.mp granted
    exact absurd (pure_eq_ok.mp granted) (by simp)
  · rename_i control found
    obtain ⟨-, granted⟩ := refuse_bind_eq_ok.mp granted
    obtain ⟨unfenced, granted⟩ := refuse_bind_eq_ok.mp granted
    obtain ⟨-, granted⟩ := refuse_bind_eq_ok.mp granted
    obtain ⟨required, isRequired, granted⟩ := bind_eq_ok.mp granted
    cases required with
    | none => exact absurd (pure_eq_ok.mp granted) (by simp)
    | some current =>
      obtain ⟨_, checked, granted⟩ := bind_eq_ok.mp granted
      obtain ⟨birth, lineage, granted⟩ := bind_eq_ok.mp granted
      obtain rfl := Option.some.inj (pure_eq_ok.mp granted)
      exact ⟨control, current, found, current_of_required isRequired, by simpa using unfenced,
        .of_check checked, .of_birth lineage⟩

end Checked

/-! ### The chain as a whole -/

/-- One grant, handed on without a gap from its birth to the current authority. -/
structure UnbrokenChain (facts : SelectionEntryAuthorityFacts) (control : SelectionControl)
    (current : SelectionSessionAuthority) (birthId : String) (observedCloseTimeMs nowMs : ℤ) :
    Prop where
  first : facts.authorityChain.head?.map (·.selectionAuthorityId.text) = some birthId
  last : facts.authorityChain.getLast? = some current
  grant : ∀ authority ∈ facts.authorityChain, SameGrant authority current
  mode : ∀ authority ∈ facts.authorityChain, authority.selectionMode = control.selectionMode
  owner : ∀ authority ∈ facts.authorityChain,
    facts.ownerControlVersion = some authority.ownerControlVersion
  pair : ∃ pair, facts.currentPair = some pair ∧
    ∀ authority ∈ facts.authorityChain, authority.authorizedPair = some pair
  continues : facts.authorityChain.IsChain Continues
  fenced : ∀ authority ∈ facts.authorityChain.dropLast,
    authority.authorityOutcome = .preFenceContinuity
  trades : current.authorityOutcome ∈ tradingOutcomes
  unaudited : ∀ authority ∈ facts.authorityChain.tail, authority.authorityGapAuditId = none
  closes : facts.authorityChain.Pairwise ClosesInOrder
  eligible : ∀ authority ∈ facts.authorityChain, Eligible observedCloseTimeMs authority
  live : ∀ authority ∈ facts.authorityChain, nowMs < authority.expiresAtMs
  unvacated : facts.scopedVacuumOpen = false

/-- Links that all hold, ending in a checked authority, make an unbroken chain. -/
theorem UnbrokenChain.of_checked {facts : SelectionEntryAuthorityFacts}
    {control : SelectionControl} {current : SelectionSessionAuthority} {birthId : String}
    {observedCloseTimeMs nowMs : ℤ}
    (checked : CurrentChecked facts control current observedCloseTimeMs nowMs)
    (lineage : LineageChecked facts current birthId)
    (last : facts.authorityChain.getLast? = some current)
    (unvacated : facts.scopedVacuumOpen = false) :
    UnbrokenChain facts control current birthId observedCloseTimeMs nowMs := by
  have links := lineage.links
  have grant : ∀ authority ∈ facts.authorityChain, SameGrant authority current :=
    rel_last SameGrant.refl SameGrant.trans (links.imp fun _ _ link => link.grant) last
  obtain ⟨pair, paired⟩ := Option.ne_none_iff_exists'.mp checked.pair.1
  have inherits : ∀ authority ∈ facts.authorityChain,
      Inherits observedCloseTimeMs authority current :=
    rel_last Inherits.refl Inherits.trans
      (links.imp fun _ _ link => link.closes.inherits) last
  have closes : facts.authorityChain.Pairwise ClosesInOrder := by
    have : Trans ClosesInOrder ClosesInOrder ClosesInOrder := ⟨ClosesInOrder.trans⟩
    exact List.isChain_iff_pairwise.mp (links.imp fun _ _ link => link.closes)
  exact {
    first := lineage.first
    last := last
    grant := grant
    mode := fun authority member => (grant authority member).mode.trans checked.mode
    owner := fun authority member => by rw [checked.owner, (grant authority member).owner]
    pair := ⟨pair, paired, fun authority member =>
      (grant authority member).pair.trans (checked.pair.2.trans paired)⟩
    continues := links.imp fun _ _ link => link.continues
    fenced := holds_of_mem_dropLast links fun _ _ link => link.outcome
    trades := checked.trades
    unaudited := holds_of_mem_tail links fun _ _ link => link.unaudited
    closes := closes
    eligible := fun authority member => inherits authority member checked.eligible
    live := fun authority member => by
      rw [(grant authority member).expiry]
      exact checked.live
    unvacated := unvacated }

/-- **The law.** A valid decision with a birth authority, on a chain of any length that ends in the
current authority, rests on an unbroken chain from that birth. -/
theorem valid_rests_on_unbroken_chain (facts : SelectionEntryAuthorityFacts)
    (birthSelectionAuthorityId : Option String) (observedCloseTimeMs nowMs : ℤ)
    (allowCurrentAsBirth : Bool) (birthId : String)
    (last : facts.authorityChain.getLast? = facts.currentAuthority)
    (valid : (evaluateSelectionEntryAuthority facts birthSelectionAuthorityId observedCloseTimeMs
        nowMs allowCurrentAsBirth).status = .valid ∧
      (evaluateSelectionEntryAuthority facts birthSelectionAuthorityId observedCloseTimeMs nowMs
        allowCurrentAsBirth).selectionAuthorityId = some birthId) :
    ∃ control current, facts.selectionControl = some control ∧
      facts.currentAuthority = some current ∧
      UnbrokenChain facts control current birthId observedCloseTimeMs nowMs := by
  obtain ⟨-, birth⟩ := valid
  unfold evaluateSelectionEntryAuthority at birth
  cases granted : grantedBirth facts birthSelectionAuthorityId observedCloseTimeMs nowMs
      allowCurrentAsBirth with
  | error refusal =>
    rw [granted] at birth
    exact absurd birth (by simp [selectionRefused])
  | ok allowed =>
    rw [granted] at birth
    obtain rfl : allowed = some birthId := birth
    obtain ⟨control, current, found, isCurrent, unvacated, checked, lineage⟩ :=
      checked_of_granted granted
    exact ⟨control, current, found, isCurrent,
      .of_checked checked lineage (last.trans isCurrent) unvacated⟩

/-! ### A sample chain -/

/-- The control of a strategy that selects dynamically. -/
def sampleControl : SelectionControl where
  strategyGroupId := .ofSolid "SOR-001" (solid_of_all (by decide)) (by decide)
  selectionSpecId := .ofSolid "sor-dynamic-selection-v0" (solid_of_all (by decide)) (by decide)
  selectionMode := .dynamicSelection
  pendingSelectionMode := none
  pendingEffectivePeriodAnchorMs := none
  pendingAuthorizationId := none
  controlVersion := 1
  updatedAtMs := 1
  selectionEpochId := none
  valid := by decide +kernel

def samplePair : UniverseAuthorityPair where
  longUniverseVersionId := .ofSolid "universe:long" (solid_of_all (by decide)) (by decide)
  shortUniverseVersionId := .ofSolid "universe:short" (solid_of_all (by decide)) (by decide)
  distinct := by decide

/-- An authority of the sample session, that continues the one before it. -/
def sampleFields (predecessorId id : NonBlankText) (sequence : ℤ) (outcome : AuthorityOutcome) :
    SessionAuthorityFields where
  selectionAuthorityId := id
  selectionSpecId := sampleControl.selectionSpecId
  selectionEpochId := none
  selectionControlVersion := none
  activationAuthorizationId := none
  sessionStartMs := dayMs
  decisionBoundaryMs := dayMs + Selection.hourMs
  authoritySequence := sequence
  selectionMode := .dynamicSelection
  selectionSnapshotId := some id
  continuedFromSelectionAuthorityId := some predecessorId
  continuitySourceKind := .selectionAuthority
  authorityGapAuditId := none
  materializationGenerationId := none
  ownerControlVersion := 1
  authorityOutcome := outcome
  authorizedPair := some samplePair
  grantProof := some (.continuousEligibleCloses predecessorId)
  effectiveFromMs := dayMs + Selection.hourMs
  firstEligibleCloseTimeMs := some (dayMs + (7 + sequence) * intervalMs)
  expiresAtMs := 2 * dayMs + Selection.hourMs
  createdAtMs := dayMs + Selection.hourMs

def firstId : NonBlankText := .ofSolid "authority:1" (solid_of_all (by decide)) (by decide)

def secondId : NonBlankText := .ofSolid "authority:2" (solid_of_all (by decide)) (by decide)

def sampleBirth : SelectionSessionAuthority where
  toSessionAuthorityFields := sampleFields
    (.ofSolid "authority:0" (solid_of_all (by decide)) (by decide)) firstId 1 .preFenceContinuity
  valid := by decide +kernel

def sampleSuccessor : SelectionSessionAuthority where
  toSessionAuthorityFields := sampleFields firstId secondId 2 .noChange
  valid := by decide +kernel

def sampleFacts : SelectionEntryAuthorityFacts where
  selectionControl := some sampleControl
  currentAuthority := some sampleSuccessor
  authorityChain := [sampleBirth, sampleSuccessor]
  currentPair := some samplePair
  activeGenerationPair := none
  scopedVacuumOpen := false
  authorityInterrupted := false
  ownerEntryEnabled := true
  ownerControlVersion := some 1
  globalPolicyEnabled := true
  triggerSuppressed := false

/-- The law on a signal that was born under the first of two authorities and is used under the
second. -/
theorem valid_rests_on_unbroken_chain_of_sample : ∃ control current,
    sampleFacts.selectionControl = some control ∧ sampleFacts.currentAuthority = some current ∧
      UnbrokenChain sampleFacts control current "authority:1" (dayMs + 10 * intervalMs)
        (dayMs + 10 * intervalMs) :=
  valid_rests_on_unbroken_chain sampleFacts (some "authority:1") (dayMs + 10 * intervalMs)
    (dayMs + 10 * intervalMs) false "authority:1" rfl (by decide)

end TradingKernel.Authority
