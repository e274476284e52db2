/-
**`complete_authority_gap_audit`: closing the audit of a gap without authority.**

An audit starts at the first close without authority. It is completed with one result for each scope up
to the last audited close, and the close after that one is the first that may be granted. The scopes and
the results are compared in their canonical order, as they are: `gap_audit_completion_sound_iff` says
that a completion is sound exactly where no scope is given twice.
-/

import Mathlib.Data.Prod.Lex
import Mathlib.Data.String.Basic
import TradingKernel.Domain.Selection.SessionAuthority
import TradingKernel.Lib.SortBy

namespace TradingKernel.Authority

open Text Guard CanonicalJson SortBy
open Detectors (dayMs)
open Selection (hourMs)

/-! ### Scopes and results -/

structure AuthorityGapScope where
  eventSpecId : NonBlankText
  exchangeInstrumentId : NonBlankText
  deriving DecidableEq

structure AuthorityGapScopeResult where
  scope : AuthorityGapScope
  sessionReference : NonBlankText
  firstNaturalTriggerAtMs : Option ℤ
  positive : ∀ trigger ∈ firstNaturalTriggerAtMs, 0 < trigger

namespace AuthorityGapScope

/-- The key of the canonical order. -/
def key (scope : AuthorityGapScope) : String ×ₗ String :=
  toLex (scope.eventSpecId.text, scope.exchangeInstrumentId.text)

def payload (scope : AuthorityGapScope) : Canonical :=
  .object [("event_spec_id", .text scope.eventSpecId.text),
    ("exchange_instrument_id", .text scope.exchangeInstrumentId.text)]

theorem key_injective : Function.Injective key := by
  rintro ⟨⟨event, _⟩, ⟨instrument, _⟩⟩ ⟨⟨event', _⟩, ⟨instrument', _⟩⟩ same
  obtain ⟨rfl, rfl⟩ := Prod.mk.inj (toLex.injective same)
  rfl

end AuthorityGapScope

def AuthorityGapScopeResult.payload (result : AuthorityGapScopeResult) : Canonical :=
  .object [("scope", result.scope.payload), ("session_reference", .text result.sessionReference.text),
    ("first_natural_trigger_at_ms", .optional .integer result.firstNaturalTriggerAtMs)]

/-! ### The audit -/

inductive AuthorityGapAuditKind where
  | latePreFenceContinuity
  | lateNoChange
  | entryVacuum
  | ownerPause
  deriving DecidableEq, Repr

inductive AuthorityGapAuditState where
  | pending
  | complete
  | failed
  deriving DecidableEq, Repr

structure AuthorityGapAuditFields where
  authorityGapAuditId : NonBlankText
  selectionSpecId : NonBlankText
  sessionStartMs : ℤ
  gapKind : AuthorityGapAuditKind
  sourceEntryVacuumId : Option NonBlankText
  sourceGenerationId : Option NonBlankText
  proposedAuthorityOutcome : AuthorityOutcome
  unauthorizedFromCloseTimeMs : ℤ
  auditedThroughCloseTimeMs : Option ℤ
  firstEligibleCloseTimeMs : Option ℤ
  auditScopeDigest : Option String
  auditResultDigest : Option String
  detectorSemanticDigest : String
  state : AuthorityGapAuditState
  firstBlocker : Option NonBlankText
  projectionVersion : ℤ

/-- `daily_entry_interval_ms`. -/
def dailyEntryIntervalMs (selectionSpecId : String) : Except ValidationError ℤ :=
  if selectionSpecId = orbSelectionSpecId then .ok hourMs
  else if selectionSpecId = "sor-dynamic-selection-v0" then .ok intervalMs
  else .error ⟨"daily ORB requires an exact installed Selection identity"⟩

/-- `daily_first_offset_ms`, by the interval. -/
def dailyFirstOffsetMs (interval : ℤ) : ℤ :=
  if interval = hourMs then 2 * hourMs else 5 * intervalMs

namespace AuthorityGapAuditFields

variable (audit : AuthorityGapAuditFields)

/-- The audit is one of the hourly session. -/
def Hourly : Prop := audit.selectionSpecId.text = orbSelectionSpecId

instance : Decidable audit.Hourly := inferInstanceAs (Decidable (_ = _))

/-- The digests that are there are digests. -/
def checkDigests : Except ValidationError Unit :=
  refuse (¬ (IsSha256Digest audit.detectorSemanticDigest ∧
      (∀ digest ∈ audit.auditScopeDigest, IsSha256Digest digest) ∧
      ∀ digest ∈ audit.auditResultDigest, IsSha256Digest digest))
    ⟨"digest must be canonical sha256"⟩

/-- The window of a complete audit. -/
def checkWindow (interval firstClose through first : ℤ) : Except ValidationError Unit :=
  refuse (through % interval ≠ 0 ∨ first % interval ≠ 0 ∨ first ≠ through + interval ∨
      (through < audit.unauthorizedFromCloseTimeMs ∧
        ¬ (audit.Hourly ∧ audit.unauthorizedFromCloseTimeMs = firstClose ∧ first = firstClose)) ∨
      (audit.Hourly ∧ audit.sessionStartMs + dayMs ≤ first))
    ⟨"Authority Gap Audit close window is not canonical"⟩

/-- What a state asks for. -/
def checkState (interval firstClose : ℤ) : Except ValidationError Unit :=
  match audit.state with
  | .pending =>
      refuse (audit.auditedThroughCloseTimeMs ≠ none ∨ audit.firstEligibleCloseTimeMs ≠ none ∨
          audit.auditScopeDigest ≠ none ∨ audit.auditResultDigest ≠ none ∨
          audit.firstBlocker ≠ none)
        ⟨"pending Authority Gap Audit cannot claim results"⟩
  | .failed =>
      refuse (audit.firstBlocker = none) ⟨"failed Authority Gap Audit requires blocker"⟩
  | .complete => do
      let through ← demand audit.auditedThroughCloseTimeMs
        ⟨"complete Authority Gap Audit requires exact result proof"⟩
      let first ← demand audit.firstEligibleCloseTimeMs
        ⟨"complete Authority Gap Audit requires exact result proof"⟩
      refuse (audit.auditScopeDigest = none ∨ audit.auditResultDigest = none ∨
          audit.firstBlocker ≠ none)
        ⟨"complete Authority Gap Audit requires exact result proof"⟩
      audit.checkWindow interval firstClose through first

/-- `_validate_gap_audit`. -/
def check : Except ValidationError Unit := do
  audit.checkDigests
  let interval ← dailyEntryIntervalMs audit.selectionSpecId.text
  let firstClose := audit.sessionStartMs + dailyFirstOffsetMs interval
  refuse (audit.sessionStartMs ≤ 0 ∨ audit.sessionStartMs % dayMs ≠ 0)
    ⟨"Authority Gap Audit session must be exact 00:00 UTC"⟩
  refuse (audit.unauthorizedFromCloseTimeMs % interval ≠ 0 ∨
      audit.unauthorizedFromCloseTimeMs < firstClose ∨
      (audit.Hourly ∧ audit.sessionStartMs + dayMs ≤ audit.unauthorizedFromCloseTimeMs))
    ⟨"Authority Gap Audit must start at an eligible close"⟩
  refuse (audit.projectionVersion ≤ 0)
    ⟨"Authority Gap Audit projection version must be positive"⟩
  audit.checkState interval firstClose

end AuthorityGapAuditFields

/-- An audit that has passed its validator. -/
structure AuthorityGapAudit extends AuthorityGapAuditFields where
  valid : toAuthorityGapAuditFields.check = .ok ()

/-! ### The completion -/

/-- The audit with its results. -/
def AuthorityGapAudit.completedFields (audit : AuthorityGapAudit) (through interval : ℤ)
    (scopes : List AuthorityGapScope) (results : List AuthorityGapScopeResult) :
    AuthorityGapAuditFields :=
  { audit.toAuthorityGapAuditFields with
    auditedThroughCloseTimeMs := some through
    firstEligibleCloseTimeMs := some (through + interval)
    auditScopeDigest := some (canonicalDigest (.array (scopes.map AuthorityGapScope.payload)))
    auditResultDigest := some
      (canonicalDigest (.array (results.map AuthorityGapScopeResult.payload)))
    state := .complete
    projectionVersion := audit.projectionVersion + 1 }

/-- `complete_authority_gap_audit`. -/
def completeAuthorityGapAudit (audit : AuthorityGapAudit) (auditedThroughCloseTimeMs : ℤ)
    (scopes : List AuthorityGapScope) (results : List AuthorityGapScopeResult) :
    Except ValidationError AuthorityGapAudit := do
  refuse (audit.state ≠ .pending) ⟨"only pending Authority Gap Audit may complete"⟩
  let canonicalScopes := sortBy AuthorityGapScope.key scopes
  let canonicalResults := sortBy (fun result => AuthorityGapScope.key result.scope) results
  refuse (canonicalScopes = [] ∨
      canonicalResults.map AuthorityGapScopeResult.scope ≠ canonicalScopes)
    ⟨"Authority Gap Audit requires one result for every exact scope"⟩
  refuse (∃ result ∈ canonicalResults, ∃ trigger ∈ result.firstNaturalTriggerAtMs,
      ¬ (audit.unauthorizedFromCloseTimeMs ≤ trigger ∧ trigger ≤ auditedThroughCloseTimeMs))
    ⟨"Authority Gap Audit trigger falls outside audited window"⟩
  let interval ← dailyEntryIntervalMs audit.selectionSpecId.text
  let fields := audit.completedFields auditedThroughCloseTimeMs interval canonicalScopes
    canonicalResults
  certify fields.check fun valid => ⟨fields, valid⟩

section Completion

variable {audit completed : AuthorityGapAudit} {through : ℤ} {scopes : List AuthorityGapScope}
  {results : List AuthorityGapScopeResult}

/-- **What a completion is**: a pending audit, the scopes of the results, triggers in the window, and
the fields with the results in canonical order. -/
theorem completeAuthorityGapAudit_eq_ok :
    completeAuthorityGapAudit audit through scopes results = .ok completed ↔
      audit.state = .pending ∧ scopes ≠ [] ∧
      (sortBy (fun result => AuthorityGapScope.key result.scope) results).map
        AuthorityGapScopeResult.scope = sortBy AuthorityGapScope.key scopes ∧
      (∀ result ∈ results, ∀ trigger ∈ result.firstNaturalTriggerAtMs,
        audit.unauthorizedFromCloseTimeMs ≤ trigger ∧ trigger ≤ through) ∧
      ∃ interval, dailyEntryIntervalMs audit.selectionSpecId.text = .ok interval ∧
        completed.toAuthorityGapAuditFields = audit.completedFields through interval
          (sortBy AuthorityGapScope.key scopes)
          (sortBy (fun result => AuthorityGapScope.key result.scope) results) := by
  have empty : sortBy AuthorityGapScope.key scopes = [] ↔ scopes = [] := by
    rw [← List.length_eq_zero_iff, length_sortBy, List.length_eq_zero_iff]
  have inside : (¬ ∃ result ∈ sortBy (fun result => AuthorityGapScope.key result.scope) results,
      ∃ trigger ∈ result.firstNaturalTriggerAtMs,
        ¬ (audit.unauthorizedFromCloseTimeMs ≤ trigger ∧ trigger ≤ through)) ↔
      ∀ result ∈ results, ∀ trigger ∈ result.firstNaturalTriggerAtMs,
        audit.unauthorizedFromCloseTimeMs ≤ trigger ∧ trigger ≤ through := by
    constructor
    · intro noneOutside result member trigger isTrigger
      by_contra outside
      exact noneOutside ⟨result, mem_sortBy.mpr member, trigger, isTrigger, outside⟩
    · rintro all ⟨result, member, trigger, isTrigger, outside⟩
      exact outside (all result (mem_sortBy.mp member) trigger isTrigger)
  unfold completeAuthorityGapAudit
  simp only [refuse_bind_eq_ok]
  simp only [bind_eq_ok, certify_eq_ok, inside, not_or, not_ne_iff, empty]
  constructor
  · rintro ⟨pending, ⟨nonempty, same⟩, triggers, interval, daily, valid, rfl⟩
    exact ⟨pending, nonempty, same, triggers, interval, daily, rfl⟩
  · rintro ⟨pending, nonempty, same, triggers, interval, daily, isFields⟩
    obtain ⟨fields, valid⟩ := completed
    obtain rfl := isFields
    exact ⟨pending, ⟨nonempty, same⟩, triggers, interval, daily, valid, rfl⟩

/-- There is a result for each scope, with its multiplicity. -/
theorem scopes_perm_of_accepted
    (accepted : completeAuthorityGapAudit audit through scopes results = .ok completed) :
    (results.map AuthorityGapScopeResult.scope).Perm scopes := by
  obtain ⟨-, -, same, -⟩ := completeAuthorityGapAudit_eq_ok.mp accepted
  have perm : (sortBy (fun result => AuthorityGapScope.key result.scope) results).Perm results :=
    sortBy_perm
  have sorted := perm.map AuthorityGapScopeResult.scope
  rw [same] at sorted
  exact sorted.symm.trans sortBy_perm

/-- Distinct scopes are completed alike in every order. -/
theorem completeAuthorityGapAudit_perm {scopes' : List AuthorityGapScope}
    {results' : List AuthorityGapScopeResult} (scopesPerm : scopes'.Perm scopes)
    (resultsPerm : results'.Perm results) (distinct : scopes.Nodup)
    (same : (results.map AuthorityGapScopeResult.scope).Perm scopes) :
    completeAuthorityGapAudit audit through scopes' results' =
      completeAuthorityGapAudit audit through scopes results := by
  have scopeKeys : (scopes.map AuthorityGapScope.key).Nodup :=
    distinct.map AuthorityGapScope.key_injective
  have resultKeys : (results.map fun result => AuthorityGapScope.key result.scope).Nodup := by
    have := (same.map AuthorityGapScope.key).nodup_iff.mpr scopeKeys
    rwa [List.map_map] at this
  unfold completeAuthorityGapAudit
  rw [sortBy_eq_of_perm scopesPerm scopeKeys, sortBy_eq_of_perm resultsPerm resultKeys]

theorem dailyEntryIntervalMs_pos {selectionSpecId : String} {interval : ℤ}
    (daily : dailyEntryIntervalMs selectionSpecId = .ok interval) : 0 < interval := by
  unfold dailyEntryIntervalMs at daily
  split_ifs at daily
  · obtain rfl := Except.ok.inj daily
    decide
  · obtain rfl := Except.ok.inj daily
    decide

end Completion

/-- A completion covers each scope once, with triggers in the audited window, it does not depend on the
order of scopes and results, and it grants a close after the audited ones. -/
structure SoundCompletion (audit : AuthorityGapAudit) (through : ℤ)
    (scopes : List AuthorityGapScope) (results : List AuthorityGapScopeResult)
    (completed : AuthorityGapAudit) : Prop where
  distinct : scopes.Nodup
  oneEach : (results.map AuthorityGapScopeResult.scope).Perm scopes
  triggers : ∀ result ∈ results, ∀ trigger ∈ result.firstNaturalTriggerAtMs,
    audit.unauthorizedFromCloseTimeMs ≤ trigger ∧ trigger ≤ through
  anyOrder : ∀ scopes' results', scopes'.Perm scopes → results'.Perm results →
    completeAuthorityGapAudit audit through scopes' results' = .ok completed
  granted : ∃ first, completed.firstEligibleCloseTimeMs = some first ∧ through < first

/-- **A completion is sound exactly where no scope is given twice.** -/
theorem gap_audit_completion_sound_iff {audit completed : AuthorityGapAudit} {through : ℤ}
    {scopes : List AuthorityGapScope} {results : List AuthorityGapScopeResult}
    (accepted : completeAuthorityGapAudit audit through scopes results = .ok completed) :
    SoundCompletion audit through scopes results completed ↔ scopes.Nodup := by
  refine ⟨fun sound => sound.distinct, fun distinct => ?_⟩
  have same := scopes_perm_of_accepted accepted
  obtain ⟨-, -, -, triggers, interval, daily, isFields⟩ := completeAuthorityGapAudit_eq_ok.mp accepted
  refine ⟨distinct, same, triggers, fun scopes' results' scopesPerm resultsPerm => ?_,
    through + interval, ?_, ?_⟩
  · rw [completeAuthorityGapAudit_perm scopesPerm resultsPerm distinct same]
    exact accepted
  · rw [isFields]
    rfl
  · exact lt_add_of_pos_right through (dailyEntryIntervalMs_pos daily)

/-! ### A scope given twice -/

theorem sampleSpecId_solid : ∀ c ∈ "sor-dynamic-selection-v0".toList, isSpace c = false :=
  solid_of_all (by decide)

theorem sampleSpecId_named : "sor-dynamic-selection-v0" ≠ "" := by decide

theorem sampleInstrument_solid : ∀ c ∈ "binance-usdm:BTCUSDT".toList, isSpace c = false :=
  solid_of_all (by decide)

theorem sampleInstrument_named : "binance-usdm:BTCUSDT" ≠ "" := by decide

/-- An audit of the first quarter-hours of a day. -/
def sampleAudit : AuthorityGapAudit where
  authorityGapAuditId := .ofSolid "gap:1" (solid_of_all (by decide)) (by decide)
  selectionSpecId := .ofSolid "sor-dynamic-selection-v0" sampleSpecId_solid sampleSpecId_named
  sessionStartMs := dayMs
  gapKind := .lateNoChange
  sourceEntryVacuumId := none
  sourceGenerationId := none
  proposedAuthorityOutcome := .noChange
  unauthorizedFromCloseTimeMs := dayMs + 5 * intervalMs
  auditedThroughCloseTimeMs := none
  firstEligibleCloseTimeMs := none
  auditScopeDigest := none
  auditResultDigest := none
  detectorSemanticDigest := canonicalDigest .null
  state := .pending
  firstBlocker := none
  projectionVersion := 1
  valid := by
    unfold AuthorityGapAuditFields.check AuthorityGapAuditFields.checkDigests
    rw [refuse_bind_eq_ok]
    refine ⟨not_not.mpr ⟨isSha256Digest_canonicalDigest _, nofun, nofun⟩, ?_⟩
    rfl

def sampleScope : AuthorityGapScope :=
  ⟨.ofSolid "event_spec:SOR-001:SOR-LONG:v4" (solid_of_all (by decide)) (by decide),
    .ofSolid "binance-usdm:BTCUSDT" sampleInstrument_solid sampleInstrument_named⟩

/-- One result of the scope without a trigger, and one with. -/
def sampleResults : List AuthorityGapScopeResult :=
  [⟨sampleScope, .ofSolid "sor:1970-01-02" (solid_of_all (by decide)) (by decide), none, nofun⟩,
    ⟨sampleScope, .ofSolid "sor:1970-01-02" (solid_of_all (by decide)) (by decide),
      some (dayMs + 6 * intervalMs), by rintro _ ⟨⟩; decide⟩]

/-- Whatever its results, the audit is valid when it is completed through the seventh quarter-hour. -/
theorem sampleAudit_completed (scopes : List AuthorityGapScope)
    (results : List AuthorityGapScopeResult) :
    (sampleAudit.completedFields (dayMs + 7 * intervalMs) intervalMs scopes results).check =
      .ok () := by
  unfold AuthorityGapAuditFields.check AuthorityGapAuditFields.checkDigests
  rw [refuse_bind_eq_ok]
  refine ⟨not_not.mpr ⟨isSha256Digest_canonicalDigest _, ?_, ?_⟩, ?_⟩
  · rintro _ ⟨⟩
    exact isSha256Digest_canonicalDigest _
  · rintro _ ⟨⟩
    exact isSha256Digest_canonicalDigest _
  · rfl

theorem duplicate_scope_accepted : ∃ completed,
    completeAuthorityGapAudit sampleAudit (dayMs + 7 * intervalMs) [sampleScope, sampleScope]
      sampleResults = .ok completed ∧
      ¬ SoundCompletion sampleAudit (dayMs + 7 * intervalMs) [sampleScope, sampleScope]
        sampleResults completed := by
  refine ⟨⟨_, sampleAudit_completed _ _⟩, completeAuthorityGapAudit_eq_ok.mpr ⟨rfl,
    List.cons_ne_nil _ _, ?_, ?_, intervalMs, rfl, rfl⟩, fun sound => ?_⟩
  · have scopesSorted : sortBy AuthorityGapScope.key [sampleScope, sampleScope] =
        [sampleScope, sampleScope] := sortBy_eq_self (List.pairwise_pair.mpr le_rfl)
    have resultsSorted : sortBy (fun result => AuthorityGapScope.key result.scope) sampleResults =
        sampleResults := sortBy_eq_self (List.pairwise_pair.mpr le_rfl)
    rw [scopesSorted, resultsSorted]
    rfl
  · intro result member trigger isTrigger
    rcases List.mem_cons.mp member with rfl | member
    · cases isTrigger
    · obtain rfl := List.mem_singleton.mp member
      obtain rfl := Option.some.inj isTrigger
      decide
  · exact (List.nodup_cons.mp sound.distinct).1 List.mem_cons_self

theorem gap_audit_completion_sound_iff_of_sample : ∃ completed,
    completeAuthorityGapAudit sampleAudit (dayMs + 7 * intervalMs) [sampleScope]
      (sampleResults.take 1) = .ok completed ∧
      SoundCompletion sampleAudit (dayMs + 7 * intervalMs) [sampleScope]
        (sampleResults.take 1) completed := by
  obtain ⟨completed, accepted⟩ : ∃ completed, completeAuthorityGapAudit sampleAudit
      (dayMs + 7 * intervalMs) [sampleScope] (sampleResults.take 1) = .ok completed := by
    refine ⟨⟨_, sampleAudit_completed _ _⟩, completeAuthorityGapAudit_eq_ok.mpr ⟨rfl,
      List.cons_ne_nil _ _, rfl, ?_, intervalMs, rfl, rfl⟩⟩
    intro result member trigger isTrigger
    obtain rfl := List.mem_singleton.mp member
    cases isTrigger
  exact ⟨completed, accepted,
    (gap_audit_completion_sound_iff accepted).mpr (List.nodup_singleton _)⟩

end TradingKernel.Authority
