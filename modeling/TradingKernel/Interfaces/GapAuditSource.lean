/-
**`PublicMarketAuthorityGapAuditSource`: replaying a session that had no authority.**

For each scope the source replays the closes of a session, each on the candles up to it, up to the first
that triggers; the result names that close where it is not before the gap. A replayed close triggers or
not as the detector judges it, and an invalid one is an error (`replayTriggers_eq_ok`).
-/

import TradingKernel.Application.LoadMarket
import TradingKernel.Application.ProduceSignal
import TradingKernel.Domain.Selection.GapAudit
import TradingKernel.Lib.Scan

namespace TradingKernel.Observation

open Authority Detectors Guard Scan SortBy Text Windows

/-! ### The source -/

/-- What the source raises: the two errors of its own, and those of what it calls. -/
inductive GapAuditSourceError where
  | sourceIntegrity (message : String)
  | detectorDrift (message : String)
  | raised (message : String)

/-- `daily_event_spec_ids`. -/
def dailyEventSpecIds (selectionSpecId : String) : Except GapAuditSourceError (List String) :=
  if selectionSpecId = orbSelectionSpecId then
    .ok ["event_spec:SOR-1H-001:SOR-1H-LONG:v1", "event_spec:SOR-1H-001:SOR-1H-SHORT:v1"]
  else if selectionSpecId = "sor-dynamic-selection-v0" then
    .ok ["event_spec:SOR-001:SOR-LONG:v4", "event_spec:SOR-001:SOR-SHORT:v4"]
  else .error (.raised "daily ORB requires an exact installed Selection identity")

/-- `strategy_contract_for`. -/
def strategyContractFor (eventSpecId : NonBlankText) :
    Except GapAuditSourceError RegisteredStrategyContract :=
  match registeredStrategyContracts.filter (·.eventSpecId = eventSpecId.text) with
  | [contract] => .ok contract
  | _ => .error (.raised "registered Event must resolve exactly one contract")

/-- The interval of the closes of a selection. -/
def entryInterval (selectionSpecId : String) : Except GapAuditSourceError ℤ :=
  (dailyEntryIntervalMs selectionSpecId).mapError fun error => .raised error.message

/-- `_validate_session_path`. -/
def validateSessionPath (candles : List ClosedCandle) (sessionStartMs expectedBars intervalMs : ℤ) :
    Except GapAuditSourceError Unit :=
  refuse ((candles.length : ℤ) ≠ expectedBars ∨ ¬ InSequence sessionStartMs intervalMs candles)
    (.sourceIntegrity ("Authority Gap Audit requires a complete canonical " ++
      (if intervalMs = Authority.intervalMs then "15m" else "1h") ++ " path"))

section Scope

variable (arithmetic : Arithmetic)

/-- The snapshot of a close: the candles of the session up to it. -/
def replaySnapshot (scope : AuthorityGapScope) (hourly : Bool) (candles : List ClosedCandle)
    (closeMs : ℤ) (barCount : ℕ) : Except String MarketSnapshot :=
  marketSnapshot scope.exchangeInstrumentId closeMs (if hourly then [] else candles.take barCount)
    (if hourly then candles.take barCount else []) [] none none

/-- Whether a close triggers. -/
def replayTriggers (contract : RegisteredStrategyContract) (scope : AuthorityGapScope) (hourly : Bool)
    (candles : List ClosedCandle) (sessionStartMs interval : ℤ) (barCount : ℕ) :
    Except GapAuditSourceError Bool := do
  let snapshot ← (replaySnapshot scope hourly candles (sessionStartMs + barCount * interval)
    barCount).mapError .raised
  let result ← (evaluate arithmetic contract.eventSpecId snapshot).mapError .raised
  refuse (result.status = .invalid)
    (.detectorDrift "Authority Gap Audit detector rejected canonical input")
  return decide (result.status = .triggered)

/-- `AuthorityGapScopeResult(...)`. -/
def scopeResult (scope : AuthorityGapScope) (sessionReference : String)
    (firstNaturalTriggerAtMs : Option ℤ) : Except GapAuditSourceError AuthorityGapScopeResult := do
  let reference ← demand (NonBlankText.ofText? sessionReference)
    (.raised "Authority Gap Audit result requires session reference")
  if positive : ∀ trigger ∈ firstNaturalTriggerAtMs, 0 < trigger then
    return ⟨scope, reference, firstNaturalTriggerAtMs, positive⟩
  else throw (.raised "Authority Gap Audit trigger time must be positive")

/-- `_evaluate_scope`. -/
def evaluateScope (scope : AuthorityGapScope) (candles : List ClosedCandle)
    (sessionStartMs unauthorizedFromCloseTimeMs : ℤ) (selectionSpecId : String) :
    Except GapAuditSourceError AuthorityGapScopeResult := do
  let contract ← strategyContractFor scope.eventSpecId
  let interval ← entryInterval selectionSpecId
  let hourly := decide (selectionSpecId = orbSelectionSpecId)
  let first := (dailyFirstOffsetMs interval / interval).toNat
  let found ← firstHit (replayTriggers arithmetic contract scope hourly candles sessionStartMs interval)
    (List.range' first (candles.length + 1 - first))
  let trigger := (found.map fun barCount : ℕ => sessionStartMs + barCount * interval).filter
    fun closeMs => unauthorizedFromCloseTimeMs ≤ closeMs
  scopeResult scope (toString sessionStartMs) trigger

/-- The number of closes that an audit replays, where its window is a bounded session. -/
def expectedBars (audit : AuthorityGapAudit) (interval auditedThroughCloseTimeMs : ℤ) :
    Except GapAuditSourceError ℤ := do
  let bars := (auditedThroughCloseTimeMs - audit.sessionStartMs) / interval
  refuse (auditedThroughCloseTimeMs % interval ≠ 0 ∨
      ¬ ((if audit.Hourly then 1 else 5) ≤ bars ∧ bars ≤ (if audit.Hourly then 23 else 96)) ∨
      (auditedThroughCloseTimeMs < audit.unauthorizedFromCloseTimeMs ∧
        ¬ (audit.Hourly ∧ bars = 1 ∧
          audit.unauthorizedFromCloseTimeMs = audit.sessionStartMs + 2 * interval)))
    (.sourceIntegrity "Authority Gap Audit window is not a bounded SOR session")
  return bars

/-- The scopes of one instrument, on one path. -/
def evaluateInstrument (market : Market) (audit : AuthorityGapAudit)
    (interval auditedThroughCloseTimeMs bars : ℤ) (scopes : List AuthorityGapScope)
    (exchangeInstrumentId : String) : Except GapAuditSourceError (List AuthorityGapScopeResult) := do
  let timeframe := if audit.Hourly then Timeframe.oneHour else .fifteenMinutes
  let candles := (sessionCandles (market exchangeInstrumentId timeframe) audit.sessionStartMs
    auditedThroughCloseTimeMs).rtake bars.toNat
  validateSessionPath candles audit.sessionStartMs bars interval
  (scopes.filter (·.exchangeInstrumentId.text = exchangeInstrumentId)).mapM fun scope =>
    evaluateScope arithmetic scope candles audit.sessionStartMs audit.unauthorizedFromCloseTimeMs
      audit.selectionSpecId

/-- `evaluate_authority_gap`. -/
def evaluateAuthorityGap (market : Market) (audit : AuthorityGapAudit)
    (requested : List AuthorityGapScope) (auditedThroughCloseTimeMs : ℤ) :
    Except GapAuditSourceError (List AuthorityGapScopeResult) := do
  let scopes := sortBy AuthorityGapScope.key requested
  refuse (scopes = [] ∨ 40 < scopes.length)
    (.sourceIntegrity "Authority Gap Audit scope count is outside bounds")
  refuse (¬ scopes.Nodup) (.sourceIntegrity "Authority Gap Audit scopes must be exact and unique")
  let events ← dailyEventSpecIds audit.selectionSpecId
  let interval ← entryInterval audit.selectionSpecId
  refuse (∃ scope ∈ scopes, scope.eventSpecId.text ∉ events)
    (.sourceIntegrity "Authority Gap Audit scopes must match the exact Selection identity")
  let bars ← expectedBars audit interval auditedThroughCloseTimeMs
  let instruments := sortBy id (scopes.map (·.exchangeInstrumentId.text)).dedup
  let groups ← instruments.mapM
    (evaluateInstrument arithmetic market audit interval auditedThroughCloseTimeMs bars scopes)
  return sortBy (fun result => AuthorityGapScope.key result.scope) groups.flatten

end Scope

/-! ### One close -/

section Close

variable (arithmetic : Arithmetic)

/-- Live observation of an event at a close. -/
def observe (market : Market) (contract : RegisteredStrategyContract) (scope : RuntimeScopeSnapshot)
    (universeMemberIds : List String)
    (projection : Option Comparative.ComparativeUniverseProjection)
    (productSession : Option ProductSessionSnapshot) (closeMs : ℤ) : Except String DetectorResult := do
  let snapshot ← loadMarketSnapshot market contract scope closeMs universeMemberIds projection
    productSession
  evaluate arithmetic contract.eventSpecId snapshot

/-- A close of the session, replayed. -/
def replay (contract : RegisteredStrategyContract) (scope : AuthorityGapScope) (hourly : Bool)
    (candles : List ClosedCandle) (closeMs : ℤ) (barCount : ℕ) : Except String DetectorResult := do
  let snapshot ← replaySnapshot scope hourly candles closeMs barCount
  evaluate arithmetic contract.eventSpecId snapshot

variable {contract : RegisteredStrategyContract} {scope : AuthorityGapScope} {hourly : Bool}
  {candles : List ClosedCandle} {startMs interval closeMs : ℤ} {k : ℕ} {outcome : Except String DetectorResult}

/-- A close that is judged valid, by whether it triggers. -/
theorem replayTriggers_eq_ok {triggers : Bool} :
    replayTriggers arithmetic contract scope hourly candles startMs interval k = .ok triggers ↔
      ∃ result, replay arithmetic contract scope hourly candles (startMs + k * interval) k =
          .ok result ∧ result.status ≠ .invalid ∧ triggers = decide (result.status = .triggered) := by
  unfold replayTriggers replay
  simp only [bind_eq_ok, mapError_eq_ok, refuse_eq_ok, pure_eq_ok]
  constructor
  · rintro ⟨snapshot, taken, result, judged, -, valid, rfl⟩
    exact ⟨result, ⟨snapshot, taken, judged⟩, valid, rfl⟩
  · rintro ⟨result, ⟨snapshot, taken, judged⟩, valid, rfl⟩
    exact ⟨snapshot, taken, result, judged, ⟨⟩, valid, rfl⟩

end Close

end TradingKernel.Observation
