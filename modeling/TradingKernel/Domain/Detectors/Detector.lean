/-
**Detector results.**

A detector reports a status, a reason and the facts it computed. `factSnapshot` and `computedResult`
build facts and results under the registered contract and refuse what the contract does not name. What
a reader of the result acts on is its `verdict`.
-/

import Mathlib.Data.List.Sort
import TradingKernel.Domain.Detectors.Registry
import TradingKernel.Domain.Recovery.Episode

namespace TradingKernel.Detectors

open Guard Windows
open Recovery (DetectorStatus)

/-! ### Facts -/

/-- A JSON value of a fact: a boolean, or the text of a decimal. -/
inductive FactValue where
  | boolean (value : Bool)
  | decimal (value : ℚ)
  deriving DecidableEq

/-- A fact without the proof that it is valid. -/
structure FactFields where
  factDefinitionId : String
  role : FactRole
  value : FactValue
  satisfied : Bool
  observedAtMs : ℤ
  validUntilMs : ℤ
  deriving DecidableEq

/-- `_validate_fact_window`. -/
def FactFields.check (fields : FactFields) : Except String Unit := do
  refuse (fields.observedAtMs ≤ 0 ∨ fields.validUntilMs ≤ fields.observedAtMs)
    "fact snapshot time and version must be positive"
  if fields.role.IsBoolean then
    match fields.value with
    | .boolean _ => pure ⟨⟩
    | .decimal _ => throw "condition and disable facts must be boolean"
  else
    match fields.value with
    | .boolean _ => throw "reference facts must be decimal"
    | .decimal value => refuse (value ≤ 0) "reference facts must be positive finite decimals"

structure SignalFactSnapshot extends FactFields where
  valid : toFactFields.check = .ok ()

/-- `fact_snapshot`. -/
def factSnapshot (contract : RegisteredStrategyContract) (snapshot : MarketSnapshot)
    (factName : String) (value : FactValue) (satisfied : Bool) (observedAtMs : Option ℤ)
    (validUntilMs : Option ℤ) : Except String SignalFactSnapshot := do
  let requirement ← demand (contract.facts.find? fun item => item.factName = factName)
    ("unregistered detector fact: " ++ factName)
  let observed := observedAtMs.getD snapshot.triggerCandleCloseTimeMs
  let validUntil := validUntilMs.getD (observed + requirement.freshnessMs)
  let fields : FactFields :=
    { factDefinitionId := requirement.factDefinitionId
      role := requirement.role
      value := value
      satisfied := satisfied
      observedAtMs := observed
      validUntilMs := validUntil }
  certify fields.check fun valid => ⟨fields, valid⟩

/-! ### Results -/

/-- A detector result without the proof that it is valid. -/
structure ResultFields where
  eventSpecId : String
  status : DetectorStatus
  occurredAtMs : Option ℤ
  reasonCode : String
  facts : List SignalFactSnapshot

/-- `_order_unique_facts` and `_validate_status_shape`. -/
def ResultFields.check (fields : ResultFields) : Except String Unit := do
  refuse (¬ (fields.facts.map (·.factDefinitionId)).Nodup) "detector facts must be unique"
  if fields.status = .triggered then
    refuse (∀ occurred ∈ fields.occurredAtMs, occurred ≤ 0)
      "triggered detector result requires occurrence time"
    refuse (fields.facts.isEmpty) "triggered detector result requires facts"
  else
    refuse (fields.occurredAtMs.isSome) "non-triggered detector result forbids occurrence time"
  refuse (fields.status = .invalid ∧ ¬ fields.facts.isEmpty)
    "invalid detector result cannot claim computed facts"

structure DetectorResult extends ResultFields where
  valid : toResultFields.check = .ok ()

/-- `DetectorResult(...)`; the facts are kept in the order of their definitions. -/
def detectorResult (eventSpecId : String) (status : DetectorStatus) (occurredAtMs : Option ℤ)
    (reasonCode : String) (facts : List SignalFactSnapshot) : Except String DetectorResult :=
  let fields : ResultFields :=
    { eventSpecId := eventSpecId
      status := status
      occurredAtMs := occurredAtMs
      reasonCode := reasonCode
      facts := facts.insertionSort fun first second =>
        first.factDefinitionId ≤ second.factDefinitionId }
  certify fields.check fun valid => ⟨fields, valid⟩

/-- `invalid_result`. -/
def invalidResult (contract : RegisteredStrategyContract) (reasonCode : String) :
    Except String DetectorResult :=
  detectorResult contract.eventSpecId .invalid none reasonCode []

/-- `computed_result`. -/
def computedResult (contract : RegisteredStrategyContract) (snapshot : MarketSnapshot)
    (triggered : Bool) (reasonCode : String) (facts : List SignalFactSnapshot) :
    Except String DetectorResult := do
  let expected : List String := contract.facts.map (·.factDefinitionId)
  let actual : List String := facts.map (·.factDefinitionId)
  refuse (triggered ∧ ¬ ((∀ id ∈ actual, id ∈ expected) ∧ ∀ id ∈ expected, id ∈ actual))
    "triggered detector facts differ from Registry contract"
  detectorResult contract.eventSpecId (if triggered then .triggered else .notTriggered)
    (if triggered then some snapshot.triggerCandleCloseTimeMs else none) reasonCode facts

/-- `validate_snapshot_scope`. -/
def validateSnapshotScope (contract : RegisteredStrategyContract) (snapshot : MarketSnapshot) :
    Option String :=
  match (snapshot.candles contract.timeframe).getLast? with
  | none => none
  | some last =>
      if last.closeTimeMs ≠ snapshot.triggerCandleCloseTimeMs then
        some "detector_invalid_trigger_time_mismatch"
      else none

/-- The rest of a detector, where the snapshot ends in the trigger candle of its timeframe. -/
def inScope (contract : RegisteredStrategyContract) (snapshot : MarketSnapshot)
    (rest : Except String DetectorResult) : Except String DetectorResult :=
  match validateSnapshotScope contract snapshot with
  | some scopeError => invalidResult contract scopeError
  | none => rest

/-- The value of the protection reference among the facts. -/
def DetectorResult.protectionReference (result : DetectorResult) : Option FactValue :=
  (result.facts.find? fun item => item.role = .protectionReference).map (·.value)

/-- What a detector result decides: status, reason, occurrence time and protection reference. -/
structure Verdict where
  status : DetectorStatus
  reasonCode : String
  occurredAtMs : Option ℤ
  protectionReference : Option FactValue
  deriving DecidableEq

def DetectorResult.verdict (result : DetectorResult) : Verdict where
  status := result.status
  reasonCode := result.reasonCode
  occurredAtMs := result.occurredAtMs
  protectionReference := result.protectionReference

/-! ### Readings of candles -/

/-- The operations of the decimal context of the detectors, each with its rounding. -/
structure Arithmetic where
  add : ℚ → ℚ → ℚ
  sub : ℚ → ℚ → ℚ
  mul : ℚ → ℚ → ℚ
  div : ℚ → ℚ → ℚ
  abs : ℚ → ℚ

/-- `sum(values, Decimal(0))`. -/
def Arithmetic.sum (arithmetic : Arithmetic) (values : List ℚ) : ℚ := values.foldl arithmetic.add 0

/-- `_pct`. -/
def Arithmetic.pct (arithmetic : Arithmetic) (numerator denominator : ℚ) : ℚ :=
  if denominator = 0 then 0 else arithmetic.mul (arithmetic.div numerator denominator) 100

/-- `candles[-k]`. -/
def candleFromEnd (candles : List ClosedCandle) (k : ℕ) : Except String ClosedCandle :=
  demand (fromEnd? candles k) "tuple index out of range"

/-- `candles[0]`. -/
def firstCandle (candles : List ClosedCandle) : Except String ClosedCandle :=
  demand candles.head? "tuple index out of range"

/-- The highest high of the candles. -/
def highestHigh (candles : List ClosedCandle) : Except String ℚ :=
  demand (candles.map (·.high)).max? "max() iterable argument is empty"

/-- The lowest low of the candles. -/
def lowestLow (candles : List ClosedCandle) : Except String ℚ :=
  demand (candles.map (·.low)).min? "min() iterable argument is empty"

/-! ### What the builders return -/

section Builders

variable {contract : RegisteredStrategyContract} {snapshot : MarketSnapshot}
  {result : DetectorResult}

theorem detectorResult_eq_ok {eventSpecId reasonCode : String} {status : DetectorStatus}
    {occurredAtMs : Option ℤ} {facts : List SignalFactSnapshot}
    (h : detectorResult eventSpecId status occurredAtMs reasonCode facts = .ok result) :
    result.status = status ∧ result.reasonCode = reasonCode := by
  unfold detectorResult at h
  obtain ⟨valid, rfl⟩ := certify_eq_ok.1 h
  exact ⟨rfl, rfl⟩

theorem computedResult_reason {triggered : Bool} {reasonCode : String}
    {facts : List SignalFactSnapshot}
    (h : computedResult contract snapshot triggered reasonCode facts = .ok result) :
    result.reasonCode = reasonCode := by
  unfold computedResult at h
  dsimp only at h
  rw [refuse_bind_eq_ok] at h
  exact (detectorResult_eq_ok h.2).2

theorem invalidResult_reason {reasonCode : String}
    (h : invalidResult contract reasonCode = .ok result) : result.reasonCode = reasonCode :=
  (detectorResult_eq_ok h).2

/-- An invalid result is always returned. -/
theorem exists_invalidResult (contract : RegisteredStrategyContract) (reasonCode : String) :
    ∃ result, invalidResult contract reasonCode = .ok result ∧ result.status = .invalid := by
  refine ⟨⟨⟨contract.eventSpecId, .invalid, none, reasonCode, []⟩, by rfl⟩, ?_, rfl⟩
  unfold invalidResult detectorResult
  rw [certify_eq_ok]
  exact ⟨by rfl, rfl⟩

/-- A fact that is registered and valid is returned, with its role and its value. -/
theorem exists_fact (contract : RegisteredStrategyContract) (snapshot : MarketSnapshot)
    {requirement : RegisteredFactRequirement} {factName : String} {value : FactValue}
    (satisfied : Bool)
    (registered : contract.facts.find? (fun item => item.factName = factName) = some requirement)
    (fresh : 0 < requirement.freshnessMs)
    (fits : (requirement.role.IsBoolean ∧ ∃ b, value = .boolean b) ∨
      (¬ requirement.role.IsBoolean ∧ ∃ q, value = .decimal q ∧ 0 < q)) :
    ∃ result, factSnapshot contract snapshot factName value satisfied none none = .ok result ∧
      result.factDefinitionId = requirement.factDefinitionId ∧ result.role = requirement.role ∧
      result.value = value := by
  have valid : (FactFields.mk requirement.factDefinitionId requirement.role value satisfied
      snapshot.triggerCandleCloseTimeMs
      (snapshot.triggerCandleCloseTimeMs + requirement.freshnessMs)).check = .ok () := by
    unfold FactFields.check
    rw [refuse_bind_eq_ok]
    have positive := snapshot.trigger_pos
    refine ⟨by dsimp only; omega, ?_⟩
    rcases fits with ⟨role, b, rfl⟩ | ⟨role, q, rfl, decimal⟩
    · rw [if_pos role]
      rfl
    · rw [if_neg role]
      exact refuse_eq_ok.2 (not_le.2 decimal)
  refine ⟨⟨_, valid⟩, ?_, rfl, rfl, rfl⟩
  unfold factSnapshot
  rw [demand_bind_eq_ok]
  exact ⟨requirement, registered, certify_eq_ok.2 ⟨valid, rfl⟩⟩

theorem exists_factSnapshot (contract : RegisteredStrategyContract) (snapshot : MarketSnapshot)
    {requirement : RegisteredFactRequirement} {factName : String} {value : FactValue}
    (satisfied : Bool)
    (registered : contract.facts.find? (fun item => item.factName = factName) = some requirement)
    (fresh : 0 < requirement.freshnessMs)
    (fits : (requirement.role.IsBoolean ∧ ∃ b, value = .boolean b) ∨
      (¬ requirement.role.IsBoolean ∧ ∃ q, value = .decimal q ∧ 0 < q)) :
    ∃ result, factSnapshot contract snapshot factName value satisfied none none = .ok result ∧
      result.factDefinitionId = requirement.factDefinitionId := by
  obtain ⟨result, returned, sameId, -⟩ :=
    exists_fact contract snapshot satisfied registered fresh fits
  exact ⟨result, returned, sameId⟩

/-- A result is returned where its facts are those of the contract. -/
theorem exists_result (snapshot : MarketSnapshot) (triggered : Bool) (reasonCode : String)
    {facts : List SignalFactSnapshot} (nonempty : facts ≠ [])
    (distinct : (facts.map (·.factDefinitionId)).Nodup)
    (same : (facts.map (·.factDefinitionId)).Perm (contract.facts.map (·.factDefinitionId))) :
    ∃ result, computedResult contract snapshot triggered reasonCode facts = .ok result ∧
      result.eventSpecId = contract.eventSpecId ∧
      result.status = (if triggered then .triggered else .notTriggered) ∧
      result.facts.Perm facts := by
  have perm := List.perm_insertionSort (fun first second : SignalFactSnapshot =>
    first.factDefinitionId ≤ second.factDefinitionId) facts
  have sorted := (perm.map (·.factDefinitionId)).nodup_iff.2 distinct
  have valid : (ResultFields.mk contract.eventSpecId
      (if triggered then .triggered else .notTriggered)
      (if triggered then some snapshot.triggerCandleCloseTimeMs else none) reasonCode
      (facts.insertionSort fun first second =>
        first.factDefinitionId ≤ second.factDefinitionId)).check = .ok () := by
    unfold ResultFields.check
    rw [refuse_bind_eq_ok]
    refine ⟨not_not.2 sorted, ?_⟩
    cases triggered with
    | false => rfl
    | true =>
        have listed : (facts.insertionSort fun first second : SignalFactSnapshot =>
            first.factDefinitionId ≤ second.factDefinitionId).isEmpty = false := by
          rw [List.isEmpty_eq_false_iff]
          intro empty
          rw [empty] at perm
          exact nonempty perm.symm.eq_nil
        have positive := snapshot.trigger_pos
        simp [refuse_bind_eq_ok, refuse_eq_ok, listed, positive]
  refine ⟨⟨_, valid⟩, ?_, rfl, rfl, perm⟩
  unfold computedResult
  dsimp only
  rw [refuse_bind_eq_ok]
  refine ⟨fun differs => differs.2 ⟨fun id member => same.mem_iff.1 member,
    fun id member => same.mem_iff.2 member⟩, certify_eq_ok.2 ⟨valid, rfl⟩⟩

/-- A result that is not triggered is returned where its facts are distinct. -/
theorem exists_computedResult {reasonCode : String} {facts : List SignalFactSnapshot}
    (distinct : (facts.map (·.factDefinitionId)).Nodup) :
    ∃ result, computedResult contract snapshot false reasonCode facts = .ok result ∧
      result.reasonCode = reasonCode := by
  have sorted : ((facts.insertionSort fun first second =>
      first.factDefinitionId ≤ second.factDefinitionId).map (·.factDefinitionId)).Nodup :=
    ((List.perm_insertionSort _ _).map _).nodup_iff.2 distinct
  have valid : (ResultFields.mk contract.eventSpecId .notTriggered none reasonCode
      (facts.insertionSort fun first second =>
        first.factDefinitionId ≤ second.factDefinitionId)).check = .ok () := by
    unfold ResultFields.check
    rw [refuse_bind_eq_ok]
    exact ⟨not_not.2 sorted, rfl⟩
  refine ⟨⟨_, valid⟩, ?_, rfl⟩
  unfold computedResult
  dsimp only
  rw [refuse_bind_eq_ok]
  exact ⟨by simp, certify_eq_ok.2 ⟨valid, rfl⟩⟩

end Builders

/-- An evaluation that does not report its input as invalid. -/
def NotInvalid (outcome : Except String DetectorResult) : Prop :=
  ∀ result, outcome = .ok result → result.status ≠ .invalid

theorem not_notInvalid_invalidResult (contract : RegisteredStrategyContract) (reasonCode : String) :
    ¬ NotInvalid (invalidResult contract reasonCode) := by
  intro h
  obtain ⟨result, returned, invalid⟩ := exists_invalidResult contract reasonCode
  exact h result returned invalid

section NotInvalid

variable {contract : RegisteredStrategyContract} {snapshot : MarketSnapshot}
  {rest : Except String DetectorResult}

/-- What is left of a detector that has passed a check. -/
theorem notInvalid_ite {bad : Prop} [Decidable bad] {reasonCode : String}
    (h : NotInvalid (if bad then invalidResult contract reasonCode else rest)) :
    ¬ bad ∧ NotInvalid rest := by
  by_cases holds : bad
  · rw [if_pos holds] at h
    exact absurd h (not_notInvalid_invalidResult _ _)
  · rw [if_neg holds] at h
    exact ⟨holds, h⟩

theorem notInvalid_inScope (h : NotInvalid (inScope contract snapshot rest)) :
    validateSnapshotScope contract snapshot = none ∧ NotInvalid rest := by
  unfold inScope at h
  cases scope : validateSnapshotScope contract snapshot with
  | some error =>
      rw [scope] at h
      exact absurd h (not_notInvalid_invalidResult _ _)
  | none =>
      rw [scope] at h
      exact ⟨rfl, h⟩

theorem inScope_of_none (h : validateSnapshotScope contract snapshot = none) :
    inScope contract snapshot rest = rest := by
  unfold inScope
  rw [h]

end NotInvalid

/-! ### Snapshots of one moment -/

section OneMoment

variable {contract : RegisteredStrategyContract} {shorter longer : MarketSnapshot}

theorem factSnapshot_of_olderHistory (h : OlderHistory shorter longer) :
    factSnapshot contract longer = factSnapshot contract shorter := by
  funext factName value satisfied observedAtMs validUntilMs
  unfold factSnapshot
  rw [h.trigger]

theorem computedResult_of_olderHistory (h : OlderHistory shorter longer) :
    computedResult contract longer = computedResult contract shorter := by
  funext triggered reasonCode facts
  unfold computedResult
  rw [h.trigger]

end OneMoment

end TradingKernel.Detectors
