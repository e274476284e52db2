/-
**What the daily session detectors return on the candles of a session.**

On a complete session the SOR detector always returns, and never calls its input invalid; the hourly one
does so exactly where the first hour has no range (`sorEvaluate_of_session`, `sor1hEvaluate_of_session`).
Both name the start of the session as the one identity reference of what they found.
-/

import TradingKernel.Domain.Detectors.WindowIndependence

namespace TradingKernel.Detectors

open Guard Windows
open Recovery (DetectorStatus)

/-! ### The candles of a session, up to a close -/

section Sequence

variable {startMs stepMs : ℤ} {candles : List ClosedCandle} {k : ℕ}

/-- The candles closed at a step of a sequence are the first ones. -/
theorem InSequence.filter_closed (sequence : InSequence startMs stepMs candles)
    (positive : 0 < stepMs) (k : ℕ) :
    candles.filter (fun candle => candle.closeTimeMs ≤ startMs + k * stepMs) = candles.take k := by
  have inside {i : ℕ} {candle : ClosedCandle} (there : candles[i]? = some candle) :
      candle.closeTimeMs ≤ startMs + k * stepMs ↔ i < k := by
    rw [(sequence (candle, i) (List.mem_zipIdx_iff_getElem?.mpr there)).2, add_le_add_iff_left,
      mul_le_mul_iff_left₀ positive]
    omega
  conv_lhs => rw [← List.take_append_drop k candles, List.filter_append]
  rw [List.filter_eq_self.mpr, List.filter_eq_nil_iff.mpr, List.append_nil]
  · intro candle member
    obtain ⟨i, there⟩ := List.mem_iff_getElem?.mp member
    rw [List.getElem?_drop] at there
    rw [decide_eq_true_eq, inside there]
    omega
  · intro candle member
    obtain ⟨i, there⟩ := List.mem_iff_getElem?.mp member
    rw [List.getElem?_take] at there
    split_ifs at there with before
    exact decide_eq_true ((inside there).mpr before)

theorem InSequence.take (sequence : InSequence startMs stepMs candles) (k : ℕ) :
    InSequence startMs stepMs (candles.take k) := by
  rintro ⟨candle, i⟩ member
  refine sequence (candle, i) ?_
  rw [List.mem_zipIdx_iff_getElem?] at member ⊢
  rw [List.getElem?_take] at member
  split_ifs at member
  exact member

/-- A sequence is in the order of its opening. -/
theorem InSequence.ordered (sequence : InSequence startMs stepMs candles) (positive : 0 < stepMs) :
    candles.Pairwise fun earlier later => earlier.openTimeMs < later.openTimeMs := by
  rw [List.pairwise_iff_getElem]
  intro i j inI inJ before
  rw [(sequence (candles[i], i) (List.mem_zipIdx_iff_getElem?.mpr (List.getElem?_eq_getElem inI))).1,
    (sequence (candles[j], j) (List.mem_zipIdx_iff_getElem?.mpr (List.getElem?_eq_getElem inJ))).1]
  have : (i : ℤ) * stepMs < j * stepMs :=
    mul_lt_mul_of_pos_right (by exact_mod_cast before) positive
  exact add_lt_add_right this startMs

/-- The candle at a step of a sequence closes there. -/
theorem InSequence.last_closes (sequence : InSequence startMs stepMs candles) (positive : 0 < k)
    (within : k ≤ candles.length) :
    (candles.take k).getLast?.map (·.closeTimeMs) = some (startMs + k * stepMs) := by
  have inside : k - 1 < candles.length := by omega
  have there : candles[k - 1]? = some candles[k - 1] := List.getElem?_eq_getElem inside
  have closes := (sequence (candles[k - 1], k - 1) (List.mem_zipIdx_iff_getElem?.mpr there)).2
  rw [List.getLast?_take, if_neg positive.ne', there, Option.some_or, Option.map_some, closes]
  congr 2
  push_cast [Nat.cast_pred positive]
  ring

end Sequence

/-! ### Facts of a contract -/

/-- The values of the identity references among the facts. -/
def DetectorResult.identityReferences (result : DetectorResult) : List FactValue :=
  (result.facts.filter fun item => item.role = .identityReference).map (·.value)

/-- The references of a result whose facts hold one identity reference. -/
theorem identityReferences_of_perm {result : DetectorResult} (front back : List SignalFactSnapshot)
    {reference : SignalFactSnapshot} (facts : result.facts.Perm (front ++ reference :: back))
    (isReference : reference.role = .identityReference)
    (others : ∀ item ∈ front ++ back, item.role ≠ .identityReference) :
    result.identityReferences = [reference.value] := by
  have noneOf {items : List SignalFactSnapshot} (inside : ∀ item ∈ items, item ∈ front ++ back) :
      (items.filter fun item => item.role = .identityReference) = [] := by
    rw [List.filter_eq_nil_iff]
    intro item member
    simpa using others item (inside item member)
  have found := facts.filter fun item => item.role = .identityReference
  rw [List.filter_append, noneOf fun item member => List.mem_append_left _ member,
    List.filter_cons_of_pos (by simpa using isReference),
    noneOf fun item member => List.mem_append_right _ member, List.nil_append,
    List.perm_singleton] at found
  unfold DetectorResult.identityReferences
  rw [found, List.map_singleton]

/-- A detector judged: a result of the event that calls its input valid, and names one reference. -/
def Judged (contract : RegisteredStrategyContract) (outcome : Except String DetectorResult)
    (triggered : Bool) (startMs : ℤ) : Prop :=
  ∃ result, outcome = .ok result ∧ result.eventSpecId = contract.eventSpecId ∧
    result.status = (if triggered then .triggered else .notTriggered) ∧
    result.identityReferences = [.decimal startMs]

section Facts

variable {contract : RegisteredStrategyContract} {factName : String} {role : FactRole}
  {freshnessMs : ℤ} {version : ℕ}

/-- A registered condition is returned. -/
theorem exists_condition (snapshot : MarketSnapshot) (holds satisfied : Bool)
    (registered : contract.facts.find? (fun item => item.factName = factName) =
      some (fact factName .condition freshnessMs version)) (fresh : 0 < freshnessMs) :
    ∃ result, factSnapshot contract snapshot factName (.boolean holds) satisfied none none =
        .ok result ∧
      result.factDefinitionId = (fact factName .condition freshnessMs version).factDefinitionId ∧
      result.role ≠ .identityReference := by
  obtain ⟨result, returned, sameId, sameRole, -⟩ := exists_fact contract snapshot satisfied registered
    fresh (.inl ⟨Or.inl rfl, holds, rfl⟩)
  refine ⟨result, returned, sameId, ?_⟩
  rw [sameRole]
  exact FactRole.noConfusion

/-- A registered reference to a positive value is returned. -/
theorem exists_reference (snapshot : MarketSnapshot) (satisfied : Bool)
    (registered : contract.facts.find? (fun item => item.factName = factName) =
      some (fact factName role freshnessMs version)) (isReference : ¬ role.IsBoolean)
    (fresh : 0 < freshnessMs) {value : ℚ} (positive : 0 < value) :
    ∃ result, factSnapshot contract snapshot factName (.decimal value) satisfied none none =
        .ok result ∧
      result.factDefinitionId = (fact factName role freshnessMs version).factDefinitionId ∧
      result.role = role ∧ result.value = .decimal value :=
  exists_fact contract snapshot satisfied registered fresh
    (.inr ⟨isReference, value, rfl, positive⟩)

end Facts

/-! ### SOR -/

section SOR

variable {contract : RegisteredStrategyContract} {snapshot : MarketSnapshot} {startMs : ℤ}
  {candles : List ClosedCandle}

/-- The facts of the two contracts, under the names that the detector gives them. -/
theorem sor_registered (sor : contract = sorLong ∨ contract = sorShort) :
    let registers (factName : String) (role : FactRole) : Prop :=
      contract.facts.find? (fun item => item.factName = factName) =
        some (fact factName role 900000 3)
    registers "opening_range_defined_v3" .condition ∧
      registers (if decide (contract.eventId = .sorLong) then "breakout_edge_crossed_v3"
        else "breakdown_edge_crossed_v3") .condition ∧
      registers (if decide (contract.eventId = .sorLong) then "opening_range_high_reference_v3"
        else "opening_range_low_reference_v3") .lifecycleReference ∧
      registers (if decide (contract.eventId = .sorLong) then "opening_range_low_reference_v3"
        else "opening_range_high_reference_v3") .protectionReference ∧
      registers "session_start_ms_v3" .identityReference ∧
      registers "session_end_ms_v3" .lifecycleReference := by
  rcases sor with rfl | rfl
  · exact ⟨rfl, rfl, rfl, rfl, rfl, rfl⟩
  · exact ⟨rfl, rfl, rfl, rfl, rfl, rfl⟩

/-- The facts of a verdict, by their definitions. -/
def sorFactIds (contract : RegisteredStrategyContract) : List String :=
  let long := decide (contract.eventId = .sorLong)
  [fact "opening_range_defined_v3" .condition 900000 3,
    fact (if long then "breakout_edge_crossed_v3" else "breakdown_edge_crossed_v3") .condition
      900000 3,
    fact (if long then "opening_range_high_reference_v3" else "opening_range_low_reference_v3")
      .lifecycleReference 900000 3,
    fact (if long then "opening_range_low_reference_v3" else "opening_range_high_reference_v3")
      .protectionReference 900000 3,
    fact "session_start_ms_v3" .identityReference 900000 3,
    fact "session_end_ms_v3" .lifecycleReference 900000 3].map (·.factDefinitionId)

/-- They are those of the contract. -/
theorem sorFactIds_perm (sor : contract = sorLong ∨ contract = sorShort) :
    (sorFactIds contract).Nodup ∧
      (sorFactIds contract).Perm (contract.facts.map (·.factDefinitionId)) := by
  rcases sor with rfl | rfl
  · exact ⟨by decide, by decide⟩
  · exact ⟨by decide, by decide⟩

/-- The verdict always comes, and it is never that the input is invalid. -/
theorem judged_sorVerdict (sor : contract = sorLong ∨ contract = sorShort) (snapshot : MarketSnapshot)
    (positive : 0 < startMs) (enough : 2 ≤ candles.length) :
    ∃ triggered, Judged contract (sorVerdict contract snapshot startMs candles) triggered startMs := by
  have opening : candles.take 4 ≠ [] := by
    apply List.ne_nil_of_length_pos
    rw [List.length_take]
    omega
  obtain ⟨latest, isLatest⟩ := exists_candleFromEnd one_pos (show 1 ≤ candles.length by omega)
  obtain ⟨previous, isPrevious⟩ := exists_candleFromEnd two_pos enough
  obtain ⟨high, isHigh, highPos⟩ := exists_highestHigh opening
  obtain ⟨low, isLow, lowPos⟩ := exists_lowestLow opening
  obtain ⟨rangeFact, edgeFact, lifecycleFact, protectionFact, startFact, endFact⟩ :=
    sor_registered sor
  have reference (choice : Bool) : 0 < (if choice then low else high) := by
    cases choice with
    | true => exact lowPos
    | false => exact highPos
  have lifecyclePos : 0 < (if contract.positionSide = .long then high else low) := by
    split_ifs
    · exact highPos
    · exact lowPos
  have startPos : (0 : ℚ) < startMs := by exact_mod_cast positive
  have endPos : (0 : ℚ) < startMs + dayMs := add_pos startPos (by decide)
  unfold sorVerdict
  simp only [isLatest, isPrevious, isHigh, isLow, bind, Except.bind]
  generalize crossed : (if decide (contract.eventId = .sorLong) = true then
    decide (previous.close ≤ high ∧ high < latest.close)
    else decide (low ≤ previous.close ∧ latest.close < low)) = triggered
  obtain ⟨range, isRange, rangeId, rangeRole⟩ :=
    exists_condition snapshot true true rangeFact (by decide)
  obtain ⟨edge, isEdge, edgeId, edgeRole⟩ :=
    exists_condition snapshot triggered triggered edgeFact (by decide)
  obtain ⟨lifecycle, isLifecycle, lifecycleId, lifecycleRole, -⟩ :=
    exists_reference snapshot true lifecycleFact (by decide) (by decide) lifecyclePos
  obtain ⟨protection, isProtection, protectionId, protectionRole, -⟩ :=
    exists_reference snapshot true protectionFact (by decide) (by decide) (reference _)
  obtain ⟨start, isStart, startId, startRole, startValue⟩ :=
    exists_reference snapshot true startFact (by decide) (by decide) startPos
  obtain ⟨finish, isFinish, finishId, finishRole, -⟩ :=
    exists_reference snapshot true endFact (by decide) (by decide) endPos
  have ids : [range, edge, lifecycle, protection, start, finish].map (·.factDefinitionId) =
      sorFactIds contract := by
    simp only [sorFactIds, List.map_cons, List.map_nil, rangeId, edgeId, lifecycleId, protectionId,
      startId, finishId]
  obtain ⟨result, returned, event, status, facts⟩ := exists_result snapshot triggered
    (if triggered = true then
      if decide (contract.eventId = .sorLong) = true then "sor_opening_range_breakout"
      else "sor_opening_range_breakdown"
    else "sor_no_action_opening_range_intact")
    (List.cons_ne_nil range [edge, lifecycle, protection, start, finish])
    (ids ▸ (sorFactIds_perm sor).1) (ids ▸ (sorFactIds_perm sor).2)
  refine ⟨triggered, result, ?_, event, status, ?_⟩
  · rw [isRange]
    dsimp only
    rw [isEdge]
    dsimp only
    rw [isLifecycle]
    dsimp only
    rw [isProtection]
    dsimp only
    rw [isStart]
    dsimp only
    rw [isFinish]
    exact returned
  · have found := identityReferences_of_perm [range, edge, lifecycle, protection] [finish] facts
      startRole ?_
    · rw [found, startValue]
    · intro item member
      simp only [List.mem_append, List.mem_cons, List.not_mem_nil, or_false] at member
      rcases member with (rfl | rfl | rfl | rfl) | rfl
      · exact rangeRole
      · exact edgeRole
      · rw [lifecycleRole]
        decide
      · rw [protectionRole]
        decide
      · rw [finishRole]
        decide

/-- **SOR on a session** of five candles or more, the last of which is the trigger candle. -/
theorem sorEvaluate_of_session (sor : contract = sorLong ∨ contract = sorShort)
    (sessionStart : snapshot.triggerCandleCloseTimeMs / dayMs * dayMs = startMs)
    (positive : 0 < startMs) (enough : 5 ≤ snapshot.candles15m.length)
    (sequence : InSequence startMs 900000 snapshot.candles15m)
    (latest : snapshot.candles15m.getLast?.map (·.closeTimeMs) =
      some snapshot.triggerCandleCloseTimeMs) :
    ∃ triggered, Judged contract (sorEvaluate contract snapshot) triggered startMs := by
  have timeframe : contract.timeframe = .fifteenMinutes := by
    rcases sor with rfl | rfl
    · rfl
    · rfl
  have scope : validateSnapshotScope contract snapshot = none := by
    obtain ⟨last, isLast, same⟩ := Option.map_eq_some_iff.mp latest
    unfold validateSnapshotScope
    rw [timeframe, show snapshot.candles .fifteenMinutes = snapshot.candles15m from rfl, isLast]
    exact if_neg (not_not.mpr same)
  have opens : snapshot.candles15m.head?.map (·.openTimeMs) = some startMs := by
    obtain ⟨first, rest, candles⟩ := List.exists_cons_of_length_pos
      (show 0 < snapshot.candles15m.length by omega)
    rw [candles] at sequence ⊢
    have atFront := (sequence (first, 0) (by simp)).1
    simpa using atFront
  obtain ⟨triggered, judged⟩ := judged_sorVerdict sor snapshot positive
    (show 2 ≤ snapshot.candles15m.length by omega)
  refine ⟨triggered, ?_⟩
  unfold sorEvaluate
  rw [inScope_of_none scope, if_neg (not_lt.mpr enough)]
  dsimp only
  rw [sessionStart, if_neg (by rw [opens]; simpa using sequence)]
  exact judged

/-- SOR judges nothing that does not open at the start of the trigger's day. -/
theorem sorEvaluate_of_other_day
    (elsewhere : snapshot.candles15m.head?.map (·.openTimeMs) ≠
      some (snapshot.triggerCandleCloseTimeMs / dayMs * dayMs)) :
    ∃ result, sorEvaluate contract snapshot = .ok result ∧ result.status = .invalid := by
  unfold sorEvaluate inScope
  cases validateSnapshotScope contract snapshot with
  | some error => exact exists_invalidResult _ _
  | none =>
      dsimp only
      split_ifs with short other
      · exact exists_invalidResult _ _
      · exact exists_invalidResult _ _
      · exact absurd (.inl elsewhere) other

/-- SOR judges nothing of fewer than five candles. -/
theorem sorEvaluate_of_few (few : snapshot.candles15m.length < 5) :
    ∃ result, sorEvaluate contract snapshot = .ok result ∧ result.status = .invalid := by
  unfold sorEvaluate inScope
  cases validateSnapshotScope contract snapshot with
  | some error => exact exists_invalidResult _ _
  | none =>
      dsimp only
      rw [if_pos few]
      exact exists_invalidResult _ _

end SOR

/-! ### SOR-1H -/

section SOR1H

variable {contract : RegisteredStrategyContract} {snapshot : MarketSnapshot} {startMs : ℤ}
  {bars : List ClosedCandle} {first : ClosedCandle}

/-- The facts of the two hourly contracts, under the names that the detector gives them. -/
theorem sor1h_registered (sor : contract = sor1hLong ∨ contract = sor1hShort) :
    let registers (factName : String) (role : FactRole) : Prop :=
      contract.facts.find? (fun item => item.factName = factName) =
        some (fact factName role 3600000 1)
    registers "opening_range_defined_1h_v1" .condition ∧
      registers "entry_hour_eligible_1h_v1" .condition ∧
      registers ((if decide (contract.positionSide = .long) then "breakout" else "breakdown") ++
        "_edge_crossed_1h_v1") .condition ∧
      registers ("opening_range_" ++ (if decide (contract.positionSide = .long) then "low"
        else "high") ++ "_reference_1h_v1") .protectionReference ∧
      registers ("opening_range_" ++ (if decide (contract.positionSide = .long) then "high"
        else "low") ++ "_reference_1h_v1") .lifecycleReference ∧
      registers "session_start_ms_1h_v1" .identityReference ∧
      registers "session_end_ms_1h_v1" .lifecycleReference := by
  rcases sor with rfl | rfl
  · exact ⟨rfl, rfl, rfl, rfl, rfl, rfl, rfl⟩
  · exact ⟨rfl, rfl, rfl, rfl, rfl, rfl, rfl⟩

/-- The facts of an hourly verdict, by their definitions. -/
def sor1hFactIds (contract : RegisteredStrategyContract) : List String :=
  let long := decide (contract.positionSide = .long)
  [fact "opening_range_defined_1h_v1" .condition 3600000 1,
    fact "entry_hour_eligible_1h_v1" .condition 3600000 1,
    fact ((if long then "breakout" else "breakdown") ++ "_edge_crossed_1h_v1") .condition 3600000 1,
    fact ("opening_range_" ++ (if long then "low" else "high") ++ "_reference_1h_v1")
      .protectionReference 3600000 1,
    fact ("opening_range_" ++ (if long then "high" else "low") ++ "_reference_1h_v1")
      .lifecycleReference 3600000 1,
    fact "session_start_ms_1h_v1" .identityReference 3600000 1,
    fact "session_end_ms_1h_v1" .lifecycleReference 3600000 1].map (·.factDefinitionId)

/-- They are those of the contract. -/
theorem sor1hFactIds_perm (sor : contract = sor1hLong ∨ contract = sor1hShort) :
    (sor1hFactIds contract).Nodup ∧
      (sor1hFactIds contract).Perm (contract.facts.map (·.factDefinitionId)) := by
  rcases sor with rfl | rfl
  · exact ⟨by decide, by decide⟩
  · exact ⟨by decide, by decide⟩

/-- The hourly verdict always comes where the first hour has a range, and an hour alone never
triggers. -/
theorem judged_sor1hVerdict (sor : contract = sor1hLong ∨ contract = sor1hShort)
    (snapshot : MarketSnapshot) (positive : 0 < startMs) (opens : bars.head? = some first)
    (ranged : ¬ first.high ≤ first.low) :
    ∃ triggered, Judged contract (sor1hVerdict contract snapshot startMs bars) triggered startMs ∧
      (triggered = true → 2 ≤ bars.length) := by
  have isFirst : firstCandle bars = .ok first := demand_eq_ok.mpr opens
  have nonempty : 1 ≤ bars.length := by
    cases bars with
    | nil => cases opens
    | cons _ _ => simp
  obtain ⟨latest, isLatest⟩ := exists_candleFromEnd one_pos nonempty
  obtain ⟨rangeFact, hourFact, edgeFact, protectionFact, lifecycleFact, startFact, endFact⟩ :=
    sor1h_registered sor
  have reference (choice : Bool) : 0 < (if choice then first.low else first.high) := by
    cases choice with
    | true => exact first.positive.2.2.1
    | false => exact first.positive.2.1
  have mirrored (choice : Bool) : 0 < (if choice then first.high else first.low) := by
    cases choice with
    | true => exact first.positive.2.1
    | false => exact first.positive.2.2.1
  have startPos : (0 : ℚ) < startMs := by exact_mod_cast positive
  have endPos : (0 : ℚ) < startMs + dayMs := add_pos startPos (by decide)
  unfold sor1hVerdict
  simp only [isFirst, isLatest, if_neg ranged, bind, Except.bind]
  generalize eligibility : decide (2 ≤ bars.length) = eligible
  generalize edge : (eligible && if decide (contract.positionSide = .long) = true then
    decide (((fromEnd? bars 2).getD latest).close ≤ first.high ∧ first.high < latest.close)
    else decide (first.low ≤ ((fromEnd? bars 2).getD latest).close ∧ latest.close < first.low)) =
      crossed
  obtain ⟨range, isRange, rangeId, rangeRole⟩ :=
    exists_condition snapshot true true rangeFact (by decide)
  obtain ⟨hour, isHour, hourId, hourRole⟩ :=
    exists_condition snapshot eligible eligible hourFact (by decide)
  obtain ⟨cross, isCross, crossId, crossRole⟩ :=
    exists_condition snapshot crossed crossed edgeFact (by decide)
  obtain ⟨protection, isProtection, protectionId, protectionRole, -⟩ :=
    exists_reference snapshot true protectionFact (by decide) (by decide) (reference _)
  obtain ⟨lifecycle, isLifecycle, lifecycleId, lifecycleRole, -⟩ :=
    exists_reference snapshot true lifecycleFact (by decide) (by decide) (mirrored _)
  obtain ⟨start, isStart, startId, startRole, startValue⟩ :=
    exists_reference snapshot true startFact (by decide) (by decide) startPos
  obtain ⟨finish, isFinish, finishId, finishRole, -⟩ :=
    exists_reference snapshot true endFact (by decide) (by decide) endPos
  have ids : [range, hour, cross, protection, lifecycle, start, finish].map (·.factDefinitionId) =
      sor1hFactIds contract := by
    simp only [sor1hFactIds, List.map_cons, List.map_nil, rangeId, hourId, crossId, protectionId,
      lifecycleId, startId, finishId]
  obtain ⟨result, returned, event, status, facts⟩ := exists_result snapshot crossed
    (if crossed = true then "sor_1h_" ++
        if decide (contract.positionSide = .long) = true then "breakout" else "breakdown"
      else if ¬ eligible = true then "sor_1h_opening_range_prepared"
      else "sor_1h_no_hourly_cross")
    (List.cons_ne_nil range [hour, cross, protection, lifecycle, start, finish])
    (ids ▸ (sor1hFactIds_perm sor).1) (ids ▸ (sor1hFactIds_perm sor).2)
  refine ⟨crossed, ⟨result, ?_, event, status, ?_⟩, fun triggered => ?_⟩
  · rw [isRange]
    dsimp only
    rw [isHour]
    dsimp only
    rw [isCross]
    dsimp only
    rw [isProtection]
    dsimp only
    rw [isLifecycle]
    dsimp only
    rw [isStart]
    dsimp only
    rw [isFinish]
    exact returned
  · have found := identityReferences_of_perm [range, hour, cross, protection, lifecycle] [finish]
      facts startRole ?_
    · rw [found, startValue]
    · intro item member
      simp only [List.mem_append, List.mem_cons, List.not_mem_nil, or_false] at member
      rcases member with (rfl | rfl | rfl | rfl | rfl) | rfl
      · exact rangeRole
      · exact hourRole
      · exact crossRole
      · rw [protectionRole]
        decide
      · rw [lifecycleRole]
        decide
      · rw [finishRole]
        decide
  · rw [← edge, Bool.and_eq_true, ← eligibility, decide_eq_true_eq] at triggered
    exact triggered.1

/-- **Hourly SOR on the complete hours of a day**: it calls them invalid where the first hour has no
range, and otherwise judges them. -/
theorem sor1hEvaluate_of_session (sor : contract = sor1hLong ∨ contract = sor1hShort)
    (sessionStart : snapshot.triggerCandleCloseTimeMs / dayMs * dayMs = startMs)
    (positive : 0 < startMs)
    (complete : CompleteHours snapshot.triggerCandleCloseTimeMs startMs snapshot.candles1h)
    (opens : snapshot.candles1h.head? = some first) :
    if first.high ≤ first.low then
      ∃ result, sor1hEvaluate contract snapshot = .ok result ∧ result.status = .invalid
    else ∃ triggered, Judged contract (sor1hEvaluate contract snapshot) triggered startMs ∧
      (triggered = true → 2 ≤ snapshot.candles1h.length) := by
  unfold sor1hEvaluate
  dsimp only
  rw [sessionStart, if_neg (not_not.mpr complete)]
  split_ifs with flat
  · have isFirst : firstCandle snapshot.candles1h = .ok first := demand_eq_ok.mpr opens
    unfold sor1hVerdict
    simp only [isFirst, if_pos flat, bind, Except.bind]
    exact exists_invalidResult _ _
  · exact judged_sor1hVerdict sor snapshot positive opens flat

/-- Hourly SOR judges nothing but the complete hours of a day. -/
theorem sor1hEvaluate_of_other
    (incomplete : ¬ CompleteHours snapshot.triggerCandleCloseTimeMs
      (snapshot.triggerCandleCloseTimeMs / dayMs * dayMs) snapshot.candles1h) :
    ∃ result, sor1hEvaluate contract snapshot = .ok result ∧ result.status = .invalid := by
  unfold sor1hEvaluate
  dsimp only
  rw [if_pos incomplete]
  exact exists_invalidResult _ _

end SOR1H

end TradingKernel.Detectors
