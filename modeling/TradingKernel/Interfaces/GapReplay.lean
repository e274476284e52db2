/-
**A gap is audited as it would have been observed.**

A replay finds the first close of the session at which live observation would have triggered, and its
result names the session that live signals are named after (`gap_replay_is_live`).
-/

import TradingKernel.Interfaces.ReplayedCloses

namespace TradingKernel.Observation

open Authority Detectors Guard Scan SortBy Text Windows

/-! ### The result of a scope -/

section Scope

variable {market : Market} {audit : AuthorityGapAudit} {through interval bars : ℤ}
  {scope : AuthorityGapScope} {candles : List ClosedCandle}

variable (market audit through interval bars scope candles) in
/-- What `evaluate_authority_gap` has established where it replays a scope on the path of its
instrument. -/
structure ScopePath : Prop where
  listed : ∃ events, dailyEventSpecIds audit.selectionSpecId.text = .ok events ∧
    scope.eventSpecId.text ∈ events
  entry : entryInterval audit.selectionSpecId.text = .ok interval
  bounded : expectedBars audit interval through = .ok bars
  fetched : candles = (sessionCandles
    (market scope.exchangeInstrumentId.text (sessionTimeframe (decide audit.Hourly)))
    audit.sessionStartMs through).rtake bars.toNat
  complete : validateSessionPath candles audit.sessionStartMs bars interval = .ok ()

/-- **Every result of an audit** is that of a scope on such a path. -/
theorem scopePath_of_mem {arithmetic : Arithmetic} {requested : List AuthorityGapScope}
    {results : List AuthorityGapScopeResult} {result : AuthorityGapScopeResult}
    (evaluated : evaluateAuthorityGap arithmetic market audit requested through = .ok results)
    (member : result ∈ results) :
    ∃ scope candles interval bars, ScopePath market audit through interval bars scope candles ∧
      evaluateScope arithmetic scope candles audit.sessionStartMs
        audit.unauthorizedFromCloseTimeMs audit.selectionSpecId.text = .ok result := by
  unfold evaluateAuthorityGap at evaluated
  simp only [refuse_bind_eq_ok] at evaluated
  obtain ⟨-, -, evaluated⟩ := evaluated
  simp only [bind_eq_ok, refuse_eq_ok, pure_eq_ok, not_exists, not_and, not_not] at evaluated
  obtain ⟨events, daily, interval, entry, -, listed, bars, bounded, groups, replayed, rfl⟩ := evaluated
  obtain ⟨group, inGroups, inGroup⟩ := List.mem_flatten.mp (mem_sortBy.mp member)
  obtain ⟨instrument, -, ofInstrument⟩ := exists_of_mem_mapM replayed inGroups
  unfold evaluateInstrument at ofInstrument
  simp only [bind_eq_ok] at ofInstrument
  obtain ⟨⟨⟩, complete, ofScopes⟩ := ofInstrument
  obtain ⟨scope, inScopes, returned⟩ := exists_of_mem_mapM ofScopes inGroup
  obtain ⟨inRequest, isInstrument⟩ := List.mem_filter.mp inScopes
  obtain rfl := of_decide_eq_true isInstrument
  have timeframe : (if audit.Hourly then Timeframe.oneHour else .fifteenMinutes) =
      sessionTimeframe (decide audit.Hourly) := by
    unfold sessionTimeframe
    simp only [decide_eq_true_eq]
  rw [timeframe] at complete returned
  exact ⟨scope, _, interval, bars, ⟨⟨events, daily, listed scope inRequest⟩, entry, bounded, rfl,
    complete⟩, returned⟩

/-- The last candles of a session that begin with it are all of them. -/
theorem rtake_sessionCandles {history : List ClosedCandle} {startMs stepMs : ℤ} {count : ℕ}
    (ordered : history.Pairwise fun earlier later => earlier.openTimeMs < later.openTimeMs)
    (sequence : InSequence startMs stepMs ((sessionCandles history startMs through).rtake count))
    (nonempty : (sessionCandles history startMs through).rtake count ≠ []) :
    (sessionCandles history startMs through).rtake count = sessionCandles history startMs through := by
  obtain ⟨older, parts⟩ : (sessionCandles history startMs through).rtake count <:+
      sessionCandles history startMs through := List.drop_suffix _ _
  obtain ⟨first, rest, isLast⟩ := List.exists_cons_of_ne_nil nonempty
  rw [isLast] at parts sequence ⊢
  have opens : first.openTimeMs = startMs := by
    have := (sequence (first, 0) (by simp)).1
    simpa using this
  have sorted : (sessionCandles history startMs through).Pairwise
      fun earlier later => earlier.openTimeMs < later.openTimeMs := ordered.filter _
  cases older with
  | nil => exact parts
  | cons before others =>
      rw [← parts, List.cons_append, List.pairwise_cons] at sorted
      have inFront := sorted.1 first (List.mem_append_right _ List.mem_cons_self)
      have member : before ∈ sessionCandles history startMs through := by
        rw [← parts]
        exact List.mem_cons_self
      have inside := (List.mem_filter.mp member).2
      rw [decide_eq_true_eq] at inside
      omega

/-- The interval of the closes, by whether the audit is hourly. -/
theorem ScopePath.interval_eq (path : ScopePath market audit through interval bars scope candles) :
    interval = if decide audit.Hourly = true then Detectors.hourMs else 900000 := by
  have entry := mapError_eq_ok.mp path.entry
  unfold dailyEntryIntervalMs at entry
  by_cases hourly : audit.Hourly
  · rw [if_pos (show audit.selectionSpecId.text = orbSelectionSpecId from hourly)] at entry
    rw [if_pos (decide_eq_true hourly)]
    exact (Except.ok.inj entry).symm
  · rw [if_neg (show ¬ audit.selectionSpecId.text = orbSelectionSpecId from hourly)] at entry
    rw [if_neg (by simpa using hourly)]
    split_ifs at entry
    exact (Except.ok.inj entry).symm

/-- The start of an audited session is a positive midnight. -/
theorem audit_start (audit : AuthorityGapAudit) :
    0 < audit.sessionStartMs ∧ audit.sessionStartMs % dayMs = 0 := by
  have valid := audit.valid
  unfold AuthorityGapAuditFields.check at valid
  simp only [bind_eq_ok, refuse_eq_ok] at valid
  obtain ⟨-, -, interval, -, -, midnight, -⟩ := valid
  omega

/-- **The path of a scope is a complete session** of at least one bar, and of those in front of the
first that can trigger. -/
theorem ScopePath.session (path : ScopePath market audit through interval bars scope candles)
    (ordered : (market scope.exchangeInstrumentId.text
      (sessionTimeframe (decide audit.Hourly))).Pairwise
        fun earlier later => earlier.openTimeMs < later.openTimeMs) :
    CompleteSession (market scope.exchangeInstrumentId.text
        (sessionTimeframe (decide audit.Hourly))) (decide audit.Hourly) audit.sessionStartMs
        interval candles ∧
      firstBar (decide audit.Hourly) ≤ candles.length + 1 ∧ 0 < candles.length := by
  have interval_eq := path.interval_eq
  obtain ⟨positive, midnight⟩ := audit_start audit
  have bounded := path.bounded
  unfold expectedBars at bounded
  dsimp only at bounded
  rw [refuse_bind_eq_ok, pure_eq_ok] at bounded
  obtain ⟨window, isBars⟩ := bounded
  simp only [not_or, not_not] at window
  obtain ⟨aligned, counted, -⟩ := window
  have complete := path.complete
  unfold validateSessionPath at complete
  rw [refuse_eq_ok, not_or, not_not, not_not] at complete
  obtain ⟨length, sequence⟩ := complete
  rw [← isBars] at counted
  have bounds : (firstBar (decide audit.Hourly) : ℤ) ≤ bars + 1 ∧ 0 < bars ∧
      bars * interval ≤ dayMs ∧ audit.sessionStartMs + bars * interval = through := by
    by_cases hourly : audit.Hourly
    · rw [if_pos hourly, if_pos hourly] at counted
      rw [if_pos (decide_eq_true hourly)] at interval_eq
      rw [decide_eq_true hourly]
      subst interval_eq
      unfold Detectors.hourMs dayMs firstBar at *
      refine ⟨?_, by omega, by omega, by omega⟩
      rw [if_pos rfl]
      omega
    · rw [if_neg hourly, if_neg hourly] at counted
      rw [if_neg (by simpa using hourly)] at interval_eq
      rw [decide_eq_false hourly]
      subst interval_eq
      unfold dayMs firstBar at *
      refine ⟨?_, by omega, by omega, by omega⟩
      rw [if_neg Bool.false_ne_true]
      omega
  obtain ⟨firstWithin, someBars, onDay, reaches⟩ := bounds
  have nonempty : 0 < candles.length := by omega
  refine ⟨⟨interval_eq, positive, midnight, ordered, ?_, sequence, ?_⟩, by omega, nonempty⟩
  · rw [length, reaches]
    have fetched := path.fetched
    rw [fetched] at sequence nonempty ⊢
    exact rtake_sessionCandles ordered sequence (List.ne_nil_of_length_pos nonempty)
  · rw [length]
    exact onDay

/-- The one contract of an event. -/
theorem strategyContractFor_eq_ok {eventSpecId : NonBlankText}
    {contract registered : RegisteredStrategyContract}
    (found : strategyContractFor eventSpecId = .ok contract)
    (there : registered ∈ registeredStrategyContracts)
    (same : registered.eventSpecId = eventSpecId.text) : contract = registered := by
  have listed : registered ∈ registeredStrategyContracts.filter
      (·.eventSpecId = eventSpecId.text) :=
    List.mem_filter.mpr ⟨there, decide_eq_true same⟩
  unfold strategyContractFor at found
  split at found
  next only isOnly =>
    rw [isOnly, List.mem_singleton] at listed
    exact (Except.ok.inj found).symm.trans listed.symm
  next => cases found

/-- **The contract of a scope that is replayed** is one of a daily event, that of the scope. -/
theorem ScopePath.event (path : ScopePath market audit through interval bars scope candles)
    {contract : RegisteredStrategyContract}
    (found : strategyContractFor scope.eventSpecId = .ok contract) :
    DailyEvent (decide audit.Hourly) contract ∧ contract.eventSpecId = scope.eventSpecId.text := by
  obtain ⟨events, daily, member⟩ := path.listed
  have registered (own : RegisteredStrategyContract) (there : own ∈ registeredStrategyContracts)
      (same : scope.eventSpecId.text = own.eventSpecId) :
      contract = own ∧ contract.eventSpecId = scope.eventSpecId.text := by
    obtain rfl := strategyContractFor_eq_ok found there same.symm
    exact ⟨rfl, same.symm⟩
  unfold dailyEventSpecIds at daily
  unfold DailyEvent
  by_cases hourly : audit.Hourly
  · rw [if_pos (show audit.selectionSpecId.text = orbSelectionSpecId from hourly)] at daily
    obtain rfl := Except.ok.inj daily
    rw [if_pos (decide_eq_true hourly)]
    simp only [List.mem_cons, List.not_mem_nil, or_false] at member
    rcases member with long | short
    · obtain ⟨isLong, same⟩ := registered sor1hLong
        (by simp [registeredStrategyContracts]) long
      exact ⟨.inl isLong, same⟩
    · obtain ⟨isShort, same⟩ := registered sor1hShort
        (by simp [registeredStrategyContracts]) short
      exact ⟨.inr isShort, same⟩
  · rw [if_neg (show ¬ audit.selectionSpecId.text = orbSelectionSpecId from hourly)] at daily
    rw [if_neg (by simpa using hourly)]
    split_ifs at daily
    obtain rfl := Except.ok.inj daily
    simp only [List.mem_cons, List.not_mem_nil, or_false] at member
    rcases member with long | short
    · obtain ⟨isLong, same⟩ := registered sorLong
        (by simp [registeredStrategyContracts]) long
      exact ⟨.inl isLong, same⟩
    · obtain ⟨isShort, same⟩ := registered sorShort
        (by simp [registeredStrategyContracts]) short
      exact ⟨.inr isShort, same⟩

/-- The result of a scope names its session. -/
theorem scopeResult_eq_ok {startMs : ℤ} {trigger : Option ℤ} {result : AuthorityGapScopeResult}
    (positive : 0 < startMs) :
    scopeResult scope (toString startMs) trigger = .ok result ↔
      (∀ closeMs ∈ trigger, 0 < closeMs) ∧ result.scope = scope ∧
        result.sessionReference = .ofNat startMs.toNat ∧ result.firstNaturalTriggerAtMs = trigger := by
  obtain ⟨n, rfl⟩ := Int.eq_ofNat_of_zero_le positive.le
  have reference : NonBlankText.ofText? (toString (n : ℤ)) = some (.ofNat n) :=
    NonBlankText.ofText?_text (.ofNat n)
  unfold scopeResult
  rw [reference]
  dsimp only [demand]
  show (if positive : ∀ closeMs ∈ trigger, 0 < closeMs then _ else _) = _ ↔ _
  constructor
  · intro returned
    split_ifs at returned with positive
    obtain rfl := pure_eq_ok.mp returned
    exact ⟨positive, rfl, rfl, rfl⟩
  · rintro ⟨triggers, rfl, isReference, rfl⟩
    rw [dif_pos triggers, pure_eq_ok]
    obtain ⟨scope, reference, trigger, positive⟩ := result
    obtain rfl := isReference
    rfl

/-- The close that a replay finds, as the first of the session that triggers. -/
theorem found_iff (arithmetic : Arithmetic) {contract : RegisteredStrategyContract}
    {history : List ClosedCandle} {hourly : Bool} {startMs : ℤ} {k : ℕ}
    (event : DailyEvent hourly contract)
    (session : CompleteSession history hourly startMs interval candles)
    (firstWithin : firstBar hourly ≤ candles.length + 1) :
    firstHit (replayTriggers arithmetic contract scope hourly candles startMs interval)
        (List.range' (firstBar hourly) (candles.length + 1 - firstBar hourly)) = .ok (some k) ↔
      k ≤ candles.length ∧
        Triggers (replay arithmetic contract scope hourly candles (startMs + k * interval) k) ∧
        ∀ j < k, ¬ Triggers
          (replay arithmetic contract scope hourly candles (startMs + j * interval) j) := by
  let triggers (j : ℕ) : Prop :=
    Triggers (replay arithmetic contract scope hourly candles (startMs + j * interval) j)
  have early : ∀ j < firstBar hourly, ¬ triggers j := by
    intro j before holds
    have within : j ≤ candles.length := by omega
    have inside := judged_of_triggers arithmetic event session within holds
    omega
  have hit (j : ℕ) : replayTriggers arithmetic contract scope hourly candles startMs interval j =
      .ok true ↔ triggers j := by
    rw [replayTriggers_eq_ok]
    constructor
    · rintro ⟨result, replayed, -, isTriggered⟩
      exact ⟨result, replayed, of_decide_eq_true isTriggered.symm⟩
    · rintro ⟨result, replayed, isTriggered⟩
      refine ⟨result, replayed, ?_, (decide_eq_true isTriggered).symm⟩
      rw [isTriggered]
      decide
  have missed (j k : ℕ) (inside : firstBar hourly ≤ j) (before : j < k)
      (within : k < firstBar hourly + (candles.length + 1 - firstBar hourly)) (holds : triggers k)
      (quiet : ¬ triggers j) :
      replayTriggers arithmetic contract scope hourly candles startMs interval j = .ok false := by
    obtain ⟨-, today, ranged⟩ := judged_of_triggers arithmetic event session (by omega) holds
    have earlier : (j : ℤ) * interval < dayMs := by
      refine lt_trans ?_ today
      exact mul_lt_mul_of_pos_right (by exact_mod_cast before) session.interval_pos
    rcases replay_of_today arithmetic event session inside (by omega) earlier with
      ⟨flat, -⟩ | ⟨-, triggered, judged⟩
    · exact absurd flat ranged
    · have untriggered : triggered = false := by
        rw [← Bool.not_eq_true, ← triggers_of_judged judged]
        exact quiet
      obtain ⟨result, replayed, -, status, -⟩ := judged
      rw [untriggered, if_neg Bool.false_ne_true] at status
      rw [replayTriggers_eq_ok]
      refine ⟨result, replayed, ?_, ?_⟩
      · rw [status]
        decide
      · rw [status]
        rfl
  rw [firstHit_range_iff early (fun j _ _ => hit j) missed]
  refine and_congr_left fun _ => ?_
  omega

/-- The first bar that is replayed, by the interval. -/
theorem firstBar_eq {hourly : Bool} (interval_eq : interval = if hourly then Detectors.hourMs else 900000) :
    (dailyFirstOffsetMs interval / interval).toNat = firstBar hourly := by
  cases hourly with
  | true =>
      subst interval_eq
      rfl
  | false =>
      subst interval_eq
      rfl

/-- **The result of a scope**, by the close that its replay finds. -/
theorem evaluateScope_eq_ok (arithmetic : Arithmetic) {contract : RegisteredStrategyContract}
    (path : ScopePath market audit through interval bars scope candles)
    (found : strategyContractFor scope.eventSpecId = .ok contract) {result : AuthorityGapScopeResult} :
    evaluateScope arithmetic scope candles audit.sessionStartMs audit.unauthorizedFromCloseTimeMs
        audit.selectionSpecId.text = .ok result ↔
      ∃ first, firstHit (replayTriggers arithmetic contract scope (decide audit.Hourly) candles
          audit.sessionStartMs interval)
          (List.range' (firstBar (decide audit.Hourly))
            (candles.length + 1 - firstBar (decide audit.Hourly))) = .ok first ∧
        result.scope = scope ∧ result.sessionReference = .ofNat audit.sessionStartMs.toNat ∧
        result.firstNaturalTriggerAtMs =
          (first.map fun k : ℕ => audit.sessionStartMs + k * interval).filter
            fun closeMs => audit.unauthorizedFromCloseTimeMs ≤ closeMs := by
  obtain ⟨positive, -⟩ := audit_start audit
  have interval_eq := path.interval_eq
  have intervalPos : 0 < interval := by
    rw [interval_eq]
    split_ifs
    · decide
    · decide
  have closes (first : Option ℕ) : ∀ closeMs ∈
      (first.map fun k : ℕ => audit.sessionStartMs + k * interval).filter
        (fun closeMs => audit.unauthorizedFromCloseTimeMs ≤ closeMs), 0 < closeMs := by
    intro closeMs member
    obtain ⟨there, -⟩ := Option.filter_eq_some_iff.mp member
    obtain ⟨k, -, rfl⟩ := Option.map_eq_some_iff.mp there
    exact add_pos_of_pos_of_nonneg positive (mul_nonneg (Int.natCast_nonneg k) intervalPos.le)
  unfold evaluateScope
  simp only [bind_eq_ok]
  constructor
  · rintro ⟨own, isOwn, ownInterval, entry, first, replayed, returned⟩
    obtain rfl := Except.ok.inj (found.symm.trans isOwn)
    obtain rfl := Except.ok.inj (path.entry.symm.trans entry)
    rw [firstBar_eq interval_eq] at replayed
    obtain ⟨-, parts⟩ := (scopeResult_eq_ok positive).mp returned
    exact ⟨first, replayed, parts⟩
  · rintro ⟨first, replayed, parts⟩
    refine ⟨contract, found, interval, path.entry, first, ?_, ?_⟩
    · rw [firstBar_eq interval_eq]
      exact replayed
    · exact (scopeResult_eq_ok positive).mpr ⟨closes first, parts⟩

end Scope

/-! ### The replay is the live observation -/

/-- Of the closes up to the last one, the `k`-th is the first that triggers. -/
def FirstTrigger (live : ℤ → Except String DetectorResult) (closes : ℕ → ℤ) (last k : ℕ) : Prop :=
  k ≤ last ∧ Triggers (live (closes k)) ∧ ∀ j < k, ¬ Triggers (live (closes j))

/-- **A gap is audited as it would have been observed.** The result of a scope triggers at the first
close of the session at which live observation triggers, where that is not before the gap; where it is,
the scope has no trigger; and the result names the session that every live signal of it is named
after. -/
theorem gap_replay_is_live (arithmetic : Arithmetic) {market : Market} {audit : AuthorityGapAudit}
    {through interval bars : ℤ} {scope : AuthorityGapScope} {candles : List ClosedCandle}
    {contract : RegisteredStrategyContract} (runtime : RuntimeScopeSnapshot) (members : List String)
    (projection : Option Comparative.ComparativeUniverseProjection)
    (productSession : Option ProductSessionSnapshot)
    (path : ScopePath market audit through interval bars scope candles)
    (found : strategyContractFor scope.eventSpecId = .ok contract)
    (ordered : (market scope.exchangeInstrumentId.text
      (sessionTimeframe (decide audit.Hourly))).Pairwise
        fun earlier later => earlier.openTimeMs < later.openTimeMs)
    (same : runtime.exchangeInstrumentId = scope.exchangeInstrumentId) :
    let live := observe arithmetic market contract runtime members projection productSession
    let closes (k : ℕ) : ℤ := audit.sessionStartMs + k * interval
    let outcome := evaluateScope arithmetic scope candles audit.sessionStartMs
      audit.unauthorizedFromCloseTimeMs audit.selectionSpecId.text
    (∀ closeMs, (∃ result, outcome = .ok result ∧ result.firstNaturalTriggerAtMs = some closeMs) ↔
      ∃ k, FirstTrigger live closes candles.length k ∧ closeMs = closes k ∧
        audit.unauthorizedFromCloseTimeMs ≤ closeMs) ∧
    (∀ k, FirstTrigger live closes candles.length k → closes k < audit.unauthorizedFromCloseTimeMs →
      ∃ result, outcome = .ok result ∧ result.firstNaturalTriggerAtMs = none) ∧
    ∀ result, outcome = .ok result → ∀ k ≤ candles.length, ∀ signal, live (closes k) = .ok signal →
      signal.status = .triggered →
        producedIdentity contract scope.exchangeInstrumentId.text signal =
          .ok (sessionIdentity scope.eventSpecId.text scope.exchangeInstrumentId.text
            contract.positionSide [result.sessionReference.text]) := by
  obtain ⟨session, firstWithin, nonempty⟩ := path.session ordered
  obtain ⟨event, sameEvent⟩ := path.event found
  intro live closes outcome
  have first_iff (k : ℕ) : FirstTrigger live closes candles.length k ↔
      firstHit (replayTriggers arithmetic contract scope (decide audit.Hourly) candles
        audit.sessionStartMs interval) (List.range' (firstBar (decide audit.Hourly))
          (candles.length + 1 - firstBar (decide audit.Hourly))) = .ok (some k) := by
    rw [found_iff arithmetic event session firstWithin]
    unfold FirstTrigger
    refine and_congr_right fun within => and_congr ?_ ?_
    · exact triggers_iff arithmetic event same session nonempty within
    · refine forall_congr' fun j => imp_congr_right fun before => not_congr ?_
      exact triggers_iff arithmetic event same session nonempty (before.le.trans within)
  have outcome_iff {result : AuthorityGapScopeResult} :
      outcome = .ok result ↔ _ := evaluateScope_eq_ok arithmetic path found
  have exists_result {first : Option ℕ}
      (replayed : firstHit (replayTriggers arithmetic contract scope (decide audit.Hourly) candles
        audit.sessionStartMs interval) (List.range' (firstBar (decide audit.Hourly))
          (candles.length + 1 - firstBar (decide audit.Hourly))) = .ok first) :
      ∃ result, outcome = .ok result ∧ result.firstNaturalTriggerAtMs =
        (first.map closes).filter fun closeMs => audit.unauthorizedFromCloseTimeMs ≤ closeMs := by
    refine ⟨⟨scope, .ofNat audit.sessionStartMs.toNat, _, ?_⟩,
      outcome_iff.mpr ⟨first, replayed, rfl, rfl, rfl⟩, rfl⟩
    intro closeMs member
    obtain ⟨there, -⟩ := Option.filter_eq_some_iff.mp member
    obtain ⟨k, -, rfl⟩ := Option.map_eq_some_iff.mp there
    exact session.close_pos k
  refine ⟨fun closeMs => ⟨?_, ?_⟩, fun k isFirst before => ?_, ?_⟩
  · rintro ⟨result, returned, trigger⟩
    obtain ⟨first, replayed, -, -, isTrigger⟩ := outcome_iff.mp returned
    rw [trigger, eq_comm, Option.filter_eq_some_iff] at isTrigger
    obtain ⟨there, inGap⟩ := isTrigger
    obtain ⟨k, rfl, rfl⟩ := Option.map_eq_some_iff.mp there
    exact ⟨k, (first_iff k).mpr replayed, rfl, of_decide_eq_true inGap⟩
  · rintro ⟨k, isFirst, rfl, inGap⟩
    obtain ⟨result, returned, trigger⟩ := exists_result ((first_iff k).mp isFirst)
    refine ⟨result, returned, ?_⟩
    rw [trigger, Option.map_some, Option.filter_some, if_pos (decide_eq_true inGap)]
  · obtain ⟨result, returned, trigger⟩ := exists_result ((first_iff k).mp isFirst)
    refine ⟨result, returned, ?_⟩
    rw [trigger, Option.map_some, Option.filter_some, if_neg (by simpa using before)]
  · intro result returned k within signal observed triggered
    obtain ⟨-, -, -, reference, -⟩ := outcome_iff.mp returned
    have triggers := (triggers_iff arithmetic event same session nonempty within).mp
      ⟨signal, observed, triggered⟩
    obtain ⟨inside, today, ranged⟩ := judged_of_triggers arithmetic event session within triggers
    have sameReplay : live (closes k) = _ :=
      observe_of_today arithmetic event same session within today
    rcases replay_of_today arithmetic event session inside within today with
      ⟨flat, -⟩ | ⟨-, judgedTriggered, judged⟩
    · exact absurd flat ranged
    · obtain ⟨other, replayed, eventId, -, references⟩ := judged
      obtain rfl := Except.ok.inj (observed.symm.trans (sameReplay.trans replayed))
      have start : (audit.sessionStartMs : ℚ) = (audit.sessionStartMs.toNat : ℚ) := by
        exact_mod_cast (Int.toNat_of_nonneg session.positive.le).symm
      rw [start] at references
      rw [reference, ← sameEvent]
      exact producedIdentity_eq_ok triggered eventId references

/-! ### A gap from the first close of a day -/

theorem sampleQuarter_volume : (0 : ℚ) ≤ 1 := zero_le_one

/-- A quarter of an hour of the day after the epoch, with its close. -/
def sampleQuarter (i : ℕ) (close : ℚ) (contained : max 10 close ≤ 12 ∧ 8 ≤ min 10 close) :
    ClosedCandle where
  openTimeMs := dayMs + i * 900000
  closeTimeMs := dayMs + (i + 1) * 900000
  openPrice := 10
  high := 12
  low := 8
  close := close
  volume := 1
  window := by
    unfold dayMs
    omega
  positive := by
    obtain ⟨-, below⟩ := contained
    exact ⟨by norm_num, by norm_num, by norm_num, by linarith [min_le_right 10 close]⟩
  volume_nonneg := sampleQuarter_volume
  contained := contained

/-- Five quarters of an hour inside their range. -/
def sampleQuarters : List ClosedCandle :=
  (List.range 5).map fun i => sampleQuarter i 10 (by norm_num)

def sampleRuntimeScope : RuntimeScopeSnapshot :=
  ⟨sampleScope.eventSpecId, sampleScope.exchangeInstrumentId,
    .ofSolid "universe:1" (solid_of_all (by decide)) (by decide)⟩

theorem sample_path : ScopePath (fun _ _ => sampleQuarters) sampleAudit (dayMs + 5 * 900000) 900000 5
    sampleScope sampleQuarters where
  listed := ⟨_, rfl, by decide⟩
  entry := rfl
  bounded := rfl
  fetched := rfl
  complete := by
    unfold validateSessionPath
    rw [refuse_eq_ok]
    decide

/-- The session of the sample is audited as it would have been observed. -/
theorem gap_replay_is_live_sample :
    sampleQuarters.length = 5 ∧ ∀ closeMs, (∃ result, evaluateScope exactArithmetic sampleScope
        sampleQuarters dayMs (dayMs + 5 * 900000) "sor-dynamic-selection-v0" = .ok result ∧
          result.firstNaturalTriggerAtMs = some closeMs) ↔
      ∃ k, FirstTrigger (observe exactArithmetic (fun _ _ => sampleQuarters) sorLong
          sampleRuntimeScope [] none none) (fun k : ℕ => dayMs + k * 900000) 5 k ∧
        closeMs = dayMs + k * 900000 ∧ dayMs + 5 * 900000 ≤ closeMs :=
  ⟨rfl, (gap_replay_is_live exactArithmetic sampleRuntimeScope [] none none sample_path rfl
    (by
      show sampleQuarters.Pairwise fun earlier later => earlier.openTimeMs < later.openTimeMs
      decide) rfl).1⟩

end TradingKernel.Observation
