/-
**How far a detector looks back.**

Five of the seven detectors read their candles at fixed distances from the end, or all candles of a
session that has to be complete, so older candles change nothing (`evaluate_of_olderHistory`). MPG and
BRF2 compare the last four-hour close with the first one loaded: their verdict stays the same exactly
where both windows put that change on the same side of the threshold
(`verdict_same_iff_context_agrees`).
-/

import TradingKernel.Domain.Detectors.Hourly
import TradingKernel.Domain.Detectors.Session
import TradingKernel.Lib.Table

namespace TradingKernel.Detectors

open Guard Windows
open Recovery (DetectorStatus)

variable (arithmetic : Arithmetic)

/-! ### The detector of an event -/

/-- `ORB_EVENT_SPEC_IDS`. -/
def orbEventSpecIds : List String :=
  ["event_spec:SOR-1H-001:SOR-1H-LONG:v1", "event_spec:SOR-1H-001:SOR-1H-SHORT:v1"]

/-- The evaluation by the detector of a contract. -/
def detect (contract : RegisteredStrategyContract) (snapshot : MarketSnapshot) :
    Except String DetectorResult :=
  match contract.eventId with
  | .cpmLong => cpmEvaluate arithmetic contract snapshot
  | .mpgLong => mpgEvaluate arithmetic contract snapshot
  | .miLong => miEvaluate arithmetic contract snapshot
  | .sor1hLong | .sor1hShort => do
      refuse (contract.eventSpecId ∉ orbEventSpecIds ∨ contract.strategyGroupId ≠ "SOR-1H-001" ∨
          contract.timeframe ≠ .oneHour)
        "hourly ORB Detector rejects another strategy or clock"
      sor1hEvaluate contract snapshot
  | .sorLong | .sorShort => sorEvaluate contract snapshot
  | .sorUsLong15m | .sorUsShort15m => usSorEvaluate arithmetic contract snapshot
  | .brf2Short => brf2Evaluate arithmetic contract snapshot

/-- `detector_for(event_spec_id).evaluate(snapshot)`. -/
def evaluate (eventSpecId : String) (snapshot : MarketSnapshot) : Except String DetectorResult := do
  let contract ← demand
    (registeredStrategyContracts.find? fun contract => contract.eventSpecId = eventSpecId)
    ("unknown Event Spec: " ++ eventSpecId)
  detect arithmetic contract snapshot

/-! ### Readings of a longer window -/

section Readings

variable {shorter longer : List ClosedCandle}

theorem candleFromEnd_of_suffix (h : shorter <:+ longer) {k : ℕ} (positive : 0 < k)
    (within : k ≤ shorter.length) : candleFromEnd longer k = candleFromEnd shorter k := by
  unfold candleFromEnd
  rw [fromEnd?_of_suffix h positive within]

theorem cpmReading_of_suffix {shorter4h longer4h : List ClosedCandle} (h : shorter <:+ longer)
    (h4 : shorter4h <:+ longer4h) (enough : 21 ≤ shorter.length) (enough4 : 21 ≤ shorter4h.length) :
    cpmReading arithmetic longer longer4h = cpmReading arithmetic shorter shorter4h := by
  unfold cpmReading
  rw [candleFromEnd_of_suffix h one_pos (by omega), candleFromEnd_of_suffix h two_pos (by omega),
    candleFromEnd_of_suffix h4 one_pos (by omega), candleFromEnd_of_suffix h4 two_pos (by omega),
    rtake_of_suffix h (show 20 ≤ shorter.length by omega), rtake_of_suffix h enough,
    rtake_of_suffix h4 (show 20 ≤ shorter4h.length by omega)]

theorem mpgReading_of_suffix (h : shorter <:+ longer) (enough : 16 ≤ shorter.length) :
    mpgReading arithmetic longer = mpgReading arithmetic shorter := by
  unfold mpgReading
  rw [candleFromEnd_of_suffix h one_pos (by omega),
    rtake_of_suffix h (show 9 ≤ shorter.length by omega),
    rtake_of_suffix h (show 6 ≤ shorter.length by omega),
    rtake_of_suffix h (show 5 ≤ shorter.length by omega)]

theorem miReading_of_suffix (h : shorter <:+ longer) (enough : 13 ≤ shorter.length) :
    miReading arithmetic longer = miReading arithmetic shorter := by
  unfold miReading
  rw [candleFromEnd_of_suffix h one_pos (by omega), candleFromEnd_of_suffix h (by omega) enough]

theorem brf2Reading_of_suffix (h : shorter <:+ longer) (enough : 12 ≤ shorter.length) :
    brf2Reading arithmetic longer = brf2Reading arithmetic shorter := by
  unfold brf2Reading
  rw [candleFromEnd_of_suffix h one_pos (by omega), candleFromEnd_of_suffix h two_pos (by omega),
    rtake_of_suffix h (show 9 ≤ shorter.length by omega)]

end Readings

/-! ### The detectors that older candles do not reach -/

section Independent

variable {contract : RegisteredStrategyContract} {shorter longer : MarketSnapshot}

theorem comparativeInvalidReasonOf_of_olderHistory (h : OlderHistory shorter longer)
    (strategyGroupId : String) (lookbackBars : ℤ) (missing scope stale : String) :
    comparativeInvalidReasonOf strategyGroupId lookbackBars missing scope stale longer =
      comparativeInvalidReasonOf strategyGroupId lookbackBars missing scope stale shorter := by
  unfold comparativeInvalidReasonOf
  rw [h.comparativeStrength, h.trigger]

theorem cpmEvaluate_of_olderHistory (h : OlderHistory shorter longer)
    (judged : NotInvalid (cpmEvaluate arithmetic contract shorter))
    (judgedLonger : NotInvalid (cpmEvaluate arithmetic contract longer)) :
    cpmEvaluate arithmetic contract longer = cpmEvaluate arithmetic contract shorter := by
  unfold cpmEvaluate at judged judgedLonger ⊢
  obtain ⟨scope, rest⟩ := notInvalid_inScope judged
  obtain ⟨scopeLonger, restLonger⟩ := notInvalid_inScope judgedLonger
  have enough := (notInvalid_ite rest).1
  have enoughLonger := (notInvalid_ite restLonger).1
  rw [inScope_of_none scope, inScope_of_none scopeLonger, if_neg enough, if_neg enoughLonger,
    cpmReading_of_suffix arithmetic h.candles1h h.candles4h (by omega) (by omega)]
  congr 1
  funext reading
  unfold cpmVerdict
  rw [factSnapshot_of_olderHistory h, computedResult_of_olderHistory h]

theorem miVerdict_of_olderHistory (h : OlderHistory shorter longer) :
    miVerdict contract longer = miVerdict contract shorter := by
  funext reading
  unfold miVerdict miComparativeInvalidReason
  rw [factSnapshot_of_olderHistory h, computedResult_of_olderHistory h,
    comparativeInvalidReasonOf_of_olderHistory h, h.comparativeStrength, h.exchangeInstrumentId]

theorem miEvaluate_of_olderHistory (h : OlderHistory shorter longer)
    (judged : NotInvalid (miEvaluate arithmetic contract shorter))
    (judgedLonger : NotInvalid (miEvaluate arithmetic contract longer)) :
    miEvaluate arithmetic contract longer = miEvaluate arithmetic contract shorter := by
  unfold miEvaluate at judged judgedLonger ⊢
  obtain ⟨scope, rest⟩ := notInvalid_inScope judged
  obtain ⟨scopeLonger, restLonger⟩ := notInvalid_inScope judgedLonger
  have enough := (notInvalid_ite rest).1
  have enoughLonger := (notInvalid_ite restLonger).1
  rw [inScope_of_none scope, inScope_of_none scopeLonger, if_neg enough, if_neg enoughLonger,
    miReading_of_suffix arithmetic h.candles1h (by omega), miVerdict_of_olderHistory h]

/-- Two complete sessions that begin together and end together are one. -/
theorem candles_eq_of_inSequence {shorter longer : List ClosedCandle} {startMs stepMs : ℤ}
    (h : shorter <:+ longer) (nonempty : shorter ≠ []) (positive : 0 < stepMs)
    (sequence : InSequence startMs stepMs shorter)
    (sequenceLonger : InSequence startMs stepMs longer) : longer = shorter :=
  (eq_of_numbered h nonempty positive sequence.numbered sequenceLonger.numbered).symm

theorem sorEvaluate_of_olderHistory (h : OlderHistory shorter longer)
    (judged : NotInvalid (sorEvaluate contract shorter))
    (judgedLonger : NotInvalid (sorEvaluate contract longer)) :
    sorEvaluate contract longer = sorEvaluate contract shorter := by
  unfold sorEvaluate at judged judgedLonger ⊢
  obtain ⟨scope, rest⟩ := notInvalid_inScope judged
  obtain ⟨scopeLonger, restLonger⟩ := notInvalid_inScope judgedLonger
  obtain ⟨enough, rest⟩ := notInvalid_ite rest
  obtain ⟨-, restLonger⟩ := notInvalid_ite restLonger
  have sequence := (notInvalid_ite rest).1
  have sequenceLonger := (notInvalid_ite restLonger).1
  rw [not_or, not_not, not_not] at sequence sequenceLonger
  rw [h.trigger] at sequenceLonger
  have same : longer.candles15m = shorter.candles15m :=
    candles_eq_of_inSequence h.candles15m (List.ne_nil_of_length_pos (by omega)) (by norm_num)
      sequence.2 sequenceLonger.2
  rw [inScope_of_none scope, inScope_of_none scopeLonger, same, h.trigger]
  unfold sorVerdict
  rw [factSnapshot_of_olderHistory h, computedResult_of_olderHistory h]

theorem sor1hEvaluate_of_olderHistory (h : OlderHistory shorter longer)
    (judged : NotInvalid (sor1hEvaluate contract shorter))
    (judgedLonger : NotInvalid (sor1hEvaluate contract longer)) :
    sor1hEvaluate contract longer = sor1hEvaluate contract shorter := by
  unfold sor1hEvaluate at judged judgedLonger ⊢
  obtain ⟨-, nonempty, -, -, sequence⟩ := not_not.1 (notInvalid_ite judged).1
  obtain ⟨-, -, -, -, sequenceLonger⟩ := not_not.1 (notInvalid_ite judgedLonger).1
  rw [h.trigger] at sequenceLonger
  have same : longer.candles1h = shorter.candles1h :=
    candles_eq_of_inSequence h.candles1h nonempty (by decide) sequence sequenceLonger
  rw [same, h.trigger]
  unfold sor1hVerdict
  rw [factSnapshot_of_olderHistory h, computedResult_of_olderHistory h]

theorem usSorSession_of_olderHistory (h : OlderHistory shorter longer) (session : RegularSession)
    (judged : NotInvalid (usSorSession arithmetic contract shorter session))
    (judgedLonger : NotInvalid (usSorSession arithmetic contract longer session)) :
    usSorSession arithmetic contract longer session =
      usSorSession arithmetic contract shorter session := by
  unfold usSorSession at judged judgedLonger ⊢
  dsimp only at judged judgedLonger ⊢
  rw [h.trigger] at judgedLonger ⊢
  by_cases outside : ¬ (session.openMs + 2 * barMs < shorter.triggerCandleCloseTimeMs ∧
      shorter.triggerCandleCloseTimeMs ≤
        min (session.openMs + entryWindowEndBars * barMs) (session.closeMs - barMs))
  · rw [if_pos outside, if_pos outside]
  rw [if_neg outside] at judged judgedLonger
  rw [if_neg outside, if_neg outside]
  obtain ⟨missing, rest⟩ := notInvalid_ite judged
  obtain ⟨-, restLonger⟩ := notInvalid_ite judgedLonger
  obtain ⟨sequence, rest⟩ := notInvalid_ite rest
  obtain ⟨sequenceLonger, restLonger⟩ := notInvalid_ite restLonger
  have enough := (notInvalid_ite rest).1
  have enoughLonger := (notInvalid_ite restLonger).1
  have same : regularCandles session.openMs shorter.triggerCandleCloseTimeMs longer.candles15m =
      regularCandles session.openMs shorter.triggerCandleCloseTimeMs shorter.candles15m := by
    apply candles_eq_of_inSequence (h.candles15m.filter _) _ (by decide) (not_not.1 sequence)
      (not_not.1 sequenceLonger)
    rintro empty
    exact missing (Or.inl (by unfold regularCandles; rw [empty]; decide))
  rw [same, if_neg missing, if_neg missing, if_neg sequence, if_neg sequence, if_neg enough,
    if_neg enoughLonger, rtake_of_suffix h.candles15m (by omega)]
  unfold usSorVerdict
  rw [factSnapshot_of_olderHistory h, computedResult_of_olderHistory h]

theorem usSorEvaluate_of_olderHistory (h : OlderHistory shorter longer)
    (judged : NotInvalid (usSorEvaluate arithmetic contract shorter))
    (judgedLonger : NotInvalid (usSorEvaluate arithmetic contract longer)) :
    usSorEvaluate arithmetic contract longer = usSorEvaluate arithmetic contract shorter := by
  unfold usSorEvaluate at judged judgedLonger ⊢
  obtain ⟨scope, rest⟩ := notInvalid_inScope judged
  obtain ⟨scopeLonger, restLonger⟩ := notInvalid_inScope judgedLonger
  rw [inScope_of_none scope, inScope_of_none scopeLonger]
  rw [h.productSession, h.trigger] at restLonger ⊢
  cases hProduct : shorter.productSession with
  | none => rfl
  | some product =>
      simp only [hProduct] at rest restLonger ⊢
      obtain ⟨stale, rest⟩ := notInvalid_ite rest
      obtain ⟨-, restLonger⟩ := notInvalid_ite restLonger
      obtain ⟨unavailable, rest⟩ := notInvalid_ite rest
      obtain ⟨-, restLonger⟩ := notInvalid_ite restLonger
      rw [if_neg stale, if_neg unavailable, if_neg stale, if_neg unavailable]
      by_cases irregular : product.sessionState ≠ .regular
      · rw [if_pos irregular, if_pos irregular]
      rw [if_neg irregular] at rest restLonger
      rw [if_neg irregular, if_neg irregular]
      obtain ⟨unusable, rest⟩ := notInvalid_ite rest
      obtain ⟨-, restLonger⟩ := notInvalid_ite restLonger
      rw [if_neg unusable, if_neg unusable]
      cases hSession : product.regularSession with
      | none => simp only [demand, bind, Except.bind]
      | some session =>
          simp only [hSession, demand, bind, Except.bind] at rest restLonger ⊢
          exact usSorSession_of_olderHistory arithmetic h session rest restLonger

end Independent

/-! ### Readings that return -/

section Returns

variable {candles : List ClosedCandle}

theorem exists_candleFromEnd {k : ℕ} (positive : 0 < k) (within : k ≤ candles.length) :
    ∃ candle, candleFromEnd candles k = .ok candle := by
  obtain ⟨candle, -, returned⟩ := exists_fromEnd? positive within
  exact ⟨candle, demand_eq_ok.2 returned⟩

theorem exists_firstCandle (nonempty : candles ≠ []) :
    ∃ candle, firstCandle candles = .ok candle := by
  obtain ⟨candle, rest, rfl⟩ := List.exists_cons_of_ne_nil nonempty
  exact ⟨candle, rfl⟩

theorem exists_highestHigh (nonempty : candles ≠ []) :
    ∃ value, highestHigh candles = .ok value ∧ 0 < value := by
  have some : (candles.map (·.high)).max?.isSome := by simpa using nonempty
  obtain ⟨value, hValue⟩ := Option.isSome_iff_exists.1 some
  obtain ⟨candle, -, rfl⟩ := List.mem_map.1 (List.max?_mem hValue)
  exact ⟨candle.high, demand_eq_ok.2 hValue, candle.positive.2.1⟩

theorem exists_lowestLow (nonempty : candles ≠ []) :
    ∃ value, lowestLow candles = .ok value ∧ 0 < value := by
  have some : (candles.map (·.low)).min?.isSome := by simpa using nonempty
  obtain ⟨value, hValue⟩ := Option.isSome_iff_exists.1 some
  obtain ⟨candle, -, rfl⟩ := List.mem_map.1 (List.min?_mem hValue)
  exact ⟨candle.low, demand_eq_ok.2 hValue, candle.positive.2.2.1⟩

/-- A lookback of the window without its last candle is not empty. -/
theorem lookback_ne_nil {k : ℕ} (long : 2 ≤ k) (within : k ≤ candles.length) :
    (candles.rtake k).dropLast ≠ [] := by
  apply List.ne_nil_of_length_pos
  rw [List.length_dropLast, length_rtake]
  omega

theorem exists_netPct (enough : 1 ≤ candles.length) : ∃ net, netPct arithmetic candles = .ok net := by
  obtain ⟨last, hLast⟩ := exists_candleFromEnd one_pos enough
  obtain ⟨first, hFirst⟩ := exists_firstCandle (List.ne_nil_of_length_pos enough)
  unfold netPct
  rw [hLast, hFirst]
  exact ⟨_, rfl⟩

theorem exists_mpgReading (enough : 16 ≤ candles.length) :
    ∃ reading, mpgReading arithmetic candles = .ok reading ∧ 0 < reading.momentumFloor := by
  obtain ⟨latest, hLatest⟩ : ∃ latest, candleFromEnd candles 1 = .ok latest :=
    exists_candleFromEnd one_pos (by omega)
  have lookback : (candles.rtake 9).dropLast ≠ [] := lookback_ne_nil (by omega) (by omega)
  obtain ⟨first, hFirst⟩ := exists_firstCandle lookback
  obtain ⟨high, hHigh, -⟩ := exists_highestHigh lookback
  have floorLookback : (candles.rtake 6).dropLast ≠ [] := lookback_ne_nil (by omega) (by omega)
  obtain ⟨floor, hFloor, positive⟩ := exists_lowestLow floorLookback
  unfold mpgReading
  simp only [hLatest, hFirst, hHigh, hFloor, bind, Except.bind]
  exact ⟨_, rfl, positive⟩

theorem exists_brf2Reading (enough : 12 ≤ candles.length) :
    ∃ reading, brf2Reading arithmetic candles = .ok reading ∧ 0 < reading.rallyHigh := by
  obtain ⟨latest, hLatest⟩ : ∃ latest, candleFromEnd candles 1 = .ok latest :=
    exists_candleFromEnd one_pos (by omega)
  obtain ⟨previous, hPrevious⟩ : ∃ previous, candleFromEnd candles 2 = .ok previous :=
    exists_candleFromEnd two_pos (by omega)
  have lookback : (candles.rtake 9).dropLast ≠ [] := lookback_ne_nil (by omega) (by omega)
  obtain ⟨low, hLow, -⟩ := exists_lowestLow lookback
  obtain ⟨high, hHigh, positive⟩ := exists_highestHigh
    (List.append_ne_nil_of_left_ne_nil lookback [latest])
  unfold brf2Reading
  simp only [hLatest, hPrevious, hLow, hHigh, bind, Except.bind]
  exact ⟨_, rfl, positive⟩

end Returns

/-! ### The four-hour context of MPG and BRF2 -/

/-- The last close of the candles is above the first one by at least `threshold` percent. -/
def RisesBy (threshold : ℚ) (candles : List ClosedCandle) : Prop :=
  ∃ net, netPct arithmetic candles = .ok net ∧ threshold ≤ net

/-- The one-hour candles satisfy their part of the momentum condition of MPG. -/
def HourPersists (candles : List ClosedCandle) : Prop :=
  ∃ reading, mpgReading arithmetic candles = .ok reading ∧ reading.Persists

/-- What the verdict of MPG and BRF2 takes from the whole four-hour window is the same in both. -/
def ContextAgrees (contract : RegisteredStrategyContract) (shorter longer : MarketSnapshot) : Prop :=
  match contract.eventId with
  | .mpgLong => HourPersists arithmetic shorter.candles1h →
      (RisesBy arithmetic 0.8 shorter.candles4h ↔ RisesBy arithmetic 0.8 longer.candles4h)
  | .brf2Short =>
      RisesBy arithmetic 3.0 shorter.candles4h ↔ RisesBy arithmetic 3.0 longer.candles4h
  | _ => True

theorem risesBy_iff {threshold net : ℚ} {candles : List ClosedCandle}
    (h : netPct arithmetic candles = .ok net) : RisesBy arithmetic threshold candles ↔ threshold ≤ net := by
  unfold RisesBy
  rw [h]
  simp

/-- Two outcomes of which only one gives a reason have different verdicts. -/
theorem verdict_ne_of_reason {first second : Except String DetectorResult} {reasonCode : String}
    (gives : ∃ result, first = .ok result ∧ result.reasonCode = reasonCode)
    (avoids : ∀ result, second = .ok result → result.reasonCode ≠ reasonCode) :
    first.map DetectorResult.verdict ≠ second.map DetectorResult.verdict := by
  obtain ⟨result, rfl, reason⟩ := gives
  intro same
  cases second with
  | error error => simp [Except.map] at same
  | ok other =>
      have verdicts : result.verdict = other.verdict := by simpa [Except.map] using same
      exact avoids other rfl ((congrArg Verdict.reasonCode verdicts).symm.trans reason)

/-- A flag of which one value gives a reason and the other avoids it can be read off the verdict. -/
theorem flag_eq_of_same_verdict {outcome : Bool → Except String DetectorResult} {flag : Bool}
    {reasonCode : String}
    (gives : ∃ result, outcome flag = .ok result ∧ result.reasonCode = reasonCode)
    (avoids : ∀ result, outcome (!flag) = .ok result → result.reasonCode ≠ reasonCode)
    {first second : Bool}
    (same : (outcome first).map DetectorResult.verdict = (outcome second).map DetectorResult.verdict) :
    first = second := by
  have apart := verdict_ne_of_reason gives avoids
  by_contra differ
  by_cases isFlag : first = flag
  · subst isFlag
    rw [Bool.eq_not_of_ne (Ne.symm differ)] at same
    exact apart same
  · obtain rfl : second = flag := by
      cases first <;> cases second <;> cases flag <;> simp_all
    rw [Bool.eq_not_of_ne differ] at same
    exact apart same.symm

section MPG

variable {snapshot shorter longer : MarketSnapshot}

theorem mpgVerdict_of_olderHistory (h : OlderHistory shorter longer) :
    mpgVerdict mpgLong longer = mpgVerdict mpgLong shorter := by
  funext momentumFloor momentumConfirmed
  unfold mpgVerdict mpgComparativeInvalidReason
  rw [factSnapshot_of_olderHistory h, computedResult_of_olderHistory h,
    comparativeInvalidReasonOf_of_olderHistory h, h.comparativeStrength, h.exchangeInstrumentId]

theorem mpgVerdict_unconfirmed (snapshot : MarketSnapshot) {momentumFloor : ℚ}
    (positive : 0 < momentumFloor) :
    ∃ result, mpgVerdict mpgLong snapshot momentumFloor false = .ok result ∧
      result.reasonCode = "mpg_no_action_momentum_persistence_not_confirmed" := by
  obtain ⟨momentum, hMomentum, momentumId⟩ := exists_factSnapshot mpgLong snapshot false
    (show mpgLong.facts.find? (fun item => item.factName = "momentum_persistence_confirmed") =
      some (fact "momentum_persistence_confirmed" .condition 3600000 1) by rfl)
    (by decide) (Or.inl ⟨by decide, false, rfl⟩)
  obtain ⟨leader, hLeader, leaderId⟩ := exists_factSnapshot mpgLong snapshot false
    (show mpgLong.facts.find? (fun item => item.factName = "leader_strength_confirmed") =
      some (fact "leader_strength_confirmed" .condition 3600000 1) by rfl)
    (by decide) (Or.inl ⟨by decide, false, rfl⟩)
  obtain ⟨reference, hReference, referenceId⟩ := exists_factSnapshot mpgLong snapshot true
    (show mpgLong.facts.find? (fun item => item.factName = "momentum_floor_reference") =
      some (fact "momentum_floor_reference" .protectionReference 3600000 1) by rfl)
    (by decide) (Or.inr ⟨by decide, momentumFloor, rfl, positive⟩)
  unfold mpgVerdict
  simp only [hMomentum, hLeader, hReference, bind, Except.bind, Bool.false_eq_true, not_false_iff,
    if_true]
  apply exists_computedResult
  rw [List.map_cons, List.map_cons, List.map_cons, momentumId, leaderId, referenceId]
  decide

theorem comparativeInvalidReasonOf_eq_some {strategyGroupId missing scope stale reason : String}
    {lookbackBars : ℤ}
    (h : comparativeInvalidReasonOf strategyGroupId lookbackBars missing scope stale snapshot =
      some reason) : reason = missing ∨ reason = scope ∨ reason = stale := by
  unfold comparativeInvalidReasonOf at h
  split at h
  · exact Or.inl (Option.some.inj h).symm
  · split_ifs at h with mismatch late
    · exact Or.inr (Or.inl (Option.some.inj h).symm)
    · exact Or.inr (Or.inr (Option.some.inj h).symm)

theorem mpgVerdict_confirmed (snapshot : MarketSnapshot) {momentumFloor : ℚ}
    {result : DetectorResult} (h : mpgVerdict mpgLong snapshot momentumFloor true = .ok result) :
    result.reasonCode ≠ "mpg_no_action_momentum_persistence_not_confirmed" := by
  unfold mpgVerdict at h
  simp only [not_true, if_false] at h
  obtain ⟨momentum, -, h⟩ := bind_eq_ok.1 h
  obtain ⟨unconfirmed, -, h⟩ := bind_eq_ok.1 h
  obtain ⟨reference, -, h⟩ := bind_eq_ok.1 h
  split at h
  · rename_i reason hReason
    rw [invalidResult_reason h]
    rcases comparativeInvalidReasonOf_eq_some hReason with rfl | rfl | rfl <;> decide
  · obtain ⟨comparative, -, h⟩ := bind_eq_ok.1 h
    split at h
    · rw [invalidResult_reason h]
      decide
    · obtain ⟨leader, -, h⟩ := bind_eq_ok.1 h
      rw [computedResult_reason h]
      split_ifs <;> decide

/-- Once MPG judges its input, its verdict rests on the hour and on the four-hour change. -/
theorem mpgEvaluate_eq (judged : NotInvalid (mpgEvaluate arithmetic mpgLong snapshot)) :
    16 ≤ snapshot.candles1h.length ∧ 4 ≤ snapshot.candles4h.length ∧
      mpgEvaluate arithmetic mpgLong snapshot = (do
        let reading ← mpgReading arithmetic snapshot.candles1h
        let fourHourNetPct ← netPct arithmetic snapshot.candles4h
        mpgVerdict mpgLong snapshot reading.momentumFloor
          (decide (0.8 ≤ fourHourNetPct ∧ reading.Persists))) := by
  unfold mpgEvaluate at judged ⊢
  obtain ⟨scope, rest⟩ := notInvalid_inScope judged
  obtain ⟨enough, rest⟩ := notInvalid_ite rest
  have enough4 := (notInvalid_ite rest).1
  rw [inScope_of_none scope, if_neg enough, if_neg enough4]
  exact ⟨not_lt.1 enough, not_lt.1 enough4, rfl⟩

theorem mpgEvaluate_same_iff (h : OlderHistory shorter longer)
    (judged : NotInvalid (mpgEvaluate arithmetic mpgLong shorter))
    (judgedLonger : NotInvalid (mpgEvaluate arithmetic mpgLong longer)) :
    (mpgEvaluate arithmetic mpgLong shorter).map DetectorResult.verdict =
        (mpgEvaluate arithmetic mpgLong longer).map DetectorResult.verdict ↔
      ContextAgrees arithmetic mpgLong shorter longer := by
  obtain ⟨enough, enough4, evaluated⟩ := mpgEvaluate_eq arithmetic judged
  obtain ⟨-, enough4Longer, evaluatedLonger⟩ := mpgEvaluate_eq arithmetic judgedLonger
  obtain ⟨reading, hReading, positive⟩ := exists_mpgReading arithmetic enough
  obtain ⟨net, hNet⟩ := exists_netPct arithmetic (show 1 ≤ shorter.candles4h.length by omega)
  obtain ⟨netLonger, hNetLonger⟩ :=
    exists_netPct arithmetic (show 1 ≤ longer.candles4h.length by omega)
  have persists : HourPersists arithmetic shorter.candles1h ↔ reading.Persists := by
    unfold HourPersists
    rw [hReading]
    simp
  rw [evaluated, evaluatedLonger, mpgReading_of_suffix arithmetic h.candles1h enough,
    mpgVerdict_of_olderHistory h, hReading, hNet, hNetLonger]
  show _ ↔ (HourPersists arithmetic shorter.candles1h → (RisesBy arithmetic 0.8 shorter.candles4h ↔
    RisesBy arithmetic 0.8 longer.candles4h))
  rw [persists, risesBy_iff arithmetic hNet, risesBy_iff arithmetic hNetLonger]
  simp only [bind, Except.bind]
  constructor
  · intro same momentum
    have flags := flag_eq_of_same_verdict (mpgVerdict_unconfirmed shorter positive)
      (fun _ => mpgVerdict_confirmed shorter) same
    have gates := decide_eq_decide.1 flags
    exact ⟨fun rises => (gates.1 ⟨rises, momentum⟩).1, fun rises => (gates.2 ⟨rises, momentum⟩).1⟩
  · intro agrees
    have gate : ((0.8 : ℚ) ≤ net ∧ reading.Persists) ↔ ((0.8 : ℚ) ≤ netLonger ∧ reading.Persists) :=
      ⟨fun both => ⟨(agrees both.2).1 both.1, both.2⟩, fun both => ⟨(agrees both.2).2 both.1, both.2⟩⟩
    rw [decide_eq_decide.2 gate]

end MPG

section BRF2

variable {snapshot shorter longer : MarketSnapshot}

theorem brf2Verdict_of_olderHistory (h : OlderHistory shorter longer) :
    brf2Verdict brf2Short longer = brf2Verdict brf2Short shorter := by
  funext reading strongUptrendDisable
  unfold brf2Verdict
  rw [factSnapshot_of_olderHistory h, computedResult_of_olderHistory h]

theorem brf2Verdict_disabled (snapshot : MarketSnapshot) {reading : BRF2Reading}
    (positive : 0 < reading.rallyHigh) :
    ∃ result, brf2Verdict brf2Short snapshot reading true = .ok result ∧
      result.reasonCode = "brf2_no_action_strong_uptrend_disable" := by
  obtain ⟨failure, hFailure, failureId⟩ := exists_factSnapshot brf2Short snapshot
    (reading.rallyExtensionConfirmed && reading.rejectionConfirmed)
    (show brf2Short.facts.find? (fun item => item.factName = "rally_failure_confirmed") =
      some (fact "rally_failure_confirmed" .condition 3600000 1) by rfl)
    (by decide) (Or.inl ⟨by decide, reading.rallyExtensionConfirmed && reading.rejectionConfirmed, rfl⟩)
  obtain ⟨allowed, hAllowed, allowedId⟩ := exists_factSnapshot brf2Short snapshot false
    (show brf2Short.facts.find? (fun item => item.factName = "short_side_not_disabled") =
      some (fact "short_side_not_disabled" .condition 3600000 1) by rfl)
    (by decide) (Or.inl ⟨by decide, false, rfl⟩)
  obtain ⟨reference, hReference, referenceId⟩ := exists_factSnapshot brf2Short snapshot true
    (show brf2Short.facts.find? (fun item => item.factName = "rally_high_reference") =
      some (fact "rally_high_reference" .protectionReference 3600000 1) by rfl)
    (by decide) (Or.inr ⟨by decide, reading.rallyHigh, rfl, positive⟩)
  obtain ⟨disable, hDisable, disableId⟩ := exists_factSnapshot brf2Short snapshot true
    (show brf2Short.facts.find? (fun item => item.factName = "strong_uptrend_disable") =
      some (fact "strong_uptrend_disable" .disable 3600000 1) by rfl)
    (by decide) (Or.inl ⟨by decide, true, rfl⟩)
  unfold brf2Verdict
  simp only [Bool.not_true, Bool.and_false, hFailure, hAllowed, hReference, hDisable, bind,
    Except.bind, if_true]
  apply exists_computedResult
  rw [List.map_cons, List.map_cons, List.map_cons, List.map_cons, failureId, allowedId,
    referenceId, disableId]
  decide

theorem brf2Verdict_enabled (snapshot : MarketSnapshot) {reading : BRF2Reading}
    {result : DetectorResult} (h : brf2Verdict brf2Short snapshot reading false = .ok result) :
    result.reasonCode ≠ "brf2_no_action_strong_uptrend_disable" := by
  unfold brf2Verdict at h
  obtain ⟨failure, -, h⟩ := bind_eq_ok.1 h
  obtain ⟨allowed, -, h⟩ := bind_eq_ok.1 h
  obtain ⟨reference, -, h⟩ := bind_eq_ok.1 h
  obtain ⟨disable, -, h⟩ := bind_eq_ok.1 h
  rw [computedResult_reason h, if_neg Bool.false_ne_true]
  split_ifs <;> decide

/-- Once BRF2 judges its input, its verdict rests on the hour and on the four-hour change. -/
theorem brf2Evaluate_eq (judged : NotInvalid (brf2Evaluate arithmetic brf2Short snapshot)) :
    12 ≤ snapshot.candles1h.length ∧ 2 ≤ snapshot.candles4h.length ∧
      brf2Evaluate arithmetic brf2Short snapshot = (do
        let reading ← brf2Reading arithmetic snapshot.candles1h
        let htfNetPct ← netPct arithmetic snapshot.candles4h
        brf2Verdict brf2Short snapshot reading (decide (3.0 ≤ htfNetPct))) := by
  unfold brf2Evaluate at judged ⊢
  obtain ⟨scope, rest⟩ := notInvalid_inScope judged
  obtain ⟨enough, rest⟩ := notInvalid_ite rest
  have enough4 := (notInvalid_ite rest).1
  rw [inScope_of_none scope, if_neg enough, if_neg enough4]
  exact ⟨not_lt.1 enough, not_lt.1 enough4, rfl⟩

theorem brf2Evaluate_same_iff (h : OlderHistory shorter longer)
    (judged : NotInvalid (brf2Evaluate arithmetic brf2Short shorter))
    (judgedLonger : NotInvalid (brf2Evaluate arithmetic brf2Short longer)) :
    (brf2Evaluate arithmetic brf2Short shorter).map DetectorResult.verdict =
        (brf2Evaluate arithmetic brf2Short longer).map DetectorResult.verdict ↔
      ContextAgrees arithmetic brf2Short shorter longer := by
  obtain ⟨enough, enough4, evaluated⟩ := brf2Evaluate_eq arithmetic judged
  obtain ⟨-, enough4Longer, evaluatedLonger⟩ := brf2Evaluate_eq arithmetic judgedLonger
  obtain ⟨reading, hReading, positive⟩ := exists_brf2Reading arithmetic enough
  obtain ⟨net, hNet⟩ := exists_netPct arithmetic (show 1 ≤ shorter.candles4h.length by omega)
  obtain ⟨netLonger, hNetLonger⟩ :=
    exists_netPct arithmetic (show 1 ≤ longer.candles4h.length by omega)
  rw [evaluated, evaluatedLonger, brf2Reading_of_suffix arithmetic h.candles1h enough,
    brf2Verdict_of_olderHistory h, hReading, hNet, hNetLonger]
  show _ ↔ (RisesBy arithmetic 3.0 shorter.candles4h ↔ RisesBy arithmetic 3.0 longer.candles4h)
  rw [risesBy_iff arithmetic hNet, risesBy_iff arithmetic hNetLonger]
  simp only [bind, Except.bind]
  constructor
  · intro same
    have flags := flag_eq_of_same_verdict (brf2Verdict_disabled shorter positive)
      (fun _ => brf2Verdict_enabled shorter) same
    exact decide_eq_decide.1 flags
  · intro agrees
    rw [decide_eq_decide.2 agrees]

end BRF2

/-! ### Every registered detector -/

theorem evaluate_registered {contract : RegisteredStrategyContract}
    (registered : contract ∈ registeredStrategyContracts) (snapshot : MarketSnapshot) :
    evaluate arithmetic contract.eventSpecId snapshot = detect arithmetic contract snapshot := by
  let table : Table RegisteredStrategyContract.eventSpecId :=
    ⟨registeredStrategyContracts, registered_event_specs_nodup⟩
  have found : registeredStrategyContracts.find?
      (fun other => other.eventSpecId = contract.eventSpecId) = some contract :=
    Table.lookup_of_mem (show contract ∈ table from registered)
  unfold evaluate
  rw [found]
  rfl

/-- The detectors other than MPG and BRF2 do not see older candles. -/
theorem detect_of_olderHistory {contract : RegisteredStrategyContract}
    {shorter longer : MarketSnapshot} (h : OlderHistory shorter longer)
    (notMpg : contract.eventId ≠ .mpgLong) (notBrf2 : contract.eventId ≠ .brf2Short)
    (judged : NotInvalid (detect arithmetic contract shorter))
    (judgedLonger : NotInvalid (detect arithmetic contract longer)) :
    detect arithmetic contract longer = detect arithmetic contract shorter := by
  unfold detect at judged judgedLonger ⊢
  cases event : contract.eventId with
  | mpgLong => exact absurd event notMpg
  | brf2Short => exact absurd event notBrf2
  | cpmLong =>
      rw [event] at judged judgedLonger
      exact cpmEvaluate_of_olderHistory arithmetic h judged judgedLonger
  | miLong =>
      rw [event] at judged judgedLonger
      exact miEvaluate_of_olderHistory arithmetic h judged judgedLonger
  | sorLong | sorShort =>
      rw [event] at judged judgedLonger
      exact sorEvaluate_of_olderHistory h judged judgedLonger
  | sorUsLong15m | sorUsShort15m =>
      rw [event] at judged judgedLonger
      exact usSorEvaluate_of_olderHistory arithmetic h judged judgedLonger
  | sor1hLong | sor1hShort =>
      rw [event] at judged judgedLonger
      dsimp only at judged judgedLonger ⊢
      by_cases other : contract.eventSpecId ∉ orbEventSpecIds ∨
          contract.strategyGroupId ≠ "SOR-1H-001" ∨ contract.timeframe ≠ .oneHour
      · unfold refuse
        simp only [if_pos other, bind, Except.bind]
      · unfold refuse at judged judgedLonger ⊢
        rw [if_neg other] at judged judgedLonger ⊢
        exact sor1hEvaluate_of_olderHistory h judged judgedLonger

/-- **Two windows of one moment get the same verdict exactly where MPG's and BRF2's four-hour
changes fall on the same side of their thresholds.** -/
theorem verdict_same_iff_context_agrees {contract : RegisteredStrategyContract}
    (registered : contract ∈ registeredStrategyContracts) {shorter longer : MarketSnapshot}
    (h : OlderHistory shorter longer)
    (judged : NotInvalid (evaluate arithmetic contract.eventSpecId shorter))
    (judgedLonger : NotInvalid (evaluate arithmetic contract.eventSpecId longer)) :
    (evaluate arithmetic contract.eventSpecId shorter).map DetectorResult.verdict =
        (evaluate arithmetic contract.eventSpecId longer).map DetectorResult.verdict ↔
      ContextAgrees arithmetic contract shorter longer := by
  rw [evaluate_registered arithmetic registered] at judged judgedLonger ⊢
  rw [evaluate_registered arithmetic registered]
  by_cases mpg : contract.eventId = .mpgLong
  · obtain rfl : contract = mpgLong :=
      List.inj_on_of_nodup_map registered_events_nodup registered
        (by simp [registeredStrategyContracts]) mpg
    exact mpgEvaluate_same_iff arithmetic h judged judgedLonger
  by_cases brf2 : contract.eventId = .brf2Short
  · obtain rfl : contract = brf2Short :=
      List.inj_on_of_nodup_map registered_events_nodup registered
        (by simp [registeredStrategyContracts]) brf2
    exact brf2Evaluate_same_iff arithmetic h judged judgedLonger
  rw [detect_of_olderHistory arithmetic h mpg brf2 judged judgedLonger]
  have unconditional : ContextAgrees arithmetic contract shorter longer := by
    unfold ContextAgrees
    split
    · contradiction
    · contradiction
    · trivial
  exact iff_of_true rfl unconditional

/-! ### A loader limit that turns a short signal off -/

/-- Arithmetic without rounding. -/
def exactArithmetic : Arithmetic where
  add a b := a + b
  sub a b := a - b
  mul a b := a * b
  div a b := a / b
  abs a := |a|

def sampleTriggerMs : ℤ := 1800000000000

/-- Twelve hours of a rally that is rejected at its end. -/
def rejectedRally : List ClosedCandle :=
  let rows : List (ℚ × ℚ × ℚ × ℚ) :=
    [(101, 102, 99, 100), (100, 103, 99, 102), (102, 105, 101, 104), (104, 106, 103, 105),
      (105, 108, 104, 107), (107, 109, 106, 108), (108, 110, 107, 109), (109, 111, 108, 110),
      (110, 112, 109, 111), (111, 113, 110, 112), (112, 113, 109, 111), (111, 114, 105, 106)]
  rows.zipIdx.filterMap fun entry =>
    closedCandle (sampleTriggerMs - (12 - entry.2) * 3600000)
      (sampleTriggerMs - (11 - entry.2) * 3600000) entry.1.1 entry.1.2.1 entry.1.2.2.1 entry.1.2.2.2 1

/-- Twenty-five four-hour candles at one price, of which the oldest stands lower. -/
def risenContext : List ClosedCandle :=
  (List.range 25).filterMap fun index =>
    let price : ℚ := if index = 0 then 96 else 100
    closedCandle (sampleTriggerMs - (25 - index) * 14400000)
      (sampleTriggerMs - (24 - index) * 14400000) price price price price 1

/-- The sample market as a loader sees it whose four-hour limit is `limit`. -/
def sampleSnapshot (limit : ℕ) (valid : ClosedWindow sampleTriggerMs
    (fetch risenContext limit sampleTriggerMs)) : MarketSnapshot where
  exchangeInstrumentId := "binance-usdm:ETHUSDT:perpetual"
  triggerCandleCloseTimeMs := sampleTriggerMs
  candles15m := []
  candles1h := rejectedRally
  candles4h := fetch risenContext limit sampleTriggerMs
  comparativeStrength := none
  productSession := none
  trigger_pos := by decide
  window15m := ⟨List.Pairwise.nil, by simp⟩
  window1h := ⟨by decide +kernel, by decide +kernel⟩
  window4h := valid
  session_instrument := by simp

def sampleOf24 : MarketSnapshot := sampleSnapshot 24 ⟨by decide +kernel, by decide +kernel⟩
def sampleOf25 : MarketSnapshot := sampleSnapshot 25 ⟨by decide +kernel, by decide +kernel⟩

theorem olderHistory_sample : OlderHistory sampleOf24 sampleOf25 where
  exchangeInstrumentId := rfl
  trigger := rfl
  comparativeStrength := rfl
  productSession := rfl
  candles15m := List.suffix_refl _
  candles1h := List.suffix_refl _
  candles4h := fetch_suffix_fetch _ _ (by decide)

theorem verdict_sampleOf24 :
    (evaluate exactArithmetic brf2Short.eventSpecId sampleOf24).map DetectorResult.verdict =
      .ok ⟨.triggered, "brf2_short_bear_rally_failure", some sampleTriggerMs,
        some (.decimal 114)⟩ := by
  decide +kernel

theorem verdict_sampleOf25 :
    (evaluate exactArithmetic brf2Short.eventSpecId sampleOf25).map DetectorResult.verdict =
      .ok ⟨.notTriggered, "brf2_no_action_strong_uptrend_disable", none, some (.decimal 114)⟩ := by
  decide +kernel

theorem notInvalid_of_verdict {outcome : Except String DetectorResult} {verdict : Verdict}
    (h : outcome.map DetectorResult.verdict = .ok verdict) (valid : verdict.status ≠ .invalid) :
    NotInvalid outcome := by
  rintro result rfl
  have same : result.verdict = verdict := by simpa [Except.map] using h
  rw [← same] at valid
  exact valid

/-- One four-hour candle more turns a short signal into no action. -/
theorem older_candle_turns_signal_off :
    OlderHistory sampleOf24 sampleOf25 ∧
      NotInvalid (evaluate exactArithmetic brf2Short.eventSpecId sampleOf24) ∧
      NotInvalid (evaluate exactArithmetic brf2Short.eventSpecId sampleOf25) ∧
      (evaluate exactArithmetic brf2Short.eventSpecId sampleOf24).map DetectorResult.verdict ≠
        (evaluate exactArithmetic brf2Short.eventSpecId sampleOf25).map DetectorResult.verdict := by
  refine ⟨olderHistory_sample, notInvalid_of_verdict verdict_sampleOf24 (by decide),
    notInvalid_of_verdict verdict_sampleOf25 (by decide), ?_⟩
  rw [verdict_sampleOf24, verdict_sampleOf25]
  decide

theorem verdict_same_iff_context_agrees_of_sample :
    (evaluate exactArithmetic brf2Short.eventSpecId sampleOf24).map DetectorResult.verdict =
        (evaluate exactArithmetic brf2Short.eventSpecId sampleOf25).map DetectorResult.verdict ↔
      ContextAgrees exactArithmetic brf2Short sampleOf24 sampleOf25 :=
  verdict_same_iff_context_agrees exactArithmetic (by simp [registeredStrategyContracts])
    olderHistory_sample (notInvalid_of_verdict verdict_sampleOf24 (by decide))
    (notInvalid_of_verdict verdict_sampleOf25 (by decide))

end TradingKernel.Detectors
