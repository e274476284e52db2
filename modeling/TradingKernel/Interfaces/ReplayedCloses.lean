/-
**A replayed close triggers where live observation does.**

Up to midnight the snapshot of a replayed close is the one that live observation loads at it, and the
close at midnight, which live observation counts to the next day, triggers in neither
(`triggers_iff`).
-/

import TradingKernel.Interfaces.GapAuditSource

namespace TradingKernel.Observation

open Authority Detectors Guard Scan SortBy Text Windows

/-! ### The closes of a session -/


/-- The contracts of the daily sessions, of hours or of quarters of an hour. -/
def DailyEvent (hourly : Bool) (contract : RegisteredStrategyContract) : Prop :=
  if hourly then contract = sor1hLong ∨ contract = sor1hShort
  else contract = sorLong ∨ contract = sorShort

/-- A session from midnight on whose candles a source has up to a time, all of them and in order. -/
structure CompleteSession (history : List ClosedCandle) (hourly : Bool)
    (startMs interval : ℤ) (candles : List ClosedCandle) : Prop where
  interval_eq : interval = if hourly then Detectors.hourMs else 900000
  positive : 0 < startMs
  midnight : startMs % dayMs = 0
  ordered : history.Pairwise fun earlier later => earlier.openTimeMs < later.openTimeMs
  shown : candles = sessionCandles history startMs (startMs + candles.length * interval)
  sequence : InSequence startMs interval candles
  within : candles.length * interval ≤ dayMs

namespace CompleteSession

variable {history candles : List ClosedCandle} {hourly : Bool} {startMs interval : ℤ} {k : ℕ}

theorem interval_pos (session : CompleteSession history hourly startMs interval candles) :
    0 < interval := by
  rw [session.interval_eq]
  cases hourly with
  | true => decide
  | false => decide

/-- Before midnight a close is one of the session's day. -/
theorem day_of_close (session : CompleteSession history hourly startMs interval candles)
    (today : k * interval < dayMs) : (startMs + k * interval) / dayMs * dayMs = startMs := by
  have nonneg : 0 ≤ (k : ℤ) * interval :=
    mul_nonneg (Int.natCast_nonneg k) session.interval_pos.le
  have midnight := session.midnight
  unfold dayMs at *
  omega

/-- The close at midnight is one of the next day. -/
theorem day_of_end (session : CompleteSession history hourly startMs interval candles)
    (midnight : k * interval = dayMs) :
    (startMs + k * interval) / dayMs * dayMs = startMs + k * interval := by
  have aligned := session.midnight
  rw [midnight]
  unfold dayMs at *
  omega

theorem close_pos (session : CompleteSession history hourly startMs interval candles) (k : ℕ) :
    0 < startMs + k * interval :=
  add_pos_of_pos_of_nonneg session.positive
    (mul_nonneg (Int.natCast_nonneg k) session.interval_pos.le)

theorem close_le (session : CompleteSession history hourly startMs interval candles)
    (within : k ≤ candles.length) :
    startMs + k * interval ≤ startMs + candles.length * interval :=
  add_le_add_right (mul_le_mul_of_nonneg_right (by exact_mod_cast within) session.interval_pos.le) _

/-- The candles up to a close are closed by then. -/
theorem window (session : CompleteSession history hourly startMs interval candles) (k : ℕ) :
    ClosedWindow (startMs + k * interval) (candles.take k) where
  ordered := (session.sequence.take k).ordered session.interval_pos
  closed candle member := by
    rw [← session.sequence.filter_closed session.interval_pos, List.mem_filter] at member
    exact of_decide_eq_true member.2

/-- A day has at most ninety-six quarters of an hour, and twenty-four hours. -/
theorem short (session : CompleteSession history hourly startMs interval candles) :
    candles.length ≤ if hourly then 24 else 96 := by
  have within := session.within
  rw [session.interval_eq] at within
  cases hourly with
  | true =>
      rw [if_pos rfl] at within ⊢
      unfold Detectors.hourMs dayMs at within
      omega
  | false =>
      rw [if_neg Bool.false_ne_true] at within ⊢
      unfold dayMs at within
      omega

/-- The hours up to a close of the day are all there. -/
theorem completeHours (session : CompleteSession history true startMs interval candles)
    (positive : 0 < k) (within : k ≤ candles.length) (today : k * interval < dayMs) :
    CompleteHours (startMs + k * interval) startMs (candles.take k) := by
  have length : (candles.take k).length = k := by
    rw [List.length_take]
    omega
  have sequence := session.sequence.take k
  have midnight := session.midnight
  obtain rfl : interval = Detectors.hourMs := session.interval_eq
  unfold CompleteHours
  unfold dayMs at *
  refine ⟨?_, ?_, ⟨?_, by omega⟩, ?_, sequence⟩
  · unfold Detectors.hourMs
    omega
  · intro empty
    rw [empty] at length
    exact positive.ne length
  · unfold Detectors.hourMs
    omega
  · rw [length, add_sub_cancel_left, Int.mul_ediv_cancel _ (by decide)]

/-- **The live window of a close is the session up to it.** -/
theorem sessionWindow_of_close (session : CompleteSession history hourly startMs interval candles)
    (within : k ≤ candles.length) (today : k * interval < dayMs) {limit : ℕ}
    (enough : candles.length ≤ limit) :
    sessionWindow (startMs + k * interval) (fetch history limit (startMs + k * interval)) =
      candles.take k := by
  conv_rhs => rw [session.shown]
  exact sessionWindow_eq session.ordered (session.shown ▸ session.sequence) session.interval_pos
    (session.close_le within) (within.trans enough) (session.day_of_close today)

/-- At midnight the live window of the new day is empty. -/
theorem sessionWindow_of_end (session : CompleteSession history hourly startMs interval candles)
    (midnight : k * interval = dayMs) (limit : ℕ) :
    sessionWindow (startMs + k * interval) (fetch history limit (startMs + k * interval)) = [] := by
  unfold sessionWindow
  rw [session.day_of_end midnight, List.filter_eq_nil_iff]
  intro candle member opens
  have closed := (List.mem_filter.mp (mem_of_mem_rtake member)).2
  have opensFirst := candle.window.2
  rw [decide_eq_true_eq] at opens closed
  omega

end CompleteSession

/-! ### What live observation and the replay find at a close -/

section Replays

variable (arithmetic : Arithmetic) {market : Market} {contract : RegisteredStrategyContract}
  {runtime : RuntimeScopeSnapshot} {scope : AuthorityGapScope} {members : List String}
  {projection : Option Comparative.ComparativeUniverseProjection}
  {productSession : Option ProductSessionSnapshot} {hourly : Bool} {startMs interval : ℤ}
  {history candles : List ClosedCandle} {k : ℕ}

/-- The timeframe of a session's candles. -/
def sessionTimeframe (hourly : Bool) : Timeframe := if hourly then .oneHour else .fifteenMinutes

/-- The detector of a daily event. -/
theorem evaluate_daily (event : DailyEvent hourly contract) (snapshot : MarketSnapshot) :
    evaluate arithmetic contract.eventSpecId snapshot =
      if hourly then sor1hEvaluate contract snapshot else sorEvaluate contract snapshot := by
  cases hourly with
  | true =>
      rcases event with rfl | rfl
      · rw [evaluate_registered arithmetic (by simp [registeredStrategyContracts])]
        rfl
      · rw [evaluate_registered arithmetic (by simp [registeredStrategyContracts])]
        rfl
  | false =>
      rcases event with rfl | rfl
      · rw [evaluate_registered arithmetic (by simp [registeredStrategyContracts])]
        rfl
      · rw [evaluate_registered arithmetic (by simp [registeredStrategyContracts])]
        rfl

/-- A daily event is loaded with the session window of its timeframe. -/
theorem load_daily (event : DailyEvent hourly contract) {triggerMs : ℤ} (positive : 0 < triggerMs) :
    loadMarketSnapshot market contract runtime triggerMs members projection productSession =
      let shown := sessionWindow triggerMs
        (fetch (market runtime.exchangeInstrumentId.text (sessionTimeframe hourly))
          (if hourly then 24 else 120) triggerMs)
      marketSnapshot runtime.exchangeInstrumentId triggerMs (if hourly then [] else shown)
        (if hourly then shown else []) [] none none := by
  have made (timeframe : Timeframe) (limit : ℕ) :
      fetchClosed market runtime.exchangeInstrumentId timeframe limit triggerMs =
        .ok (fetch (market runtime.exchangeInstrumentId.text timeframe) limit triggerMs) := by
    unfold fetchClosed
    rw [refuse_bind_eq_ok]
    exact ⟨not_le.mpr positive, rfl⟩
  unfold loadMarketSnapshot
  cases hourly with
  | true =>
      rcases event with rfl | rfl
      · dsimp only [sor1hLong, Detectors.contract]
        rw [made]
        rfl
      · dsimp only [sor1hShort, Detectors.contract]
        rw [made]
        rfl
  | false =>
      rcases event with rfl | rfl
      · dsimp only [sorLong, Detectors.contract]
        rw [made]
        rfl
      · dsimp only [sorShort, Detectors.contract]
        rw [made]
        rfl

/-- **Before midnight live observation and the replay judge one snapshot.** -/
theorem observe_of_today (event : DailyEvent hourly contract)
    (same : runtime.exchangeInstrumentId = scope.exchangeInstrumentId)
    (session : CompleteSession
      (market scope.exchangeInstrumentId.text (sessionTimeframe hourly)) hourly startMs interval candles)
    (within : k ≤ candles.length) (today : k * interval < dayMs) :
    observe arithmetic market contract runtime members projection productSession
        (startMs + k * interval) =
      replay arithmetic contract scope hourly candles (startMs + k * interval) k := by
  have enough : candles.length ≤ if hourly then 24 else 120 := by
    refine session.short.trans ?_
    cases hourly with
    | true => exact le_rfl
    | false => decide
  unfold observe replay replaySnapshot
  rw [load_daily event (session.close_pos k), same, session.sessionWindow_of_close within today enough]

/-- At midnight live observation sees nothing of the session. -/
theorem observe_of_end (event : DailyEvent hourly contract)
    (same : runtime.exchangeInstrumentId = scope.exchangeInstrumentId)
    (session : CompleteSession
      (market scope.exchangeInstrumentId.text (sessionTimeframe hourly)) hourly startMs interval candles)
    (midnight : k * interval = dayMs) :
    ∃ result, observe arithmetic market contract runtime members projection productSession
      (startMs + k * interval) = .ok result ∧ result.status = .invalid := by
  have empty : ClosedWindow (startMs + k * interval) [] := ⟨List.Pairwise.nil, nofun⟩
  obtain ⟨snapshot, taken, -, quarters, hours⟩ :=
    exists_marketSnapshot scope.exchangeInstrumentId (session.close_pos k) empty empty
  unfold observe
  rw [load_daily event (session.close_pos k), same, session.sessionWindow_of_end midnight]
  simp only [ite_self]
  rw [taken]
  show ∃ result, evaluate arithmetic contract.eventSpecId snapshot = .ok result ∧ _
  rw [evaluate_daily arithmetic event]
  cases hourly with
  | true =>
      refine sor1hEvaluate_of_other fun complete => ?_
      exact complete.2.1 hours
  | false =>
      refine sorEvaluate_of_few ?_
      rw [quarters]
      decide

/-- A replayed close is judged on the candles up to it. -/
theorem replay_eq (event : DailyEvent hourly contract)
    (session : CompleteSession history hourly startMs interval candles) (k : ℕ) :
    ∃ snapshot, replay arithmetic contract scope hourly candles (startMs + k * interval) k =
        (if hourly then sor1hEvaluate contract snapshot else sorEvaluate contract snapshot) ∧
      snapshot.triggerCandleCloseTimeMs = startMs + k * interval ∧
      snapshot.candles15m = (if hourly then [] else candles.take k) ∧
      snapshot.candles1h = if hourly then candles.take k else [] := by
  have empty : ClosedWindow (startMs + k * interval) [] := ⟨List.Pairwise.nil, nofun⟩
  have window := session.window k
  obtain ⟨snapshot, taken, trigger, quarters, hours⟩ := exists_marketSnapshot
    scope.exchangeInstrumentId (session.close_pos k)
    (show ClosedWindow _ (if hourly then [] else candles.take k) by split_ifs <;> assumption)
    (show ClosedWindow _ (if hourly then candles.take k else []) by split_ifs <;> assumption)
  refine ⟨snapshot, ?_, trigger, quarters, hours⟩
  unfold replay replaySnapshot
  rw [taken]
  exact evaluate_daily arithmetic event snapshot

/-- The first hour of a session without a range. -/
def Flat (hourly : Bool) (candles : List ClosedCandle) : Prop :=
  hourly = true ∧ ∃ first ∈ candles.head?, first.high ≤ first.low

/-- The number of closes of a session up to the first that can trigger. -/
def firstBar (hourly : Bool) : ℕ := if hourly then 2 else 5

/-- **A close of the day, replayed**: it is judged valid, but for a session without a range. -/
theorem replay_of_today (event : DailyEvent hourly contract)
    (session : CompleteSession history hourly startMs interval candles) (inside : firstBar hourly ≤ k)
    (within : k ≤ candles.length) (today : k * interval < dayMs) :
    (Flat hourly candles ∧ ∃ result, replay arithmetic contract scope hourly candles
        (startMs + k * interval) k = .ok result ∧ result.status = .invalid) ∨
      (¬ Flat hourly candles ∧ ∃ triggered, Judged contract (replay arithmetic contract scope hourly
        candles (startMs + k * interval) k) triggered startMs) := by
  obtain ⟨snapshot, replayed, trigger, quarters, hours⟩ := replay_eq arithmetic event session k
  have day := session.day_of_close today
  have sequence := session.sequence.take k
  have length : (candles.take k).length = k := by
    rw [List.length_take]
    omega
  have interval_eq := session.interval_eq
  rw [replayed]
  cases hourly with
  | true =>
      have two : 2 ≤ k := inside
      obtain ⟨first, rest, isCandles⟩ := List.exists_cons_of_length_pos
        (show 0 < candles.length by omega)
      have opens : snapshot.candles1h.head? = some first := by
        rw [hours, if_pos rfl, isCandles, List.head?_take, if_neg (by omega)]
        rfl
      have complete : CompleteHours snapshot.triggerCandleCloseTimeMs startMs snapshot.candles1h := by
        rw [trigger, hours]
        exact session.completeHours (by omega) within today
      have verdict := sor1hEvaluate_of_session event (trigger ▸ day) session.positive complete opens
      split_ifs at verdict with flat
      · exact .inl ⟨⟨rfl, first, by rw [isCandles]; rfl, flat⟩, verdict⟩
      · obtain ⟨triggered, judged, -⟩ := verdict
        refine .inr ⟨?_, triggered, judged⟩
        rintro ⟨-, other, isOther, isFlat⟩
        rw [isCandles] at isOther
        obtain rfl := Option.some.inj isOther
        exact flat isFlat
  | false =>
      have five : 5 ≤ k := inside
      rw [if_neg Bool.false_ne_true] at quarters interval_eq
      refine .inr ⟨fun flat => Bool.false_ne_true flat.1, ?_⟩
      refine sorEvaluate_of_session event (trigger ▸ day) session.positive ?_ ?_ ?_
      · rw [quarters, length]
        exact five
      · rw [quarters, ← interval_eq]
        exact sequence
      · rw [quarters, trigger]
        exact session.sequence.last_closes (by omega) within

/-- That an outcome triggers. -/
def Triggers (outcome : Except String DetectorResult) : Prop :=
  ∃ result, outcome = .ok result ∧ result.status = .triggered

theorem not_triggers_of_invalid {outcome : Except String DetectorResult}
    (invalid : ∃ result, outcome = .ok result ∧ result.status = .invalid) : ¬ Triggers outcome := by
  rintro ⟨result, returned, triggered⟩
  obtain ⟨other, same, status⟩ := invalid
  obtain rfl := Except.ok.inj (returned.symm.trans same)
  rw [status] at triggered
  cases triggered

/-- A judged close triggers where its verdict says so. -/
theorem triggers_of_judged {outcome : Except String DetectorResult} {triggered : Bool}
    (judged : Judged contract outcome triggered startMs) :
    Triggers outcome ↔ triggered = true := by
  obtain ⟨result, rfl, -, status, -⟩ := judged
  constructor
  · rintro ⟨other, same, triggers⟩
    obtain rfl := Except.ok.inj same
    rw [status] at triggers
    by_contra quiet
    rw [if_neg quiet] at triggers
    cases triggers
  · intro triggers
    exact ⟨result, rfl, status.trans (if_pos triggers)⟩

/-- **Before the first bar nothing triggers.** -/
theorem not_triggers_of_early (event : DailyEvent hourly contract)
    (session : CompleteSession history hourly startMs interval candles) (early : k < firstBar hourly)
    (within : k ≤ candles.length) (today : k * interval < dayMs) :
    ¬ Triggers (replay arithmetic contract scope hourly candles (startMs + k * interval) k) := by
  obtain ⟨snapshot, replayed, trigger, quarters, hours⟩ := replay_eq arithmetic event session k
  have day := session.day_of_close today
  rw [replayed]
  cases hourly with
  | true =>
      have atMostOne : k ≤ 1 := Nat.le_of_lt_succ early
      rw [if_pos rfl] at hours ⊢
      by_cases alone : k = 1
      · subst alone
        obtain ⟨first, rest, isCandles⟩ := List.exists_cons_of_length_pos
          (show 0 < candles.length by omega)
        have complete := session.completeHours one_pos within today
        rw [← trigger, ← hours] at complete
        have verdict := sor1hEvaluate_of_session event (trigger ▸ day) session.positive complete
          (show snapshot.candles1h.head? = some first by rw [hours, isCandles]; rfl)
        split_ifs at verdict with flat
        · exact not_triggers_of_invalid verdict
        · obtain ⟨triggered, judged, two⟩ := verdict
          rw [triggers_of_judged judged]
          intro triggers
          have enough := two triggers
          rw [hours, List.length_take] at enough
          omega
      · obtain rfl : k = 0 := by omega
        refine not_triggers_of_invalid (sor1hEvaluate_of_other fun complete => ?_)
        exact complete.2.1 hours
  | false =>
      rw [if_neg Bool.false_ne_true] at quarters ⊢
      refine not_triggers_of_invalid (sorEvaluate_of_few ?_)
      rw [quarters, List.length_take]
      have : k < 5 := early
      omega

/-- **At midnight nothing triggers**, replayed: the candles are those of the day that ends. -/
theorem not_triggers_of_end (event : DailyEvent hourly contract)
    (session : CompleteSession history hourly startMs interval candles)
    (nonempty : 0 < candles.length) (midnight : k * interval = dayMs) :
    ¬ Triggers (replay arithmetic contract scope hourly candles (startMs + k * interval) k) := by
  obtain ⟨snapshot, replayed, trigger, quarters, hours⟩ := replay_eq arithmetic event session k
  have day := session.day_of_end midnight
  rw [← trigger] at day
  rw [replayed]
  cases hourly with
  | true =>
      refine not_triggers_of_invalid (sor1hEvaluate_of_other fun complete => ?_)
      rw [day] at complete
      have later := complete.2.2.1.1
      unfold Detectors.hourMs at later
      omega
  | false =>
      refine not_triggers_of_invalid (sorEvaluate_of_other_day ?_)
      obtain ⟨first, rest, rfl⟩ := List.exists_cons_of_length_pos nonempty
      have opens : first.openTimeMs = startMs := by
        have := (session.sequence (first, 0) (by simp)).1
        simpa using this
      have someBars : k ≠ 0 := by
        rintro rfl
        simp [dayMs] at midnight
      rw [quarters, if_neg Bool.false_ne_true, List.head?_take, if_neg someBars, day, trigger,
        midnight]
      intro same
      have later := opens.symm.trans (Option.some.inj same)
      unfold dayMs at later
      omega

/-- **A close of the session triggers in the replay where it triggers live.** -/
theorem triggers_iff (event : DailyEvent hourly contract)
    (same : runtime.exchangeInstrumentId = scope.exchangeInstrumentId)
    (session : CompleteSession
      (market scope.exchangeInstrumentId.text (sessionTimeframe hourly)) hourly startMs interval candles)
    (nonempty : 0 < candles.length) (within : k ≤ candles.length) :
    Triggers (observe arithmetic market contract runtime members projection productSession
        (startMs + k * interval)) ↔
      Triggers (replay arithmetic contract scope hourly candles (startMs + k * interval) k) := by
  have onDay : (k : ℤ) * interval ≤ dayMs := by
    refine le_trans ?_ session.within
    exact mul_le_mul_of_nonneg_right (by exact_mod_cast within) session.interval_pos.le
  rcases onDay.lt_or_eq with today | midnight
  · rw [observe_of_today arithmetic event same session within today]
  · exact iff_of_false
      (not_triggers_of_invalid (observe_of_end arithmetic event same session midnight))
      (not_triggers_of_end arithmetic event session nonempty midnight)

/-- What a live close that triggers says of its session: the closes up to it are valid, and the
result names the session. -/
theorem judged_of_triggers (event : DailyEvent hourly contract)
    (session : CompleteSession history hourly startMs interval candles) (within : k ≤ candles.length)
    (triggers : Triggers
      (replay arithmetic contract scope hourly candles (startMs + k * interval) k)) :
    firstBar hourly ≤ k ∧ k * interval < dayMs ∧ ¬ Flat hourly candles := by
  have nonneg : (k : ℤ) * interval ≤ dayMs := by
    refine le_trans ?_ session.within
    exact mul_le_mul_of_nonneg_right (by exact_mod_cast within) session.interval_pos.le
  have nonempty : 0 < candles.length := by
    by_contra empty
    obtain rfl : k = 0 := by omega
    refine not_triggers_of_early arithmetic event session ?_ within ?_ triggers
    · cases hourly with
      | true => exact two_pos
      | false => exact Nat.succ_pos 4
    · simp [dayMs]
  have today : (k : ℤ) * interval < dayMs := by
    refine lt_of_le_of_ne nonneg fun midnight => ?_
    exact not_triggers_of_end arithmetic event session nonempty midnight triggers
  have inside : firstBar hourly ≤ k := by
    by_contra early
    exact not_triggers_of_early arithmetic event session (by omega) within today triggers
  refine ⟨inside, today, ?_⟩
  rcases replay_of_today arithmetic event session inside within today with
    ⟨-, invalid⟩ | ⟨ranged, -⟩
  · exact absurd triggers (not_triggers_of_invalid invalid)
  · exact ranged

end Replays

end TradingKernel.Observation
