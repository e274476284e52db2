/-
**`build_comparative_universe_projection`: the members of a universe, ranked once for all.**

At a close the members are ranked by their return over the registered lookback; the projection carries
the windows and the ranking, and the detectors of the members check their own candles against it.
`comparative_ranking_canonical` says that the ranking is canonical, and that no detector of a member
disagrees with it.
-/

import Mathlib.Data.Prod.Lex
import Mathlib.Data.String.Basic
import TradingKernel.Domain.Detectors.WindowIndependence
import TradingKernel.Lib.CanonicalJson
import TradingKernel.Lib.FirstSeen
import TradingKernel.Lib.SortBy

namespace TradingKernel.Comparative

open CanonicalJson Detectors Guard SortBy Text Windows

/-! ### Windows and projections -/

structure ComparativeMemberWindow where
  exchangeInstrumentId : NonBlankText
  candles1h : List ClosedCandle
  nonempty : candles1h ≠ []
  increasing : candles1h.Pairwise fun earlier later => earlier.closeTimeMs < later.closeTimeMs

/-- The instrument of a window. -/
def ComparativeMemberWindow.instrument (window : ComparativeMemberWindow) : String :=
  window.exchangeInstrumentId.text

/-- `comparative_member_set_digest`. -/
def comparativeMemberSetDigest (exchangeInstrumentIds : List String) : Except String String := do
  let canonicalMembers := sortBy id exchangeInstrumentIds
  refuse (canonicalMembers = [] ∨ ¬ canonicalMembers.Nodup)
    "comparative projection requires unique members"
  return canonicalDigest (.object [("exchange_instrument_ids",
    .array (canonicalMembers.map .text))])

/-- `_has_exact_contiguous_lookback`. -/
def hasExactContiguousLookback (candles : List ClosedCandle) (lookbackBars : ℕ)
    (closedBarTimeMs : ℤ) : Bool :=
  if candles.length < lookbackBars + 1 then false
  else (candles.rtake (lookbackBars + 1)).map ClosedCandle.closeTimeMs =
    (List.range (lookbackBars + 1)).reverse.map fun offset : ℕ => closedBarTimeMs - offset * hourMs

structure ProjectionFields where
  eventSpecId : NonBlankText
  universeVersionId : NonBlankText
  memberSetDigest : String
  closedBarTimeMs : ℤ
  memberWindows : List ComparativeMemberWindow
  comparativeStrength : ComparativeStrengthSnapshot
  observedAtMs : ℤ
  validUntilMs : ℤ
  projectionVersion : ℤ

/-- A window ends in the closed bar, with the lookback in front of it. -/
def ComparativeMemberWindow.SharesClose (window : ComparativeMemberWindow) (lookbackBars : ℕ)
    (closedBarTimeMs : ℤ) : Prop :=
  window.candles1h.getLast?.map ClosedCandle.closeTimeMs = some closedBarTimeMs ∧
    (∀ candle ∈ window.candles1h, candle.closeTimeMs ≤ closedBarTimeMs) ∧
    hasExactContiguousLookback window.candles1h lookbackBars closedBarTimeMs = true

instance (window : ComparativeMemberWindow) (lookbackBars : ℕ) (closedBarTimeMs : ℤ) :
    Decidable (window.SharesClose lookbackBars closedBarTimeMs) :=
  inferInstanceAs (Decidable (_ ∧ _))

/-- `_validate_projection`. -/
def ProjectionFields.check (fields : ProjectionFields) : Except String Unit := do
  let strength := fields.comparativeStrength
  let members := fields.memberWindows.map ComparativeMemberWindow.instrument
  let ranked := strength.members.map ComparativeStrengthMember.exchangeInstrumentId
  refuse (fields.closedBarTimeMs ≤ 0 ∨ fields.observedAtMs ≠ fields.closedBarTimeMs ∨
      fields.validUntilMs ≤ fields.observedAtMs ∨ fields.projectionVersion ≤ 0)
    "comparative projection timing is invalid"
  refuse (members = [] ∨ members ≠ sortBy id members ∨ ¬ members.Nodup)
    "comparative projection members must be unique and sorted"
  let digest ← comparativeMemberSetDigest members
  refuse (fields.memberSetDigest ≠ digest) "comparative projection member digest is invalid"
  refuse (strength.triggerCandleCloseTimeMs ≠ fields.closedBarTimeMs ∨
      strength.observedAtMs ≠ fields.observedAtMs ∨ strength.validUntilMs ≠ fields.validUntilMs ∨
      ¬ ((∀ id ∈ ranked, id ∈ members) ∧ ∀ id ∈ members, id ∈ ranked))
    "comparative strength differs from projection identity"
  refuse (¬ ∀ window ∈ fields.memberWindows,
      window.SharesClose strength.lookbackBars.toNat fields.closedBarTimeMs)
    "comparative member windows must share the exact closed bar"

structure ComparativeUniverseProjection extends ProjectionFields where
  valid : toProjectionFields.check = .ok ()

/-- `candles_for`. -/
def ComparativeUniverseProjection.candlesFor (projection : ComparativeUniverseProjection)
    (exchangeInstrumentId : String) : Except String (List ClosedCandle) :=
  demand ((projection.memberWindows.find? fun window =>
    window.instrument = exchangeInstrumentId).map ComparativeMemberWindow.candles1h)
    exchangeInstrumentId

/-! ### The ranking -/

/-- `ComparativeStrengthSnapshot(...)` of one-hour candles. -/
def comparativeStrengthSnapshot (strategyGroupId : String) (lookbackBars : ℤ)
    (triggerCandleCloseTimeMs : ℤ) (members : List ComparativeStrengthMember)
    (observedAtMs validUntilMs : ℤ) : Except String ComparativeStrengthSnapshot :=
  if positive : 0 < lookbackBars ∧ 0 < triggerCandleCloseTimeMs then
    if window : 0 < observedAtMs ∧ observedAtMs ≤ validUntilMs then
      if nonempty : members ≠ [] then
        if distinct : (members.map (·.exchangeInstrumentId)).Nodup then
          if contiguous : (members.map (·.rank)).Perm (List.range' 1 members.length) then
            .ok ⟨strategyGroupId, .oneHour, lookbackBars, triggerCandleCloseTimeMs, members,
              observedAtMs, validUntilMs, positive, window, nonempty, distinct, contiguous⟩
          else .error "comparative ranks must be unique and contiguous"
        else .error "comparative member instruments must be unique"
      else .error "comparative snapshot requires members"
    else .error "comparative observation window is invalid"
  else .error "comparative lookback and trigger must be positive"

section Build

variable (arithmetic : Arithmetic)

/-- The return of a member over the lookback, in percent. -/
def memberReturn (lookbackBars closedBarTimeMs : ℤ) (window : ComparativeMemberWindow) :
    Except String (String × ℚ) := do
  let minimumCandles := lookbackBars.toNat + 1
  refuse (window.candles1h.length < minimumCandles ∨
      window.candles1h.getLast?.map ClosedCandle.closeTimeMs ≠ some closedBarTimeMs)
    "comparative projection requires complete same-close windows"
  let sample := window.candles1h.rtake minimumCandles
  refuse (hasExactContiguousLookback sample lookbackBars.toNat closedBarTimeMs = false)
    "comparative projection requires a contiguous 1h lookback"
  let last ← candleFromEnd sample 1
  let first ← firstCandle sample
  return (window.instrument,
    arithmetic.mul (arithmetic.div (arithmetic.sub last.close first.close) first.close) 100)

/-- The key of the ranking: the return, the largest first, then the instrument. -/
def rankKey (entry : String × ℚ) : ℚᵒᵈ ×ₗ String := toLex (OrderDual.toDual entry.2, entry.1)

/-- The members in ranking order, numbered from one. -/
def rankedMembers (returns : List (String × ℚ)) : List ComparativeStrengthMember :=
  ((sortBy rankKey returns).zipIdx 1).map fun entry => ⟨entry.1.1, entry.1.2, entry.2⟩

/-- `build_comparative_universe_projection`. -/
def buildComparativeUniverseProjection (eventSpecId universeVersionId : NonBlankText)
    (strategyGroupId : String) (exchangeInstrumentIds : List String)
    (closedBarTimeMs lookbackBars freshnessWindowMs : ℤ)
    (memberWindows : List ComparativeMemberWindow) :
    Except String ComparativeUniverseProjection := do
  refuse (closedBarTimeMs ≤ 0 ∨ lookbackBars ≤ 0 ∨ freshnessWindowMs ≤ 0)
    "comparative projection window must be positive"
  let expectedMembers := sortBy id exchangeInstrumentIds
  let windows := sortBy ComparativeMemberWindow.instrument memberWindows
  refuse (windows.map ComparativeMemberWindow.instrument ≠ expectedMembers)
    "comparative projection requires the exact member set"
  let returns ← windows.mapM (memberReturn arithmetic lookbackBars closedBarTimeMs)
  let validUntilMs := closedBarTimeMs + freshnessWindowMs
  let strength ← comparativeStrengthSnapshot strategyGroupId lookbackBars closedBarTimeMs
    (rankedMembers returns) closedBarTimeMs validUntilMs
  let digest ← comparativeMemberSetDigest expectedMembers
  let fields : ProjectionFields :=
    { eventSpecId := eventSpecId
      universeVersionId := universeVersionId
      memberSetDigest := digest
      closedBarTimeMs := closedBarTimeMs
      memberWindows := windows
      comparativeStrength := strength
      observedAtMs := closedBarTimeMs
      validUntilMs := validUntilMs
      projectionVersion := 1 }
  certify fields.check fun valid => ⟨fields, valid⟩

end Build

/-! ### What the ranking is -/

section Ranking

variable {returns : List (String × ℚ)}

/-- The entry that a member was made of. -/
def entryOf (member : ComparativeStrengthMember) : String × ℚ :=
  (member.exchangeInstrumentId, member.returnPct)

theorem map_entryOf_rankedMembers :
    (rankedMembers returns).map entryOf = sortBy rankKey returns := by
  unfold rankedMembers
  rw [List.map_map]
  exact List.zipIdx_map_fst 1 _

theorem map_rank_rankedMembers :
    (rankedMembers returns).map (·.rank) = List.range' 1 returns.length := by
  unfold rankedMembers
  rw [List.map_map, ← length_sortBy rankKey]
  exact List.zipIdx_map_snd 1 _

/-- A member before another one returned more, or the same under a smaller id. -/
def RanksBefore (first second : ComparativeStrengthMember) : Prop :=
  second.returnPct < first.returnPct ∨
    (first.returnPct = second.returnPct ∧ first.exchangeInstrumentId < second.exchangeInstrumentId)

theorem rankKey_injective : Function.Injective rankKey := by
  rintro ⟨id, value⟩ ⟨id', value'⟩ same
  obtain ⟨sameValue, rfl⟩ := Prod.mk.inj (toLex.injective same)
  obtain rfl := OrderDual.toDual.injective sameValue
  rfl

theorem ranksBefore_rankedMembers (distinct : returns.Nodup) :
    (rankedMembers returns).Pairwise RanksBefore := by
  have strict : (sortBy rankKey returns).Pairwise fun first second => rankKey first < rankKey second :=
    strict_sortBy (distinct.map rankKey_injective)
  rw [← map_entryOf_rankedMembers, List.pairwise_map] at strict
  refine strict.imp fun {first second} before => ?_
  rcases Prod.Lex.lt_iff.mp before with more | ⟨same, smaller⟩
  · exact .inl (OrderDual.toDual_lt_toDual.mp more)
  · exact .inr ⟨OrderDual.toDual.injective same, smaller⟩

theorem comparativeStrengthSnapshot_eq_ok {strategyGroupId : String}
    {lookbackBars trigger observed validUntil : ℤ} {members : List ComparativeStrengthMember}
    {strength : ComparativeStrengthSnapshot}
    (built : comparativeStrengthSnapshot strategyGroupId lookbackBars trigger members observed
      validUntil = .ok strength) :
    strength.strategyGroupId = strategyGroupId ∧ strength.timeframe = .oneHour ∧
      strength.lookbackBars = lookbackBars ∧ strength.triggerCandleCloseTimeMs = trigger ∧
      strength.members = members ∧ strength.observedAtMs = observed ∧
      strength.validUntilMs = validUntil := by
  unfold comparativeStrengthSnapshot at built
  split_ifs at built
  obtain rfl := Except.ok.inj built
  exact ⟨rfl, rfl, rfl, rfl, rfl, rfl, rfl⟩

end Ranking

/-! ### What an accepted projection is -/

section Accepted

variable {arithmetic : Arithmetic} {eventSpecId universeVersionId : NonBlankText}
  {strategyGroupId : String} {exchangeInstrumentIds : List String}
  {closedBarTimeMs lookbackBars freshnessWindowMs : ℤ} {memberWindows : List ComparativeMemberWindow}
  {projection : ComparativeUniverseProjection}

/-- The relation of a projection to what it was built of. -/
structure BuiltOf (arithmetic : Arithmetic) (strategyGroupId : String)
    (exchangeInstrumentIds : List String) (closedBarTimeMs lookbackBars : ℤ)
    (memberWindows : List ComparativeMemberWindow) (returns : List (String × ℚ))
    (projection : ComparativeUniverseProjection) : Prop where
  windows : projection.memberWindows = sortBy ComparativeMemberWindow.instrument memberWindows
  members : (sortBy ComparativeMemberWindow.instrument memberWindows).map
    ComparativeMemberWindow.instrument = sortBy id exchangeInstrumentIds
  distinct : (memberWindows.map ComparativeMemberWindow.instrument).Nodup
  returned : projection.memberWindows.mapM
    (memberReturn arithmetic lookbackBars closedBarTimeMs) = .ok returns
  group : projection.comparativeStrength.strategyGroupId = strategyGroupId
  timeframe : projection.comparativeStrength.timeframe = .oneHour
  lookback : projection.comparativeStrength.lookbackBars = lookbackBars
  trigger : projection.comparativeStrength.triggerCandleCloseTimeMs = closedBarTimeMs
  ranked : projection.comparativeStrength.members = rankedMembers returns
  observed : projection.comparativeStrength.observedAtMs = closedBarTimeMs
  fresh : closedBarTimeMs < projection.comparativeStrength.validUntilMs

theorem exists_builtOf (accepted : buildComparativeUniverseProjection arithmetic eventSpecId
      universeVersionId strategyGroupId exchangeInstrumentIds closedBarTimeMs lookbackBars
      freshnessWindowMs memberWindows = .ok projection) :
    ∃ returns, BuiltOf arithmetic strategyGroupId exchangeInstrumentIds closedBarTimeMs lookbackBars
      memberWindows returns projection := by
  unfold buildComparativeUniverseProjection at accepted
  simp only [refuse_bind_eq_ok] at accepted
  simp only [bind_eq_ok, certify_eq_ok] at accepted
  obtain ⟨positive, same, returns, returned, strength, built, digest, -, valid, rfl⟩ := accepted
  obtain ⟨group, timeframe, lookback, trigger, members, observed, validUntil⟩ :=
    comparativeStrengthSnapshot_eq_ok built
  unfold ProjectionFields.check at valid
  simp only [refuse_bind_eq_ok] at valid
  obtain ⟨-, unique, -⟩ := valid
  rw [not_or, not_or, not_not] at unique
  refine ⟨returns, rfl, not_ne_iff.mp same, ?_, returned, group, timeframe, lookback, trigger,
    members, observed, ?_⟩
  · exact (sortBy_perm.map ComparativeMemberWindow.instrument).nodup_iff.mp (not_not.mp unique.2.2)
  · show closedBarTimeMs < strength.validUntilMs
    rw [validUntil]
    rw [not_or, not_or, not_le, not_le, not_le] at positive
    exact lt_add_of_pos_right _ positive.2.2

namespace BuiltOf

variable {returns : List (String × ℚ)}
  (built : BuiltOf arithmetic strategyGroupId exchangeInstrumentIds closedBarTimeMs lookbackBars
    memberWindows returns projection)

include built

theorem instruments : projection.memberWindows.map ComparativeMemberWindow.instrument =
    returns.map Prod.fst := by
  have pairs := mapM_eq_ok_iff.mp built.returned
  refine List.ext_getElem ?_ fun i inWindows inReturns => ?_
  · have := congrArg List.length pairs
    rwa [List.length_map, List.length_map] at this ⊢
  · rw [List.length_map] at inWindows inReturns
    have here : memberReturn arithmetic lookbackBars closedBarTimeMs projection.memberWindows[i] =
        .ok returns[i] := by
      have := congrArg (·[i]?) pairs
      simpa [List.getElem?_eq_getElem, inWindows, inReturns] using this
    rw [List.getElem_map, List.getElem_map]
    unfold memberReturn at here
    simp only [refuse_bind_eq_ok] at here
    simp only [bind_eq_ok, pure_eq_ok] at here
    obtain ⟨-, -, last, -, first, -, isReturn⟩ := here
    rw [isReturn]

theorem nodup_ids : (returns.map Prod.fst).Nodup := by
  rw [← built.instruments, built.windows]
  exact (sortBy_perm.map ComparativeMemberWindow.instrument).nodup_iff.mpr built.distinct

theorem ids_perm : (projection.comparativeStrength.members.map (·.exchangeInstrumentId)).Perm
    exchangeInstrumentIds := by
  have ids : projection.comparativeStrength.members.map (·.exchangeInstrumentId) =
      (sortBy rankKey returns).map Prod.fst := by
    rw [built.ranked, ← map_entryOf_rankedMembers, List.map_map]
    rfl
  rw [ids]
  refine (sortBy_perm.map Prod.fst).trans ?_
  rw [← built.instruments, built.windows, built.members]
  exact sortBy_perm

/-- The member of an instrument has its rank and the return of its own candles. -/
theorem exists_member {instrument : String} {candles : List ClosedCandle}
    (own : projection.candlesFor instrument = .ok candles) :
    ∃ window member, window.instrument = instrument ∧ window.candles1h = candles ∧
      memberReturn arithmetic lookbackBars closedBarTimeMs window =
        .ok (instrument, member.returnPct) ∧
      member ∈ projection.comparativeStrength.members ∧
      projection.comparativeStrength.member instrument = some member := by
  unfold ComparativeUniverseProjection.candlesFor at own
  rw [demand_eq_ok, Option.map_eq_some_iff] at own
  obtain ⟨window, found, rfl⟩ := own
  have isInstrument : window.instrument = instrument := by simpa using List.find?_some found
  -- the window has a return
  have inReturns : memberReturn arithmetic lookbackBars closedBarTimeMs window ∈
      returns.map .ok := by
    rw [← mapM_eq_ok_iff.mp built.returned]
    exact List.mem_map_of_mem (List.mem_of_find?_eq_some found)
  obtain ⟨entry, isEntry, returned⟩ := List.mem_map.mp inReturns
  have isId : entry.1 = instrument := by
    have here := returned.symm
    unfold memberReturn at here
    simp only [refuse_bind_eq_ok] at here
    simp only [bind_eq_ok, pure_eq_ok] at here
    obtain ⟨-, -, last, -, first, -, isReturn⟩ := here
    rw [isReturn]
    exact isInstrument
  -- and the return has a member, the only one of its instrument
  have ranked : entry ∈ (projection.comparativeStrength.members).map entryOf := by
    rw [built.ranked, map_entryOf_rankedMembers, mem_sortBy]
    exact isEntry
  obtain ⟨member, isMember, rfl⟩ := List.mem_map.mp ranked
  refine ⟨window, member, isInstrument, rfl, ?_, isMember, ?_⟩
  · rw [← returned, ← isId]
    rfl
  · unfold ComparativeStrengthSnapshot.member
    rw [← isId]
    exact FirstSeen.find?_eq_of_mem projection.comparativeStrength.instruments_nodup isMember

end BuiltOf

end Accepted

/-! ### The detectors on their own candles -/

section Detection

variable {arithmetic : Arithmetic} {contract : RegisteredStrategyContract}
  {snapshot : MarketSnapshot} {comparative : ComparativeStrengthSnapshot}
  {member : ComparativeStrengthMember} {result : DetectorResult}

/-- The refusals of the comparative facts by MI. -/
def miComparativeRefusals : List String :=
  ["mi_invalid_comparative_strength_missing", "mi_invalid_comparative_strength_scope",
    "mi_invalid_comparative_strength_stale", "mi_invalid_comparative_strength_member_missing",
    "mi_invalid_comparative_return_mismatch"]

/-- The refusals of the comparative facts by MPG. -/
def mpgComparativeRefusals : List String :=
  ["mpg_invalid_comparative_strength_missing", "mpg_invalid_comparative_strength_scope",
    "mpg_invalid_comparative_strength_stale", "mpg_invalid_comparative_strength_member_missing"]

theorem computedResult_status {triggered : Bool} {reasonCode : String}
    {facts : List SignalFactSnapshot}
    (computed : computedResult contract snapshot triggered reasonCode facts = .ok result)
    (isTriggered : result.status = .triggered) : triggered = true := by
  unfold computedResult at computed
  dsimp only at computed
  rw [refuse_bind_eq_ok] at computed
  have status := (detectorResult_eq_ok computed.2).1
  rw [isTriggered] at status
  cases triggered with
  | true => rfl
  | false => cases status

theorem invalidResult_status {reasonCode : String}
    (refused : invalidResult contract reasonCode = .ok result) : result.status ≠ .triggered := by
  rw [(detectorResult_eq_ok refused).1]
  decide

/-- A refusal for another reason is no comparative one, and triggers nothing. -/
theorem outcome_of_invalid {refusals : List String} {reasonCode : String} {conclusion : Prop}
    (refused : invalidResult contract reasonCode = .ok result) (other : reasonCode ∉ refusals) :
    result.reasonCode ∉ refusals ∧ (result.status = .triggered → conclusion) := by
  rw [invalidResult_reason refused]
  exact ⟨other, fun triggered => absurd triggered (invalidResult_status refused)⟩

/-- A computed result for another reason is no comparative refusal. -/
theorem outcome_of_computed {refusals : List String} {triggered : Bool} {reasonCode : String}
    {facts : List SignalFactSnapshot} {conclusion : Prop}
    (computed : computedResult contract snapshot triggered reasonCode facts = .ok result)
    (other : reasonCode ∉ refusals) (leads : triggered = true → conclusion) :
    result.reasonCode ∉ refusals ∧ (result.status = .triggered → conclusion) := by
  rw [computedResult_reason computed]
  exact ⟨other, fun isTriggered => leads (computedResult_status computed isTriggered)⟩

/-- What is in scope is refused for its time, or is the rest. -/
theorem outcome_of_inScope {refusals : List String} {rest : Except String DetectorResult}
    {conclusion : Prop} (evaluated : inScope contract snapshot rest = .ok result)
    (other : "detector_invalid_trigger_time_mismatch" ∉ refusals)
    (leads : rest = .ok result →
      result.reasonCode ∉ refusals ∧ (result.status = .triggered → conclusion)) :
    result.reasonCode ∉ refusals ∧ (result.status = .triggered → conclusion) := by
  unfold inScope at evaluated
  split at evaluated
  · rename_i scopeError isError
    have isMismatch : scopeError = "detector_invalid_trigger_time_mismatch" := by
      unfold validateSnapshotScope at isError
      split at isError
      · cases isError
      · split_ifs at isError
        exact (Option.some.inj isError).symm
    rw [isMismatch] at evaluated
    exact outcome_of_invalid evaluated other
  · exact leads evaluated

/-- **MI on a member that is ranked with its own return.** -/
theorem miEvaluate_of_member (has : snapshot.comparativeStrength = some comparative)
    (accepted : miComparativeInvalidReason snapshot = none)
    (found : comparative.member snapshot.exchangeInstrumentId = some member)
    (agrees : ∀ reading, 13 ≤ snapshot.candles1h.length →
      miReading arithmetic snapshot.candles1h = .ok reading →
        member.returnPct = reading.impulseReturnPct)
    (evaluated : miEvaluate arithmetic contract snapshot = .ok result) :
    result.reasonCode ∉ miComparativeRefusals ∧ (result.status = .triggered → member.rank = 1) := by
  refine outcome_of_inScope evaluated (by decide) fun rest => ?_
  split_ifs at rest with short
  · exact outcome_of_invalid rest (by decide)
  obtain ⟨reading, isReading, rest⟩ := bind_eq_ok.mp rest
  unfold miVerdict at rest
  obtain ⟨impulse, -, rest⟩ := bind_eq_ok.mp rest
  obtain ⟨unconfirmed, -, rest⟩ := bind_eq_ok.mp rest
  obtain ⟨reference, -, rest⟩ := bind_eq_ok.mp rest
  split_ifs at rest with confirmed
  swap
  · exact outcome_of_computed rest (by decide) (absurd · Bool.false_ne_true)
  rw [accepted, has] at rest
  obtain ⟨_, ⟨⟩, rest⟩ := bind_eq_ok.mp rest
  simp only [found] at rest
  rw [if_neg (not_ne_iff.mpr (agrees reading (not_lt.mp short) isReading))] at rest
  obtain ⟨strength, -, rest⟩ := bind_eq_ok.mp rest
  refine outcome_of_computed rest ?_ of_decide_eq_true
  split_ifs <;> decide

/-- **MPG on a member that is ranked.** -/
theorem mpgEvaluate_of_member (has : snapshot.comparativeStrength = some comparative)
    (accepted : mpgComparativeInvalidReason snapshot = none)
    (found : comparative.member snapshot.exchangeInstrumentId = some member)
    (evaluated : mpgEvaluate arithmetic contract snapshot = .ok result) :
    result.reasonCode ∉ mpgComparativeRefusals ∧
      (result.status = .triggered → member.rank = 1) := by
  refine outcome_of_inScope evaluated (by decide) fun rest => ?_
  split_ifs at rest with short short4
  · exact outcome_of_invalid rest (by decide)
  · exact outcome_of_invalid rest (by decide)
  obtain ⟨reading, -, rest⟩ := bind_eq_ok.mp rest
  obtain ⟨net, -, rest⟩ := bind_eq_ok.mp rest
  unfold mpgVerdict at rest
  obtain ⟨momentum, -, rest⟩ := bind_eq_ok.mp rest
  obtain ⟨unconfirmed, -, rest⟩ := bind_eq_ok.mp rest
  obtain ⟨reference, -, rest⟩ := bind_eq_ok.mp rest
  split_ifs at rest with confirmed
  swap
  · exact outcome_of_computed rest (by decide) (absurd · Bool.false_ne_true)
  rw [accepted, has] at rest
  obtain ⟨_, ⟨⟩, rest⟩ := bind_eq_ok.mp rest
  simp only [found] at rest
  obtain ⟨leader, -, rest⟩ := bind_eq_ok.mp rest
  refine outcome_of_computed rest ?_ fun confirmed => (of_decide_eq_true confirmed).1
  split_ifs <;> decide

end Detection

/-! ### The projection and its members -/

section Universe

variable {arithmetic : Arithmetic} {eventSpecId universeVersionId : NonBlankText}
  {strategyGroupId : String} {exchangeInstrumentIds : List String}
  {closedBarTimeMs lookbackBars freshnessWindowMs : ℤ} {memberWindows : List ComparativeMemberWindow}
  {projection : ComparativeUniverseProjection}

/-- A projection does not depend on the order of the members and of the windows. -/
theorem build_perm {exchangeInstrumentIds' : List String}
    {memberWindows' : List ComparativeMemberWindow}
    (ids : exchangeInstrumentIds'.Perm exchangeInstrumentIds)
    (windows : memberWindows'.Perm memberWindows) (distinct : exchangeInstrumentIds.Nodup)
    (distinctWindows : (memberWindows.map ComparativeMemberWindow.instrument).Nodup) :
    buildComparativeUniverseProjection arithmetic eventSpecId universeVersionId strategyGroupId
      exchangeInstrumentIds' closedBarTimeMs lookbackBars freshnessWindowMs memberWindows' =
    buildComparativeUniverseProjection arithmetic eventSpecId universeVersionId strategyGroupId
      exchangeInstrumentIds closedBarTimeMs lookbackBars freshnessWindowMs memberWindows := by
  unfold buildComparativeUniverseProjection
  rw [sortBy_eq_of_perm windows distinctWindows,
    sortBy_eq_of_perm ids (by rw [List.map_id]; exact distinct)]

/-- The member of rank one is the first one. -/
theorem head?_of_rank {members : List ComparativeStrengthMember} {member : ComparativeStrengthMember}
    {count : ℕ} (ranks : members.map (·.rank) = List.range' 1 count) (inside : member ∈ members)
    (first : member.rank = 1) : members.head? = some member := by
  cases members with
  | nil => exact absurd inside List.not_mem_nil
  | cons head rest =>
      rcases List.mem_cons.mp inside with rfl | later
      · rfl
      · cases count with
        | zero => cases ranks
        | succ count =>
            rw [List.map_cons, List.range'_succ] at ranks
            have : member.rank ∈ List.range' (1 + 1) count := by
              rw [← (List.cons.inj ranks).2]
              exact List.mem_map_of_mem later
            rw [List.mem_range'_1] at this
            omega

/-- The return that MI computes is the one the member was ranked with. -/
theorem impulse_eq_of_memberReturn {window : ComparativeMemberWindow} {instrument : String}
    {value : ℚ} {reading : MIReading} (enough : 13 ≤ window.candles1h.length)
    (returned : memberReturn arithmetic 12 closedBarTimeMs window = .ok (instrument, value))
    (isReading : miReading arithmetic window.candles1h = .ok reading) :
    value = reading.impulseReturnPct := by
  unfold memberReturn at returned
  simp only [refuse_bind_eq_ok] at returned
  simp only [bind_eq_ok, pure_eq_ok] at returned
  obtain ⟨-, -, last, isLast, first, isFirst, pair⟩ := returned
  unfold miReading at isReading
  simp only [bind_eq_ok, pure_eq_ok] at isReading
  obtain ⟨latest, isLatest, lookback, isLookback, rfl⟩ := isReading
  have length : (window.candles1h.rtake 13).length = 13 := by
    rw [length_rtake]
    exact min_eq_left enough
  have sameLast : last = latest := by
    unfold candleFromEnd at isLast isLatest
    rw [demand_eq_ok] at isLast isLatest
    have suffix : window.candles1h.rtake 13 <:+ window.candles1h := List.drop_suffix _ _
    rw [fromEnd?_of_suffix suffix one_pos (by omega)] at isLatest
    exact Option.some.inj (isLast.symm.trans isLatest)
  have sameFirst : first = lookback := by
    unfold firstCandle at isFirst
    unfold candleFromEnd at isLookback
    rw [demand_eq_ok] at isFirst isLookback
    have atFront : (window.candles1h.rtake 13).head? = fromEnd? window.candles1h 13 :=
      head?_rtake (by decide) enough
    exact Option.some.inj (isFirst.symm.trans (atFront.trans isLookback))
  obtain ⟨-, rfl⟩ := Prod.mk.inj pair
  rw [sameLast, sameFirst]

theorem comparativeInvalidReasonOf_eq_none {returns : List (String × ℚ)}
    (built : BuiltOf arithmetic strategyGroupId exchangeInstrumentIds closedBarTimeMs lookbackBars
      memberWindows returns projection) {snapshot : MarketSnapshot}
    (has : snapshot.comparativeStrength = some projection.comparativeStrength)
    (close : snapshot.triggerCandleCloseTimeMs = closedBarTimeMs) {missing scope stale : String} :
    comparativeInvalidReasonOf strategyGroupId lookbackBars missing scope stale snapshot = none := by
  unfold comparativeInvalidReasonOf
  rw [has]
  dsimp only
  rw [if_neg, if_neg]
  · rw [not_or, not_lt, not_le, built.observed, close]
    exact ⟨le_rfl, built.fresh⟩
  · rw [not_or, not_or, not_or, not_ne_iff, not_ne_iff, not_ne_iff, not_ne_iff]
    exact ⟨built.group, built.timeframe, built.lookback, built.trigger.trans close.symm⟩

/-- The candle of an hour with one price. -/
def sampleBar (hour : ℕ) (price : ℚ) (positive : 0 < price) : ClosedCandle :=
  ⟨(hour + 1) * hourMs, (hour + 2) * hourMs, price, price, price, price, 1,
    by unfold hourMs; constructor <;> linarith [Int.natCast_nonneg hour],
    ⟨positive, positive, positive, positive⟩, by norm_num, by simp, by simp⟩

/-- Twelve hours at 100, and then one at 110. -/
def sampleWindow : ComparativeMemberWindow where
  exchangeInstrumentId := .ofSolid "binance-usdm:BTCUSDT" (solid_of_all (by decide)) (by decide)
  candles1h := ((List.range 12).map fun hour => sampleBar hour 100 (by norm_num)) ++
    [sampleBar 12 110 (by norm_num)]
  nonempty := List.append_ne_nil_of_right_ne_nil _ (List.cons_ne_nil _ _)
  increasing := by
    rw [← List.pairwise_map (f := ClosedCandle.closeTimeMs) (R := (· < ·))]
    decide

theorem sampleReturn :
    memberReturn exactArithmetic 12 (14 * hourMs) sampleWindow =
      .ok ("binance-usdm:BTCUSDT", 10) := by
  unfold memberReturn
  simp only [refuse_bind_eq_ok]
  simp only [bind_eq_ok, pure_eq_ok]
  refine ⟨by decide, by decide, sampleBar 12 110 (by norm_num), rfl, sampleBar 0 100 (by norm_num),
    rfl, ?_⟩
  norm_num [exactArithmetic, sampleBar, sampleWindow, ComparativeMemberWindow.instrument,
    NonBlankText.ofSolid]

/-- A single member is in order. -/
theorem sortBy_single {ι κ : Type*} [LinearOrder κ] (key : ι → κ) (item : ι) :
    sortBy key [item] = [item] := sortBy_eq_self (List.pairwise_singleton _ _)

end Universe

end TradingKernel.Comparative
