/-
**The decisions of the opening-range core pass their validators.**

Where the decimal context can hold the numbers of a window, its features exist, and the decision that
is built of them and of a rank is one that its validator accepts (`exists_decision`): the validator
computes the geometry, the qualification and the digest from the same values.
-/

import TradingKernel.Domain.Selection.OpeningRange

namespace TradingKernel.Selection

open Text Guard CanonicalJson SortBy Decimal
open Authority (intervalMs)
open Detectors (dayMs)

/-! ### The numbers of a window -/

section Features

variable {window : SelectionSourceWindow} {feature : OpeningRangeSelectionFeatures} {value : ℚ}

/-- The decimal context holds the numbers of a window: the prices and volumes themselves, and what is
computed of them. -/
def Computes (window : SelectionSourceWindow) : Prop :=
  (∃ feature, openingRangeFeatures window = .ok feature) ∧
    ∃ digest, window.inputWindowDigest = .ok digest

theorem exists_text_of_settled (settled : decimalContext.Settled value) :
    ∃ text, canonicalDecimalText value = .ok text := by
  unfold canonicalDecimalText
  rw [settled]
  exact ⟨_, rfl⟩

theorem isSha256Digest_of_windowDigest {digest : String}
    (digested : window.inputWindowDigest = .ok digest) : IsSha256Digest digest := by
  unfold SelectionSourceWindow.inputWindowDigest at digested
  rw [bind_eq_ok] at digested
  obtain ⟨rows, -, returned⟩ := digested
  obtain rfl := pure_eq_ok.mp returned
  exact isSha256Digest_canonicalDigest _

/-- The digest of a window spells the high and the low of each bar. -/
theorem exists_texts_of_digest {digest : String} (digested : window.inputWindowDigest = .ok digest)
    {kline : SelectionKline} (member : kline ∈ window.klines) :
    (∃ text, canonicalDecimalText kline.high = .ok text) ∧
      ∃ text, canonicalDecimalText kline.low = .ok text := by
  unfold SelectionSourceWindow.inputWindowDigest at digested
  rw [bind_eq_ok] at digested
  obtain ⟨rows, listed, -⟩ := digested
  have results := mapM_eq_ok_iff.mp listed
  have row : kline.row ∈ window.klines.map SelectionKline.row := List.mem_map_of_mem member
  rw [results, List.mem_map] at row
  obtain ⟨row, -, returned⟩ := row
  have spelled := returned.symm
  unfold SelectionKline.row at spelled
  simp only [bind_eq_ok] at spelled
  obtain ⟨-, -, high, isHigh, low, isLow, -⟩ := spelled
  exact ⟨⟨high, isHigh⟩, low, isLow⟩

/-- What the features of a window are. -/
structure Measured (window : SelectionSourceWindow) (feature : OpeningRangeSelectionFeatures) :
    Prop where
  window_eq : feature.window = window
  high : ∃ kline ∈ window.klines, kline.high = feature.orHigh
  low : ∃ kline ∈ window.klines, kline.low = feature.orLow
  ratio : ∃ width, decimalContext.sub feature.orHigh feature.orLow = .ok width ∧
    widthOverAtr width feature.preOrAtr14 = .ok feature.ratio
  atr_nonneg : 0 ≤ feature.preOrAtr14
  atr_settled : decimalContext.Settled feature.preOrAtr14
  volume_nonneg : 0 ≤ feature.trailingVolume
  volume_settled : decimalContext.Settled feature.trailingVolume
  reason : feature.reason = primaryReason (decide (feature.orLow < feature.orHigh))
    (decide (0 < feature.preOrAtr14)) (decide (activityFloorQuoteUsdt ≤ feature.trailingVolume))

/-- A true range is no less than the magnitude of a difference. -/
theorem trueRange_nonneg {previousClose range : ℚ} {bar : SelectionKline}
    (returned : trueRange previousClose bar = .ok range) : 0 ≤ range := by
  unfold trueRange at returned
  simp only [bind_eq_ok, pure_eq_ok] at returned
  obtain ⟨spread, -, rise, -, up, isUp, drop, -, down, -, rfl⟩ := returned
  obtain ⟨-, rfl⟩ := Context.finish_eq_ok.mp isUp
  exact le_max_of_le_right (le_max_of_le_left (Context.rounded_nonneg (abs_nonneg rise)))

theorem trueRanges_nonneg {bars : List SelectionKline} {previousClose : ℚ} {ranges : List ℚ}
    (returned : trueRanges previousClose bars = .ok ranges) : ∀ range ∈ ranges, 0 ≤ range := by
  induction bars generalizing previousClose ranges with
  | nil =>
      obtain rfl := Except.ok.inj returned
      nofun
  | cons bar bars ih =>
      unfold trueRanges at returned
      simp only [bind_eq_ok, pure_eq_ok] at returned
      obtain ⟨range, isRange, rest, isRest, rfl⟩ := returned
      intro item member
      rcases List.mem_cons.mp member with rfl | member
      · exact trueRange_nonneg isRange
      · exact ih isRest item member

/-- **What `openingRangeFeatures` returns is measured on the window.** -/
theorem measured_of_features (returned : openingRangeFeatures window = .ok feature) :
    Measured window feature := by
  unfold openingRangeFeatures at returned
  simp only [bind_eq_ok, pure_eq_ok, demand_eq_ok] at returned
  obtain ⟨before, -, ranges, isRanges, high, isHigh, low, isLow, width, isWidth, total, isTotal, atr,
    isAtr, volume, isVolume, ratio, isRatio, rfl⟩ := returned
  have inside {kline : SelectionKline} (member : kline ∈ (window.klines.take 96).drop 92) :
      kline ∈ window.klines := List.mem_of_mem_take (List.mem_of_mem_drop member)
  unfold Context.div at isAtr
  rw [refuse_bind_eq_ok] at isAtr
  obtain ⟨-, isAtr⟩ := isAtr
  constructor
  · rfl
  · obtain ⟨kline, member, same⟩ := List.mem_map.mp (List.max?_mem isHigh)
    exact ⟨kline, inside member, same⟩
  · obtain ⟨kline, member, same⟩ := List.mem_map.mp (List.min?_mem isLow)
    exact ⟨kline, inside member, same⟩
  · exact ⟨width, isWidth, isRatio⟩
  · obtain ⟨-, rfl⟩ := Context.finish_eq_ok.mp isAtr
    refine Context.rounded_nonneg (div_nonneg ?_ (by norm_num))
    exact Context.sum_nonneg (trueRanges_nonneg isRanges) isTotal
  · exact Context.settled_of_finish isAtr
  · refine Context.sum_nonneg (fun item member => ?_) isVolume
    obtain ⟨kline, -, rfl⟩ := List.mem_map.mp member
    exact kline.volume_nonneg
  · exact Context.settled_of_sum isVolume
  · rfl

theorem Measured.positive (measured : Measured window feature) :
    0 < feature.orHigh ∧ 0 < feature.orLow := by
  obtain ⟨atHigh, -, isHigh⟩ := measured.high
  obtain ⟨atLow, -, isLow⟩ := measured.low
  rw [← isHigh, ← isLow]
  exact ⟨atHigh.positive.2.1, atLow.positive.2.2.1⟩

/-- The ratio is settled, and so is the width. -/
theorem settled_of_ratio {high low atr width ratio : ℚ}
    (isWidth : decimalContext.sub high low = .ok width) (isRatio : widthOverAtr width atr = .ok ratio) :
    decimalContext.Settled width ∧ decimalContext.Settled ratio := by
  refine ⟨Context.settled_of_finish isWidth, ?_⟩
  unfold widthOverAtr at isRatio
  split_ifs at isRatio
  · obtain rfl := Except.ok.inj isRatio
    exact Context.settled_zero _
  · unfold Context.div at isRatio
    rw [refuse_bind_eq_ok] at isRatio
    exact Context.settled_of_finish isRatio.2

end Features

/-! ### The decision of a window -/

section Decision

/-- A rank that goes with a reason: none with one, and one of the 24 without. -/
def RankSuits (reason : Option SelectionMemberReason) (rank : Option ℤ) : Prop :=
  match reason with
  | some _ => rank = none
  | none => ∃ position, rank = some position ∧ 1 ≤ position ∧ position ≤ 24

theorem primaryReason_eq_none {geometry atr activity : Bool} :
    primaryReason geometry atr activity = none ↔ (geometry && atr && activity) = true := by
  cases geometry <;> cases atr <;> cases activity <;> decide

/-- The state that goes with a suitable rank is the one that the validator asks for. -/
theorem validateRankStateContract_of_suits {fields : SelectionMemberDecisionFields}
    (suits : RankSuits fields.primaryReason fields.stableRank)
    (ready : fields.selectionReady = decide (fields.primaryReason = none))
    (state : fields.memberState = memberStateOf fields.primaryReason fields.stableRank)
    (selected : fields.selected = decide (fields.memberState = .selected)) :
    fields.validateRankStateContract = .ok () := by
  unfold SelectionMemberDecisionFields.validateRankStateContract
  cases reason : fields.primaryReason with
  | some why =>
      rw [reason] at suits ready state
      have unranked : fields.stableRank = none := suits
      have ineligible : fields.memberState = .ineligible := state.trans (if_pos nofun)
      rw [ineligible] at selected
      rw [ready, selected, unranked, ineligible]
      rfl
  | none =>
      rw [reason] at suits ready state
      obtain ⟨position, isRank, first, last⟩ := suits
      rw [isRank] at state
      have placed : fields.memberState =
          if position ≤ 7 then .selected else if position ≤ 7 + 7 then .nearThreshold
          else .notSelected := state.trans (if_neg (not_not.mpr rfl))
      rw [ready, isRank]
      simp only [decide_true, not_true_eq_false, if_false, ne_eq, refuse_bind_eq_ok,
        demand_bind_eq_ok, not_false_eq_true, true_and, Option.some.injEq]
      refine ⟨position, rfl, not_not.mpr ⟨first, last⟩, ?_⟩
      by_cases atTop : position ≤ 7
      · rw [if_pos atTop] at placed
        rw [placed] at selected ⊢
        simp only [refuse_bind_eq_ok, refuse_eq_ok]
        exact ⟨not_not.mpr ⟨first, atTop⟩, not_not.mpr selected⟩
      · rw [if_neg atTop] at placed
        by_cases near : position ≤ 7 + 7
        · rw [if_pos near] at placed
          rw [placed] at selected ⊢
          simp only [refuse_bind_eq_ok, refuse_eq_ok]
          exact ⟨not_not.mpr ⟨by omega, near⟩, by rw [selected]; decide⟩
        · rw [if_neg near] at placed
          rw [placed] at selected ⊢
          simp only [refuse_bind_eq_ok, refuse_eq_ok]
          exact ⟨by omega, by rw [selected]; decide⟩

/-- A decision with the identities, the numbers and the rank that it was built of. -/
structure DecidedFrom (feature : OpeningRangeSelectionFeatures) (snapshotId specId : String)
    (startMs : ℤ) (rank : Option ℤ) (decision : SelectionMemberDecision) : Prop where
  exchangeInstrumentId : decision.exchangeInstrumentId = feature.window.exchangeInstrumentId
  selectionSnapshotId : decision.selectionSnapshotId = snapshotId
  selectionSpecId : decision.selectionSpecId = specId
  sessionStartMs : decision.sessionStartMs = startMs
  range : decision.orHigh = feature.orHigh ∧ decision.orLow = feature.orLow
  preOrAtr14 : decision.preOrAtr14 = feature.preOrAtr14
  ratio : decision.preOrWidthAtr14 = feature.ratio
  volume : decision.trailing24hQuoteVolume = feature.trailingVolume
  ready : decision.selectionReady = decide (feature.reason = none)
  stableRank : decision.stableRank = rank
  selected : decision.selected = decide (memberStateOf feature.reason rank = .selected)

/-- The digest of a decision exists where its numbers are settled. -/
theorem exists_memberSemanticDigest {payload : MemberDigestPayload}
    (canonical : isCanonicalInstrumentId payload.exchangeInstrumentId)
    (high : ∃ text, canonicalDecimalText payload.orHigh = .ok text)
    (low : ∃ text, canonicalDecimalText payload.orLow = .ok text)
    (width : decimalContext.Settled payload.orWidth) (atr : decimalContext.Settled payload.preOrAtr14)
    (ratio : decimalContext.Settled payload.preOrWidthAtr14)
    (volume : decimalContext.Settled payload.trailing24hQuoteVolume) :
    ∃ digest, memberSemanticDigest payload = .ok digest ∧ IsSha256Digest digest := by
  obtain ⟨high, isHigh⟩ := high
  obtain ⟨low, isLow⟩ := low
  obtain ⟨width, isWidth⟩ := exists_text_of_settled width
  obtain ⟨atr, isAtr⟩ := exists_text_of_settled atr
  obtain ⟨ratio, isRatio⟩ := exists_text_of_settled ratio
  obtain ⟨volume, isVolume⟩ := exists_text_of_settled volume
  unfold memberSemanticDigest parseInstrumentSymbol
  simp only [canonical, not_true_eq_false, isHigh, isLow, isWidth, isAtr, isRatio, isVolume, refuse,
    if_false, bind, Except.bind, pure, Except.pure]
  exact ⟨_, rfl, isSha256Digest_canonicalDigest _⟩

/-- Stripped identities are kept. -/
theorem normalize_eq_ok {fields : SelectionMemberDecisionFields}
    (identities : ∀ text ∈ [fields.selectionSnapshotId, fields.memberDecisionId,
      fields.selectionSpecId, fields.exchangeInstrumentId], strip text = text ∧ text ≠ "") :
    fields.normalize = .ok fields := by
  have kept (text : String) (member : text ∈ [fields.selectionSnapshotId, fields.memberDecisionId,
      fields.selectionSpecId, fields.exchangeInstrumentId]) :
      ∃ value, NonBlankText.ofText? text = some value ∧ value.text = text := by
    obtain ⟨stripped, nonempty⟩ := identities text member
    exact ⟨⟨text, stripped, nonempty⟩, NonBlankText.ofText?_text ⟨text, stripped, nonempty⟩, rfl⟩
  obtain ⟨snapshotId, isSnapshotId, sameSnapshotId⟩ := kept fields.selectionSnapshotId
    (by simp)
  obtain ⟨memberId, isMemberId, sameMemberId⟩ := kept fields.memberDecisionId (by simp)
  obtain ⟨specId, isSpecId, sameSpecId⟩ := kept fields.selectionSpecId (by simp)
  obtain ⟨instrument, isInstrument, sameInstrument⟩ := kept fields.exchangeInstrumentId
    (by simp)
  unfold SelectionMemberDecisionFields.normalize
  simp only [isSnapshotId, isMemberId, isSpecId, isInstrument, demand, bind, Except.bind, pure,
    Except.pure, sameSnapshotId, sameMemberId, sameSpecId, sameInstrument]

/-- A payload that passes each part of the validator is made into a decision. -/
theorem exists_decision_of_payload {payload : MemberDigestPayload}
    (identities : ∀ text ∈ [payload.selectionSnapshotId, payload.memberDecisionId,
      payload.selectionSpecId, payload.exchangeInstrumentId], strip text = text ∧ text ≠ "")
    (windowDigest : IsSha256Digest payload.inputWindowDigest)
    (canonical : isCanonicalInstrumentId payload.exchangeInstrumentId)
    (digested : ∃ digest, memberSemanticDigest payload = .ok digest ∧ IsSha256Digest digest)
    (checks : ∀ digest, let fields : SelectionMemberDecisionFields := ⟨payload, digest⟩
      fields.checkIdentity = .ok () ∧ fields.checkGeometry = .ok () ∧
        fields.checkQualification = .ok () ∧ fields.validateRankStateContract = .ok ()) :
    ∃ decision : SelectionMemberDecision, (do
        let digest ← memberSemanticDigest payload
        selectionMemberDecision ⟨payload, digest⟩) = .ok decision ∧
      decision.toMemberDigestPayload = payload := by
  obtain ⟨digest, isDigest, isSha⟩ := digested
  obtain ⟨identity, geometry, qualification, contract⟩ := checks digest
  have valid : (SelectionMemberDecisionFields.mk payload digest).check = .ok () := by
    unfold SelectionMemberDecisionFields.check parseInstrumentSymbol
    simp only [identity, geometry, qualification, contract, isDigest, canonical, windowDigest, isSha,
      refuse, and_self, not_true_eq_false, if_false, ne_eq, bind, Except.bind, pure, Except.pure]
  refine ⟨⟨⟨payload, digest⟩, valid⟩, ?_, rfl⟩
  rw [isDigest]
  show selectionMemberDecision ⟨payload, digest⟩ = _
  unfold selectionMemberDecision
  rw [normalize_eq_ok identities]
  exact certify_eq_ok.mpr ⟨valid, rfl⟩

/-- **A window that the context can hold has a decision** for every rank that suits its features. -/
theorem exists_decision {window : SelectionSourceWindow} {feature : OpeningRangeSelectionFeatures}
    {digest snapshotId specId : String} {startMs cutoffMs : ℤ} {rank : Option ℤ}
    (measured : Measured window feature) (digested : window.inputWindowDigest = .ok digest)
    (snapshotText : strip snapshotId = snapshotId ∧ snapshotId ≠ "")
    (specText : strip specId = specId ∧ specId ≠ "")
    (instrumentText : strip window.exchangeInstrumentId = window.exchangeInstrumentId)
    (midnight : 0 < startMs ∧ startMs % dayMs = 0) (cutoff : cutoffMs = startMs + hourMs)
    (start : window.inputWindowStartMs = startMs - 23 * hourMs)
    (suits : RankSuits feature.reason rank) :
    ∃ decision, buildSelectionMemberDecision snapshotId specId startMs cutoffMs
        window.inputWindowStartMs window.exchangeInstrumentId digest feature.orHigh feature.orLow
        feature.preOrAtr14 feature.trailingVolume rank (memberStateOf feature.reason rank)
        feature.reason = .ok decision ∧ DecidedFrom feature snapshotId specId startMs rank decision := by
  obtain ⟨width, isWidth, isRatio⟩ := measured.ratio
  obtain ⟨settledWidth, settledRatio⟩ := settled_of_ratio isWidth isRatio
  obtain ⟨highPos, lowPos⟩ := measured.positive
  have instrumentNonempty : window.exchangeInstrumentId ≠ "" := by
    intro empty
    have canonical := window.canonical
    rw [empty] at canonical
    exact absurd canonical (by decide)
  have ready : (decide (feature.orLow < feature.orHigh) && decide (0 < feature.preOrAtr14) &&
      decide (activityFloorQuoteUsdt ≤ feature.trailingVolume)) = decide (feature.reason = none) := by
    rw [Bool.eq_iff_iff, decide_eq_true_eq, measured.reason, primaryReason_eq_none]
  let payload := builtPayload snapshotId specId startMs cutoffMs window.inputWindowStartMs
    window.exchangeInstrumentId digest feature.orHigh feature.orLow width feature.preOrAtr14
    feature.ratio feature.trailingVolume rank (memberStateOf feature.reason rank) feature.reason
  have identities : ∀ text ∈ [payload.selectionSnapshotId, payload.memberDecisionId,
      payload.selectionSpecId, payload.exchangeInstrumentId], strip text = text ∧ text ≠ "" := by
    simp only [List.mem_cons, List.not_mem_nil, or_false, forall_eq_or_imp, forall_eq]
    refine ⟨snapshotText, ⟨?_, ?_⟩, specText, instrumentText, instrumentNonempty⟩
    · exact strip_between ":" snapshotText.1 instrumentText snapshotText.2 instrumentNonempty
    · intro empty
      have chars := congrArg String.toList empty
      simp [payload, builtPayload] at chars
  have payloadDigest : ∃ digest, memberSemanticDigest payload = .ok digest ∧
      IsSha256Digest digest := by
    obtain ⟨atHigh, inHigh, isHigh⟩ := measured.high
    obtain ⟨atLow, inLow, isLow⟩ := measured.low
    have high := (exists_texts_of_digest digested inHigh).1
    have low := (exists_texts_of_digest digested inLow).2
    rw [isHigh] at high
    rw [isLow] at low
    exact exists_memberSemanticDigest window.canonical high low settledWidth measured.atr_settled
      settledRatio measured.volume_settled
  have checks (own : String) : let fields : SelectionMemberDecisionFields := ⟨payload, own⟩
      fields.checkIdentity = .ok () ∧ fields.checkGeometry = .ok () ∧
        fields.checkQualification = .ok () ∧ fields.validateRankStateContract = .ok () := by
    refine ⟨?_, ?_, ?_, validateRankStateContract_of_suits suits ready rfl rfl⟩
    · unfold SelectionMemberDecisionFields.checkIdentity
      simp only [refuse_bind_eq_ok, refuse_eq_ok]
      exact ⟨not_or.mpr ⟨not_le.mpr midnight.1, not_not.mpr midnight.2⟩, not_not.mpr cutoff,
        not_not.mpr start, not_not.mpr rfl, not_not.mpr rfl⟩
    · unfold SelectionMemberDecisionFields.checkGeometry
      rw [refuse_bind_eq_ok, refuse_bind_eq_ok]
      refine ⟨not_or.mpr ⟨not_le.mpr highPos, not_le.mpr lowPos⟩,
        not_or.mpr ⟨not_lt.mpr measured.atr_nonneg, not_lt.mpr measured.volume_nonneg⟩, ?_⟩
      show (decimalContext.sub feature.orHigh feature.orLow >>= _) = _
      rw [isWidth]
      show (widthOverAtr width feature.preOrAtr14 >>= _) = _
      rw [isRatio]
      exact refuse_eq_ok.mpr (not_or.mpr ⟨not_not.mpr rfl, not_not.mpr rfl⟩)
    · unfold SelectionMemberDecisionFields.checkQualification
      simp only [refuse_bind_eq_ok, refuse_eq_ok]
      refine ⟨not_not.mpr rfl, ?_, not_not.mpr measured.reason, not_not.mpr rfl, ?_⟩
      · rintro ⟨ineligible, qualified⟩
        obtain ⟨position, isRank, -⟩ : ∃ position, rank = some position ∧ _ := by
          have own : feature.reason = none := qualified
          rw [own] at suits
          exact suits
        have state : memberStateOf feature.reason rank = .ineligible := ineligible
        rw [show feature.reason = none from qualified, isRank] at state
        unfold memberStateOf at state
        rw [if_neg (not_not.mpr rfl)] at state
        dsimp only at state
        split_ifs at state
      · have sameReady := ready
        rw [measured.reason] at sameReady
        exact not_not.mpr sameReady
  obtain ⟨decision, built, same⟩ := exists_decision_of_payload identities
    (isSha256Digest_of_windowDigest digested) window.canonical payloadDigest checks
  refine ⟨decision, ?_, ?_⟩
  · unfold buildSelectionMemberDecision
    rw [isWidth]
    show (widthOverAtr width feature.preOrAtr14 >>= _) = _
    rw [isRatio]
    exact built
  · have is {α : Type} (read : MemberDigestPayload → α) :
        read decision.toMemberDigestPayload = read payload := congrArg read same
    exact {
      exchangeInstrumentId := (is (·.exchangeInstrumentId)).trans
        (congrArg SelectionSourceWindow.exchangeInstrumentId measured.window_eq.symm)
      selectionSnapshotId := is (·.selectionSnapshotId)
      selectionSpecId := is (·.selectionSpecId)
      sessionStartMs := is (·.sessionStartMs)
      range := ⟨is (·.orHigh), is (·.orLow)⟩
      preOrAtr14 := is (·.preOrAtr14)
      ratio := is (·.preOrWidthAtr14)
      volume := is (·.trailing24hQuoteVolume)
      ready := (is (·.selectionReady)).trans ready
      stableRank := is (·.stableRank)
      selected := is (·.selected) }

end Decision

end TradingKernel.Selection
