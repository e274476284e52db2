/-
**The identity of a signal of a session event.**

A session event has one episode for each session: its identity digests the event, the instrument, the
side and the identity references among the facts, and the identity of the signal digests the episode.
So results that name one session have one signal (`producedIdentity_eq_ok`).
-/

import TradingKernel.Domain.Detectors.SessionVerdicts
import TradingKernel.Lib.CanonicalJson

namespace TradingKernel.Observation

open CanonicalJson Detectors Guard Sha256 Text

structure SignalIdentity where
  exposureEpisodeId : String
  signalEventId : String
  deriving DecidableEq

/-- `_canonical_decimal`. -/
def canonicalDecimal : FactValue → Except String String
  | .decimal value => .ok (decimalText value)
  | .boolean _ => .error "InvalidOperation"

/-- The episode of a session, and its signal. -/
def sessionIdentity (eventSpecId exchangeInstrumentId : String) (positionSide : PositionSide)
    (identityReferences : List String) : SignalIdentity :=
  let episodeId := "episode:" ++ hexDigest (asciiJson (.object [
    ("event_spec_id", .text eventSpecId), ("exchange_instrument_id", .text exchangeInstrumentId),
    ("position_side", .text positionSide.value),
    ("identity_references", .array (identityReferences.map .text))]))
  ⟨episodeId, "signal:" ++ hexDigest (asciiJson (.object [("exposure_episode_id", .text episodeId)]))⟩

/-- The identity that `produce_strategy_signal` gives to a result of a session event. -/
def producedIdentity (contract : RegisteredStrategyContract) (exchangeInstrumentId : String)
    (result : DetectorResult) : Except String SignalIdentity := do
  refuse (result.status ≠ .triggered ∨ result.occurredAtMs = none)
    "StrategySignal requires a triggered detector result"
  refuse (result.eventSpecId ≠ contract.eventSpecId)
    "Signal contract and runtime scope identity differ"
  let references ← result.identityReferences.mapM canonicalDecimal
  refuse (references = []) "session-reference Signal requires identity facts"
  return sessionIdentity contract.eventSpecId exchangeInstrumentId contract.positionSide references

/-- The text of a natural number is its digits. -/
theorem decimalText_natCast (n : ℕ) : decimalText (n : ℚ) = toString n := by
  have whole : fractionDigits 1 = 0 := by decide
  have nonneg : ¬ (n : ℚ) < 0 := not_lt.mpr (Nat.cast_nonneg n)
  unfold decimalText
  rw [show (n : ℚ).den = 1 from rfl, show (n : ℚ).num = (n : ℤ) from rfl, whole]
  simp [nonneg]

/-- **A result that names one session has the identity of that session.** -/
theorem producedIdentity_eq_ok {contract : RegisteredStrategyContract} {exchangeInstrumentId : String}
    {result : DetectorResult} {n : ℕ} (triggered : result.status = .triggered)
    (event : result.eventSpecId = contract.eventSpecId)
    (references : result.identityReferences = [.decimal (n : ℚ)]) :
    producedIdentity contract exchangeInstrumentId result =
      .ok (sessionIdentity contract.eventSpecId exchangeInstrumentId contract.positionSide
        [toString n]) := by
  have occurred : result.occurredAtMs ≠ none := by
    intro missing
    have valid := result.valid
    unfold ResultFields.check at valid
    rw [refuse_bind_eq_ok, if_pos triggered, missing] at valid
    obtain ⟨-, timed⟩ := valid
    simp only [refuse_bind_eq_ok] at timed
    exact timed.1 (by simp)
  unfold producedIdentity
  rw [refuse_bind_eq_ok, refuse_bind_eq_ok, references]
  refine ⟨not_or.mpr ⟨not_not.mpr triggered, occurred⟩, not_not.mpr event, ?_⟩
  rw [List.mapM_cons]
  simp only [canonicalDecimal, decimalText_natCast]
  rfl

end TradingKernel.Observation
