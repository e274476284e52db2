/-
**The price at which closing the runner covers its costs.**

The break-even of a runner is its entry notional with the allocated entry fee and the slippage
buffer, divided by what is left of a unit after the exit fee, and rounded away from the losing side:
up for a long position, down for a short one. It covers the costs at the tick closest to the entry
price, and for a long position it is positive. For a short position the sign is checked before the
rounding, so a raw price below one tick comes out as zero
(`break_even_tight_iff_tick_affordable`,
`short_break_even_rounds_to_zero`).
-/

import TradingKernel.Lib.Grid
import TradingKernel.Lib.Guard

namespace TradingKernel

open Guard

/-! ### The calculation -/

/-- The arguments of `calculate_cost_adjusted_break_even`. -/
structure BreakEvenFacts where
  side : String
  entryAveragePrice : ℚ
  runnerQuantity : ℚ
  allocatedEntryFeeQuote : ℚ
  exitTakerFeeRate : ℚ
  priceTick : ℚ
  slippageBufferTicks : ℤ

namespace BreakEvenFacts

variable (facts : BreakEvenFacts)

/-- `_require_financial_inputs`. -/
def requireFinancialInputs : Except String Unit := do
  refuse (facts.entryAveragePrice ≤ 0 ∨ facts.runnerQuantity ≤ 0 ∨ facts.priceTick ≤ 0)
    "break-even price, quantity, and tick must be positive"
  refuse (facts.allocatedEntryFeeQuote < 0 ∨ facts.slippageBufferTicks < 0)
    "break-even fee and slippage values cannot be negative"
  refuse (¬ (0 ≤ facts.exitTakerFeeRate ∧ facts.exitTakerFeeRate < 1))
    "exit taker fee rate must be in [0, 1)"

def slippageBufferQuote : ℚ :=
  facts.priceTick * facts.slippageBufferTicks * facts.runnerQuantity

def entryNotional : ℚ := facts.entryAveragePrice * facts.runnerQuantity

/-- The break-even of a long runner before rounding. -/
def longRaw : ℚ :=
  (facts.entryNotional + facts.allocatedEntryFeeQuote + facts.slippageBufferQuote) /
    (facts.runnerQuantity * (1 - facts.exitTakerFeeRate))

/-- The break-even of a short runner before rounding. -/
def shortRaw : ℚ :=
  (facts.entryNotional - facts.allocatedEntryFeeQuote - facts.slippageBufferQuote) /
    (facts.runnerQuantity * (1 + facts.exitTakerFeeRate))

/-- `calculate_cost_adjusted_break_even`. -/
def calculateCostAdjustedBreakEven : Except String ℚ := do
  facts.requireFinancialInputs
  if facts.side = "long" then return ceilTo facts.priceTick facts.longRaw
  else if facts.side = "short" then
    refuse (facts.shortRaw ≤ 0) "short break-even floor must remain positive"
    return floorTo facts.priceTick facts.shortRaw
  else .error "position side must be long or short"

/-! ### What a break-even price is for -/

/-- Plus one for a long runner, minus one for a short one: the sign of a gain in price. -/
def direction : ℚ := if facts.side = "long" then 1 else -1

/-- What closing the runner at a price leaves of its entry notional, after the entry fee, the exit fee
and the slippage buffer. -/
def netResult (price : ℚ) : ℚ :=
  let exitNotional := price * facts.runnerQuantity
  facts.direction * (exitNotional - facts.entryNotional) - facts.allocatedEntryFeeQuote -
    facts.exitTakerFeeRate * exitNotional - facts.slippageBufferQuote

/-- A positive price on the tick grid that covers all costs, on the winning side of the entry price,
and no farther from it than any other tick that covers them. -/
structure CoversTightly (price : ℚ) : Prop where
  positive : 0 < price
  grid : OnGrid facts.priceTick price
  covers : 0 ≤ facts.netResult price
  winning : 0 ≤ facts.direction * (price - facts.entryAveragePrice)
  closest : ∀ tick, OnGrid facts.priceTick tick → 0 ≤ facts.netResult tick →
    |price - facts.entryAveragePrice| ≤ |tick - facts.entryAveragePrice|

/-- The runner is long, or what a short entry leaves after its fee and the buffer pays for closing the
runner at a price of one tick. -/
def TickAffordable : Prop :=
  facts.side = "long" ∨
    facts.priceTick * facts.runnerQuantity * (1 + facts.exitTakerFeeRate) ≤
      facts.entryNotional - facts.allocatedEntryFeeQuote - facts.slippageBufferQuote

/-! ### What the calculation accepts -/

/-- What `_require_financial_inputs` leaves. -/
structure Sound : Prop where
  entryAveragePrice : 0 < facts.entryAveragePrice
  runnerQuantity : 0 < facts.runnerQuantity
  priceTick : 0 < facts.priceTick
  allocatedEntryFeeQuote : 0 ≤ facts.allocatedEntryFeeQuote
  slippageBufferTicks : 0 ≤ facts.slippageBufferTicks
  feeNonneg : 0 ≤ facts.exitTakerFeeRate
  feeBelowOne : facts.exitTakerFeeRate < 1

variable {facts} {price : ℚ}

theorem sound_of_requireFinancialInputs {done : Unit}
    (passed : facts.requireFinancialInputs = .ok done) : facts.Sound := by
  unfold requireFinancialInputs at passed
  simp only [refuse_bind_eq_ok, refuse_eq_ok, not_or, not_le, not_lt, not_not] at passed
  obtain ⟨⟨entry, quantity, tick⟩, ⟨fee, ticks⟩, feeNonneg, feeBelowOne⟩ := passed
  exact ⟨entry, quantity, tick, fee, ticks, feeNonneg, feeBelowOne⟩

/-- **What the calculation returns**: the raw price of the side, rounded away from the losing side. -/
theorem returned (calculated : facts.calculateCostAdjustedBreakEven = .ok price) :
    facts.Sound ∧ (facts.side = "long" ∧ price = ceilTo facts.priceTick facts.longRaw ∨
      facts.side = "short" ∧ 0 < facts.shortRaw ∧
        price = floorTo facts.priceTick facts.shortRaw) := by
  obtain ⟨done, passed, calculated⟩ := bind_eq_ok.mp calculated
  refine ⟨sound_of_requireFinancialInputs passed, ?_⟩
  split_ifs at calculated with long short
  · exact .inl ⟨long, pure_eq_ok.mp calculated⟩
  · obtain ⟨positive, calculated⟩ := refuse_bind_eq_ok.mp calculated
    exact .inr ⟨short, not_le.mp positive, pure_eq_ok.mp calculated⟩

namespace Sound

variable (sound : facts.Sound)

include sound in
theorem slippageBufferQuote_nonneg : 0 ≤ facts.slippageBufferQuote :=
  mul_nonneg (mul_nonneg sound.priceTick.le (Int.cast_nonneg sound.slippageBufferTicks))
    sound.runnerQuantity.le

/-! ### The long side -/

section Long

variable (long : facts.side = "long")

include long in
theorem direction_long : facts.direction = 1 := if_pos long

include sound in
theorem longDivisor_pos : 0 < facts.runnerQuantity * (1 - facts.exitTakerFeeRate) :=
  mul_pos sound.runnerQuantity (sub_pos.mpr sound.feeBelowOne)

include sound long in
/-- A price covers the costs of a long runner from the raw price up. -/
theorem covers_long_iff : 0 ≤ facts.netResult price ↔ facts.longRaw ≤ price := by
  rw [longRaw, div_le_iff₀ sound.longDivisor_pos, netResult, direction_long long]
  constructor <;> intro covers <;> linarith

include sound in
/-- The raw price of a long runner is above its entry price. -/
theorem entry_le_longRaw : facts.entryAveragePrice ≤ facts.longRaw := by
  rw [longRaw, le_div_iff₀ sound.longDivisor_pos]
  have fee : 0 ≤ facts.entryAveragePrice * facts.runnerQuantity * facts.exitTakerFeeRate :=
    mul_nonneg (mul_pos sound.entryAveragePrice sound.runnerQuantity).le sound.feeNonneg
  calc facts.entryAveragePrice * (facts.runnerQuantity * (1 - facts.exitTakerFeeRate))
      = facts.entryNotional -
          facts.entryAveragePrice * facts.runnerQuantity * facts.exitTakerFeeRate := by
        rw [entryNotional]
        ring
    _ ≤ facts.entryNotional := sub_le_self _ fee
    _ ≤ facts.entryNotional + facts.allocatedEntryFeeQuote + facts.slippageBufferQuote :=
        le_add_of_le_of_nonneg (le_add_of_nonneg_right sound.allocatedEntryFeeQuote)
          sound.slippageBufferQuote_nonneg

include sound long in
/-- **The break-even of a long runner covers its costs tightly.** -/
theorem coversTightly_long : facts.CoversTightly (ceilTo facts.priceTick facts.longRaw) := by
  have above : facts.longRaw ≤ ceilTo facts.priceTick facts.longRaw := le_ceilTo sound.priceTick
  have entry := sound.entry_le_longRaw.trans above
  refine ⟨sound.entryAveragePrice.trans_le entry, onGrid_ceilTo,
    (sound.covers_long_iff long).mpr above, ?_, fun tick grid covers => ?_⟩
  · rw [direction_long long, one_mul]
    exact sub_nonneg.mpr entry
  · have reaches := (ceilTo_le_iff sound.priceTick grid).mpr ((sound.covers_long_iff long).mp covers)
    rw [abs_of_nonneg (sub_nonneg.mpr entry), abs_of_nonneg (sub_nonneg.mpr (entry.trans reaches))]
    exact sub_le_sub_right reaches _

end Long

/-! ### The short side -/

section Short

variable (short : facts.side = "short")

include short in
theorem direction_short : facts.direction = -1 :=
  if_neg (by rw [short]; decide)

include sound in
theorem shortDivisor_pos : 0 < facts.runnerQuantity * (1 + facts.exitTakerFeeRate) :=
  mul_pos sound.runnerQuantity (add_pos_of_pos_of_nonneg one_pos sound.feeNonneg)

include sound short in
/-- A price covers the costs of a short runner from the raw price down. -/
theorem covers_short_iff : 0 ≤ facts.netResult price ↔ price ≤ facts.shortRaw := by
  rw [shortRaw, le_div_iff₀ sound.shortDivisor_pos, netResult, direction_short short]
  constructor <;> intro covers <;> linarith

include sound in
/-- The raw price of a short runner is below its entry price. -/
theorem shortRaw_le_entry : facts.shortRaw ≤ facts.entryAveragePrice := by
  rw [shortRaw, div_le_iff₀ sound.shortDivisor_pos]
  have fee : 0 ≤ facts.entryAveragePrice * facts.runnerQuantity * facts.exitTakerFeeRate :=
    mul_nonneg (mul_pos sound.entryAveragePrice sound.runnerQuantity).le sound.feeNonneg
  calc facts.entryNotional - facts.allocatedEntryFeeQuote - facts.slippageBufferQuote
      ≤ facts.entryNotional :=
        (sub_le_self _ sound.slippageBufferQuote_nonneg).trans
          (sub_le_self _ sound.allocatedEntryFeeQuote)
    _ ≤ facts.entryNotional +
          facts.entryAveragePrice * facts.runnerQuantity * facts.exitTakerFeeRate :=
        le_add_of_nonneg_right fee
    _ = facts.entryAveragePrice * (facts.runnerQuantity * (1 + facts.exitTakerFeeRate)) := by
        rw [entryNotional]
        ring

include sound short in
/-- A short runner can be closed at one tick exactly when the raw price reaches it. -/
theorem tick_le_shortRaw_iff : facts.priceTick ≤ facts.shortRaw ↔ facts.TickAffordable := by
  have notLong : facts.side ≠ "long" := by
    rw [short]
    decide
  rw [shortRaw, le_div_iff₀ sound.shortDivisor_pos, ← mul_assoc]
  exact (or_iff_right notLong).symm

include sound short in
/-- **The break-even of a short runner covers its costs tightly**, when it is not rounded to zero. -/
theorem coversTightly_short (reaches : facts.priceTick ≤ facts.shortRaw) :
    facts.CoversTightly (floorTo facts.priceTick facts.shortRaw) := by
  have below : floorTo facts.priceTick facts.shortRaw ≤ facts.shortRaw := floorTo_le sound.priceTick
  have entry := below.trans sound.shortRaw_le_entry
  refine ⟨(floorTo_pos_iff sound.priceTick).mpr reaches, onGrid_floorTo,
    (sound.covers_short_iff short).mpr below, ?_, fun tick grid covers => ?_⟩
  · rw [direction_short short, neg_one_mul, neg_sub]
    exact sub_nonneg.mpr entry
  · have under := (le_floorTo_iff sound.priceTick grid).mpr ((sound.covers_short_iff short).mp covers)
    rw [abs_of_nonpos (sub_nonpos.mpr entry), abs_of_nonpos (sub_nonpos.mpr (under.trans entry)),
      neg_sub, neg_sub]
    exact sub_le_sub_left under _

end Short

end Sound

/-! ### The law and its exception -/

/-- **The break-even price covers all costs tightly if and only if the runner is long or can be closed
at one tick.** -/
theorem break_even_tight_iff_tick_affordable
    (calculated : facts.calculateCostAdjustedBreakEven = .ok price) :
    facts.CoversTightly price ↔ facts.TickAffordable := by
  obtain ⟨sound, ⟨long, rfl⟩ | ⟨short, -, rfl⟩⟩ := returned calculated
  · exact ⟨fun _ => .inl long, fun _ => sound.coversTightly_long long⟩
  · rw [← sound.tick_le_shortRaw_iff short]
    exact ⟨fun tight => (floorTo_pos_iff sound.priceTick).mp tight.positive,
      sound.coversTightly_short short⟩

/-- A short runner of two units at 100 that paid two in fees, with a fee rate of one half per cent. -/
def sampleShort : BreakEvenFacts where
  side := "short"
  entryAveragePrice := 100
  runnerQuantity := 2
  allocatedEntryFeeQuote := 2
  exitTakerFeeRate := 1 / 200
  priceTick := 1 / 10
  slippageBufferTicks := 2

/-- The law on a short runner. -/
theorem break_even_tight_of_short_runner : ∃ price,
    sampleShort.calculateCostAdjustedBreakEven = .ok price ∧ sampleShort.CoversTightly price := by
  have calculated : sampleShort.calculateCostAdjustedBreakEven = .ok (983 / 10) := by decide +kernel
  exact ⟨_, calculated, (break_even_tight_iff_tick_affordable calculated).mpr
    (.inr (by decide +kernel))⟩

/-- **The floor at zero.** The costs leave a short runner half a tick per unit, and its break-even
price is zero. -/
theorem short_break_even_rounds_to_zero : ¬ ∀ (facts : BreakEvenFacts) (price : ℚ),
    facts.calculateCostAdjustedBreakEven = .ok price → facts.CoversTightly price := by
  intro law
  have tight := law ⟨"short", 2, 1, 3 / 2, 0, 1, 0⟩ 0 (by decide +kernel)
  exact absurd tight.positive (lt_irrefl 0)

end BreakEvenFacts

end TradingKernel
