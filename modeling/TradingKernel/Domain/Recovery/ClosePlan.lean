/-
**The hourly closes around a gap of authority.**

At a moment of a selection period some closes of the period are missed, and a recovery may use those
from the next one on. `missed` and `uncovered` count the hours since the period became effective in
closed form; `recovery_close_partition` says that what is missed and what a recovery may still use are
the closes of the period, each of them once, and when a plan is made and committed.
-/

import TradingKernel.Domain.Selection.Source
import TradingKernel.Lib.Guard
import TradingKernel.Lib.Timeline

namespace TradingKernel.Recovery

open Guard Text Timeline
open Selection (hourMs)

/-! ### The period -/

structure GenericSelectionPeriod where
  featureCutoffAtMs : ℤ
  cadenceHours : ℤ
  scheduledEffectiveAtMs : ℤ
  periodExpiresAtMs : ℤ
  cadence : cadenceHours = 1 ∨ cadenceHours = 4
  cutoff : 0 < featureCutoffAtMs ∧ cadenceHours * hourMs ∣ featureCutoffAtMs
  scheduled : scheduledEffectiveAtMs = featureCutoffAtMs + hourMs
  expires : periodExpiresAtMs = scheduledEffectiveAtMs + cadenceHours * hourMs

namespace GenericSelectionPeriod

/-- The hourly closes of the period. -/
def closes (period : GenericSelectionPeriod) : List ℤ :=
  steps period.scheduledEffectiveAtMs period.periodExpiresAtMs hourMs

end GenericSelectionPeriod

/-- `missed_closes_at_gap_fence`. -/
def missedClosesAtGapFence (period : GenericSelectionPeriod) (fencedAtMs : ℤ) :
    Except String (List ℤ) := do
  refuse (fencedAtMs < period.scheduledEffectiveAtMs) "gap fence precedes its Selection period"
  let latest := fencedAtMs / hourMs * hourMs
  return steps period.scheduledEffectiveAtMs
    (min latest (period.periodExpiresAtMs - hourMs) + 1) hourMs

/-- `uncovered_close_count_since_gap`. -/
def uncoveredCloseCountSinceGap (period : GenericSelectionPeriod) (fencedAtMs : ℤ) :
    Except String ℤ := do
  refuse (fencedAtMs < period.scheduledEffectiveAtMs) "gap fence precedes its Selection period"
  return (fencedAtMs / hourMs * hourMs - period.scheduledEffectiveAtMs) / hourMs + 1

/-! ### The plan -/

inductive HourlyRecoveryReason where
  | authorityGap
  | materializationFailure
  | materializationTimeout
  | failedRecovery
  | staleSource
  | vacuumInterruption
  | unprovenCrashContinuity
  | comparisonProvenanceLost
  deriving DecidableEq, Repr

inductive HourlyRecoveryStatus where
  | futureCloseRebaseRequired
  | noEligibleCloseBeforeExpiry
  deriving DecidableEq, Repr

structure RecoveryCloseFields where
  recoveryId : String
  recoveryRevision : ℤ
  reason : HourlyRecoveryReason
  period : GenericSelectionPeriod
  evaluatedAtMs : ℤ
  status : HourlyRecoveryStatus
  firstEligibleCloseTimeMs : Option ℤ

/-- The next close that is strictly in the future, not before the period is effective. -/
def nextClose (period : GenericSelectionPeriod) (evaluatedAtMs : ℤ) : ℤ :=
  max period.scheduledEffectiveAtMs ((evaluatedAtMs / hourMs + 1) * hourMs)

/-- `_validate_recovery_clock`. -/
def RecoveryCloseFields.check (fields : RecoveryCloseFields) : Except String Unit := do
  let first := nextClose fields.period fields.evaluatedAtMs
  refuse (Blank fields.recoveryId ∨ 160 < fields.recoveryId.length ∨ fields.recoveryRevision ≤ 0)
    "recovery requires durable identity and revision"
  refuse (fields.evaluatedAtMs < fields.period.featureCutoffAtMs)
    "recovery cannot plan beyond the adjacent eligible period"
  if fields.period.periodExpiresAtMs ≤ first then
    refuse (fields.status ≠ .noEligibleCloseBeforeExpiry ∨
      fields.firstEligibleCloseTimeMs ≠ none)
      "recovery cannot invent an eligible close before expiry"
  else
    refuse (fields.status ≠ .futureCloseRebaseRequired ∨
      fields.firstEligibleCloseTimeMs ≠ some first)
      "recovery requires the next strictly future close"

/-- A plan that has passed its validator. -/
structure HourlyRecoveryClosePlan extends RecoveryCloseFields where
  valid : toRecoveryCloseFields.check = .ok ()

/-- The fields of a plan, by its evaluation. -/
def plannedFields (recoveryId : String) (recoveryRevision : ℤ) (reason : HourlyRecoveryReason)
    (period : GenericSelectionPeriod) (evaluatedAtMs : ℤ) : RecoveryCloseFields :=
  let first := nextClose period evaluatedAtMs
  let eligible : Bool := first < period.periodExpiresAtMs
  { recoveryId := recoveryId
    recoveryRevision := recoveryRevision
    reason := reason
    period := period
    evaluatedAtMs := evaluatedAtMs
    status := if eligible then .futureCloseRebaseRequired else .noEligibleCloseBeforeExpiry
    firstEligibleCloseTimeMs := if eligible then some first else none }

/-- `plan_hourly_recovery_close`. -/
def planHourlyRecoveryClose (recoveryId : String) (recoveryRevision : ℤ)
    (reason : HourlyRecoveryReason) (period : GenericSelectionPeriod) (evaluatedAtMs : ℤ) :
    Except String HourlyRecoveryClosePlan :=
  let fields := plannedFields recoveryId recoveryRevision reason period evaluatedAtMs
  certify fields.check fun valid => ⟨fields, valid⟩

/-- `require_hourly_recovery_commit`. -/
def requireHourlyRecoveryCommit (plan : HourlyRecoveryClosePlan) (committedAtMs : ℤ) :
    Except String Unit := do
  refuse (plan.status = .noEligibleCloseBeforeExpiry) "NO_ELIGIBLE_CLOSE_BEFORE_EXPIRY"
  refuse (¬ ∃ first ∈ plan.firstEligibleCloseTimeMs, plan.evaluatedAtMs ≤ committedAtMs ∧
      committedAtMs < first ∧ first < plan.period.periodExpiresAtMs)
    "recovery commit crossed its future-close boundary; replan required"

/-- The closes that a recovery may still use. -/
def HourlyRecoveryClosePlan.eligibleCloses (plan : HourlyRecoveryClosePlan) : List ℤ :=
  match plan.firstEligibleCloseTimeMs with
  | none => []
  | some first => steps first plan.period.periodExpiresAtMs hourMs

/-! ### The hours since the period became effective -/

section Hours

variable {period : GenericSelectionPeriod} {time : ℤ}

theorem hourMs_pos : 0 < hourMs := by
  decide

namespace GenericSelectionPeriod

theorem hour_dvd_scheduled : hourMs ∣ period.scheduledEffectiveAtMs := by
  rw [period.scheduled]
  exact dvd_add ((Dvd.intro_left _ rfl).trans period.cutoff.2) dvd_rfl

theorem cadence_pos : 0 < period.cadenceHours := by
  rcases period.cadence with hourly | fourHourly <;> omega

/-- How many closes there are from the effective time up to a time, the latter included. -/
def elapsed (period : GenericSelectionPeriod) (time : ℤ) : ℤ :=
  (time / hourMs * hourMs - period.scheduledEffectiveAtMs) / hourMs + 1

variable (period time) in
/-- The next close in the future, by the number of those elapsed. -/
theorem next_eq : (time / hourMs + 1) * hourMs =
    period.scheduledEffectiveAtMs + period.elapsed time * hourMs := by
  unfold elapsed
  rw [add_mul, add_mul, Int.ediv_mul_cancel
    (dvd_sub (Dvd.intro_left _ rfl) hour_dvd_scheduled)]
  ring

theorem elapsed_pos (since : period.scheduledEffectiveAtMs ≤ time) : 0 < period.elapsed time := by
  have hour := hourMs_pos
  have after : time < (time / hourMs + 1) * hourMs := Int.lt_ediv_add_one_mul_self time hour
  rw [next_eq period time] at after
  by_contra none_elapsed
  have : period.elapsed time * hourMs ≤ 0 :=
    mul_nonpos_of_nonpos_of_nonneg (not_lt.mp none_elapsed) hour.le
  omega

theorem elapsed_le (before : time < period.periodExpiresAtMs) :
    period.elapsed time ≤ period.cadenceHours := by
  have hour := hourMs_pos
  have latest : time / hourMs * hourMs ≤ time := Int.ediv_mul_le time hour.ne'
  have next := next_eq period time
  rw [period.expires] at before
  refine le_of_mul_le_mul_right ?_ hour
  by_contra beyond
  have apart : period.cadenceHours * hourMs + hourMs ≤ period.elapsed time * hourMs := by
    rw [← add_one_mul]
    exact mul_le_mul_of_nonneg_right
      (lt_of_mul_lt_mul_right (not_le.mp beyond) hour.le) hour.le
  rw [add_mul, one_mul] at next
  omega

theorem nextClose_eq (since : period.scheduledEffectiveAtMs ≤ time) :
    nextClose period time = period.scheduledEffectiveAtMs + period.elapsed time * hourMs := by
  unfold nextClose
  rw [next_eq period time]
  refine max_eq_right (le_add_of_nonneg_right ?_)
  exact mul_nonneg (elapsed_pos since).le hourMs_pos.le

end GenericSelectionPeriod

/-- **The missed closes**: those elapsed, as far as the period has them. -/
theorem missedClosesAtGapFence_eq_ok {missed : List ℤ} :
    missedClosesAtGapFence period time = .ok missed ↔ period.scheduledEffectiveAtMs ≤ time ∧
      missed = steps period.scheduledEffectiveAtMs (period.scheduledEffectiveAtMs +
        min (period.elapsed time) period.cadenceHours * hourMs) hourMs := by
  have hour := hourMs_pos
  have next := period.next_eq time
  have last : min (time / hourMs * hourMs) (period.periodExpiresAtMs - hourMs) =
      period.scheduledEffectiveAtMs +
        (min (period.elapsed time) period.cadenceHours - 1) * hourMs := by
    rw [period.expires]
    rw [add_mul, one_mul] at next
    rcases le_total (period.elapsed time) period.cadenceHours with fewer | all
    · have := mul_le_mul_of_nonneg_right fewer hour.le
      rw [min_eq_left fewer, sub_mul, one_mul]
      omega
    · have := mul_le_mul_of_nonneg_right all hour.le
      rw [min_eq_right all, sub_mul, one_mul]
      omega
  unfold missedClosesAtGapFence
  simp only [refuse_bind_eq_ok, pure_eq_ok, not_lt]
  refine and_congr_right fun _ => ?_
  rw [last, steps_through hour (by rw [add_sub_cancel_left]; exact Dvd.intro_left _ rfl), add_assoc,
    sub_mul, one_mul, sub_add_cancel]

theorem uncoveredCloseCountSinceGap_eq_ok {count : ℤ} :
    uncoveredCloseCountSinceGap period time = .ok count ↔
      period.scheduledEffectiveAtMs ≤ time ∧ count = period.elapsed time := by
  unfold uncoveredCloseCountSinceGap
  simp only [refuse_bind_eq_ok, pure_eq_ok, not_lt]
  rfl

end Hours

/-! ### When there is a plan -/

section Plans

variable {recoveryId : String} {recoveryRevision : ℤ} {reason : HourlyRecoveryReason}
  {period : GenericSelectionPeriod} {time : ℤ}

variable (reason) in
/-- The fields of a plan pass the check of its clock; only the identity and the cutoff can fail. -/
theorem check_plannedFields :
    (plannedFields recoveryId recoveryRevision reason period time).check = .ok () ↔
      (¬ Blank recoveryId ∧ recoveryId.length ≤ 160 ∧ 0 < recoveryRevision) ∧
        period.featureCutoffAtMs ≤ time := by
  unfold RecoveryCloseFields.check plannedFields
  dsimp only
  rw [refuse_bind_eq_ok, refuse_bind_eq_ok]
  simp only [not_or, not_lt, not_le]
  refine and_congr_right fun _ => and_iff_left_iff_imp.mpr fun _ => ?_
  by_cases eligible : nextClose period time < period.periodExpiresAtMs
  · rw [if_neg (not_le.mpr eligible), refuse_eq_ok]
    simp [eligible]
  · rw [if_pos (not_lt.mp eligible), refuse_eq_ok]
    simp [eligible]

theorem planHourlyRecoveryClose_eq_ok {plan : HourlyRecoveryClosePlan} :
    planHourlyRecoveryClose recoveryId recoveryRevision reason period time = .ok plan ↔
      plan.toRecoveryCloseFields =
        plannedFields recoveryId recoveryRevision reason period time := by
  unfold planHourlyRecoveryClose
  rw [certify_eq_ok]
  constructor
  · rintro ⟨valid, rfl⟩
    rfl
  · obtain ⟨fields, valid⟩ := plan
    rintro rfl
    exact ⟨valid, rfl⟩

/-- The first close of a plan is before the end of its period. -/
theorem HourlyRecoveryClosePlan.first_lt (plan : HourlyRecoveryClosePlan) {first : ℤ}
    (isFirst : plan.firstEligibleCloseTimeMs = some first) :
    plan.status ≠ .noEligibleCloseBeforeExpiry ∧ first < plan.period.periodExpiresAtMs := by
  have valid := plan.valid
  unfold RecoveryCloseFields.check at valid
  dsimp only at valid
  rw [refuse_bind_eq_ok, refuse_bind_eq_ok] at valid
  obtain ⟨-, -, clock⟩ := valid
  split_ifs at clock with expired
  · rw [refuse_eq_ok, isFirst] at clock
    exact absurd (.inr (Option.some_ne_none first)) clock
  · rw [refuse_eq_ok, not_or, not_ne_iff, not_ne_iff, isFirst, Option.some.injEq] at clock
    obtain ⟨isStatus, rfl⟩ := clock
    exact ⟨by rw [isStatus]; decide, not_le.mp expired⟩

theorem requireHourlyRecoveryCommit_eq_ok {plan : HourlyRecoveryClosePlan} {committedAtMs : ℤ} :
    requireHourlyRecoveryCommit plan committedAtMs = .ok () ↔
      ∃ first, plan.firstEligibleCloseTimeMs = some first ∧ plan.evaluatedAtMs ≤ committedAtMs ∧
        committedAtMs < first := by
  unfold requireHourlyRecoveryCommit
  rw [refuse_bind_eq_ok, refuse_eq_ok, not_not]
  constructor
  · rintro ⟨-, first, isFirst, since, before, -⟩
    exact ⟨first, isFirst, since, before⟩
  · rintro ⟨first, isFirst, since, before⟩
    obtain ⟨eligible, inPeriod⟩ := plan.first_lt isFirst
    exact ⟨eligible, first, isFirst, since, before, inPeriod⟩

/-- **Missed and eligible closes are the period's.** -/
theorem missed_append_eligible {plan : HourlyRecoveryClosePlan} {missed : List ℤ}
    (before : time < period.periodExpiresAtMs)
    (isMissed : missedClosesAtGapFence period time = .ok missed)
    (planned : planHourlyRecoveryClose recoveryId recoveryRevision reason period time = .ok plan) :
    missed ++ plan.eligibleCloses = period.closes := by
  obtain ⟨since, rfl⟩ := missedClosesAtGapFence_eq_ok.mp isMissed
  have hour := hourMs_pos
  have fields := planHourlyRecoveryClose_eq_ok.mp planned
  have fewer := period.elapsed_le before
  have nonneg := mul_nonneg (period.elapsed_pos since).le hour.le
  have within := mul_le_mul_of_nonneg_right fewer hour.le
  unfold HourlyRecoveryClosePlan.eligibleCloses GenericSelectionPeriod.closes
  rw [fields, min_eq_left fewer]
  unfold plannedFields
  dsimp only
  rw [period.nextClose_eq since]
  by_cases eligible : period.scheduledEffectiveAtMs + period.elapsed time * hourMs <
      period.periodExpiresAtMs
  · rw [decide_eq_true eligible]
    exact steps_append hour (by rw [add_sub_cancel_left]; exact Dvd.intro_left _ rfl)
      (le_add_of_nonneg_right nonneg) eligible.le
  · -- every close of the period is missed
    have all : period.scheduledEffectiveAtMs + period.elapsed time * hourMs =
        period.periodExpiresAtMs := by
      rw [period.expires] at eligible ⊢
      omega
    rw [decide_eq_false eligible, all]
    exact List.append_nil _

end Plans

/-- **Recovery partitions the period.** At every moment of the period the closes missed and those a
recovery may use are the closes of the period, each of them once; the number of missed ones is that of
the uncovered ones as far as the period goes; a plan is refused for its identity and for the cutoff
only; and a commit is accepted from the evaluation until before the first eligible close. -/
theorem recovery_close_partition (period : GenericSelectionPeriod) :
    (∀ time, period.scheduledEffectiveAtMs ≤ time → time < period.periodExpiresAtMs →
      ∃ missed, missedClosesAtGapFence period time = .ok missed ∧
        ∀ recoveryId recoveryRevision reason plan,
          planHourlyRecoveryClose recoveryId recoveryRevision reason period time = .ok plan →
            missed.Disjoint plan.eligibleCloses ∧
              missed ++ plan.eligibleCloses = period.closes) ∧
    (∀ time, period.scheduledEffectiveAtMs ≤ time →
      ∃ missed uncovered, missedClosesAtGapFence period time = .ok missed ∧
        uncoveredCloseCountSinceGap period time = .ok uncovered ∧
        (missed.length : ℤ) = min uncovered period.cadenceHours) ∧
    (∀ recoveryId recoveryRevision reason time,
      (∃ plan, planHourlyRecoveryClose recoveryId recoveryRevision reason period time = .ok plan ∧
        plan.check = .ok ()) ↔
      (¬ Blank recoveryId ∧ recoveryId.length ≤ 160 ∧ 0 < recoveryRevision) ∧
        period.featureCutoffAtMs ≤ time) ∧
    ∀ (plan : HourlyRecoveryClosePlan) (committedAtMs : ℤ),
      requireHourlyRecoveryCommit plan committedAtMs = .ok () ↔
        ∃ first, plan.firstEligibleCloseTimeMs = some first ∧
          plan.evaluatedAtMs ≤ committedAtMs ∧ committedAtMs < first := by
  refine ⟨fun time since before => ?_, fun time since => ?_, fun id revision reason time => ?_,
    fun plan committedAtMs => requireHourlyRecoveryCommit_eq_ok⟩
  · have isMissed := missedClosesAtGapFence_eq_ok.mpr ⟨since, rfl⟩
    refine ⟨_, isMissed, fun id revision reason plan planned => ?_⟩
    have whole := missed_append_eligible before isMissed planned
    have once : period.closes.Nodup :=
      (pairwise_steps hourMs_pos).imp fun earlier => earlier.ne
    rw [← whole] at once
    exact ⟨List.disjoint_of_nodup_append once, whole⟩
  · refine ⟨_, _, missedClosesAtGapFence_eq_ok.mpr ⟨since, rfl⟩,
      uncoveredCloseCountSinceGap_eq_ok.mpr ⟨since, rfl⟩, ?_⟩
    rw [length_steps hourMs_pos]
    exact Int.toNat_of_nonneg (le_min (period.elapsed_pos since).le period.cadence_pos.le)
  · rw [← check_plannedFields reason]
    constructor
    · rintro ⟨plan, planned, valid⟩
      rwa [planHourlyRecoveryClose_eq_ok.mp planned] at valid
    · intro valid
      exact ⟨⟨_, valid⟩, planHourlyRecoveryClose_eq_ok.mpr rfl, valid⟩

end TradingKernel.Recovery
