/-
**A store whose rows carry a stamp.**

A store holds at most one row a key. `Forward` says that no row has given way to one with an earlier
stamp; it is a preorder, an overwrite keeps it exactly when the new row is stamped no earlier than the
old one (`forward_update_iff`), and steps that each keep it keep it along a run (`forward_of_run`).
-/

import Mathlib.Order.Basic
import Mathlib.Logic.Function.Basic
import TradingKernel.Lib.Run

namespace TradingKernel.StampedStore

variable {Key Row Stamp : Type*} [Preorder Stamp] {stamp : Row → Stamp}
  {before between after : Key → Option Row}

/-- Every row that was there has a row of its key that is stamped no earlier. -/
def Forward (stamp : Row → Stamp) (before after : Key → Option Row) : Prop :=
  ∀ key, ∀ old ∈ before key, ∃ new ∈ after key, stamp old ≤ stamp new

theorem Forward.refl (store : Key → Option Row) : Forward stamp store store :=
  fun _ old here => ⟨old, here, le_rfl⟩

theorem Forward.trans (first : Forward stamp before between)
    (second : Forward stamp between after) : Forward stamp before after := by
  intro key old here
  obtain ⟨middle, there, earlier⟩ := first key old here
  obtain ⟨new, last, later⟩ := second key middle there
  exact ⟨new, last, earlier.trans later⟩

/-- An overwrite goes forward exactly where it is stamped no earlier than what it replaces. -/
theorem forward_update_iff [DecidableEq Key] {store : Key → Option Row} {key : Key} {row : Row} :
    Forward stamp store (Function.update store key (some row)) ↔
      ∀ old ∈ store key, stamp old ≤ stamp row := by
  constructor
  · intro forward old here
    obtain ⟨new, there, later⟩ := forward key old here
    rw [Function.update_self, Option.mem_some_iff] at there
    exact there ▸ later
  · intro later other old here
    by_cases same : other = key
    · subst same
      exact ⟨row, by rw [Function.update_self]; rfl, later old here⟩
    · exact ⟨old, by rw [Function.update_of_ne same]; exact here, le_rfl⟩

/-- Steps that go forward go forward along a run. -/
theorem forward_of_run {State Label : Type*} {step : State → Label → State → Prop}
    {store : State → Key → Option Row} {start state : State} {labels : List Label}
    (run : Run step start labels state)
    (kept : ∀ {s label t}, step s label t → Forward stamp (store s) (store t)) :
    Forward stamp (store start) (store state) :=
  run.invariant (fun reached => Forward stamp (store start) (store reached)) (Forward.refl _)
    fun so_far step => so_far.trans (kept step)

end TradingKernel.StampedStore
