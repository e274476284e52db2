/-
**Events that cross a line once.**

A line separates the states of a transition system, and no step leads back over it. If an event of some
kind happens exactly where a step crosses the line, then a run that starts before the line has no such
event until it crosses (`none_before`), and exactly one afterwards (`once_after`).
-/

import TradingKernel.Lib.Run

namespace TradingKernel

variable {State Label : Type*} {step : State → Label → State → Prop} {start state : State}
  {labels : List Label} {Before : State → Prop} {crosses : Label → Bool}

/-- The labelled steps are the ones that cross, and no step crosses back. -/
structure Crossing (step : State → Label → State → Prop) (Before : State → Prop)
    (crosses : Label → Bool) : Prop where
  passes : ∀ {s label t}, step s label t → crosses label = true → Before s ∧ ¬ Before t
  stays : ∀ {s label t}, step s label t → crosses label = false → (Before t ↔ Before s)

namespace Crossing

theorem counted (line : Crossing step Before crosses) (begun : Before start)
    (run : Run step start labels state) :
    (Before state → labels.filter crosses = []) ∧
      (¬ Before state → ∃ label, labels.filter crosses = [label]) := by
  refine run.history_invariant (fun labels state => (Before state → labels.filter crosses = []) ∧
    (¬ Before state → ∃ label, labels.filter crosses = [label]))
    ⟨fun _ => rfl, fun after => absurd begun after⟩ ?_
  intro past label s t _ ⟨quiet, once⟩ stepped
  rw [List.filter_append]
  cases crossed : crosses label with
  | true =>
    obtain ⟨before, after⟩ := line.passes stepped crossed
    refine ⟨fun back => absurd back after, fun _ => ⟨label, ?_⟩⟩
    rw [quiet before, List.filter_cons_of_pos crossed]
    rfl
  | false =>
    have same : ([label].filter crosses) = [] := by
      rw [List.filter_cons_of_neg (by simp [crossed])]
      rfl
    rw [same, List.append_nil]
    exact ⟨fun before => quiet ((line.stays stepped crossed).1 before),
      fun after => once fun before => after ((line.stays stepped crossed).2 before)⟩

theorem none_before (line : Crossing step Before crosses) (begun : Before start)
    (run : Run step start labels state) (before : Before state) : labels.filter crosses = [] :=
  (line.counted begun run).1 before

theorem once_after (line : Crossing step Before crosses) (begun : Before start)
    (run : Run step start labels state) (after : ¬ Before state) :
    ∃ label, labels.filter crosses = [label] :=
  (line.counted begun run).2 after

end Crossing

end TradingKernel
