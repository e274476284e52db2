/-
**Runs of a labelled step relation.**

A run is a sequence of steps with the list of their labels, the latest at the end. Every property of
all runs is carried by one of two rules:

* `Run.history_invariant`: what relates the labels so far to the state, at the start and after every
  step, relates them along every run;
* `Run.invariant`: the case that looks at the state alone.

A run of `earlier ++ later` is a run of each through a state between them (`Run.append_iff`), so
"from some point on" and "at every earlier state" are statements about one list of labels. Where the
next state can be computed, a run is exhibited by evaluating its labels (`Run.of_evaluate`).
-/

import Mathlib.Data.List.Induction
import Mathlib.Tactic.TypeStar

namespace TradingKernel

section Run

variable {State Label : Type*} {step next : State → Label → State → Prop}

/-- The runs of `step` from `s`: the labels of the steps, and the state reached. -/
inductive Run (step : State → Label → State → Prop) (s : State) : List Label → State → Prop
  | nil : Run step s [] s
  | snoc {t u : State} {labels : List Label} {label : Label} :
      Run step s labels t → step t label u → Run step s (labels ++ [label]) u

namespace Run

variable {s t u : State} {labels earlier later : List Label} {label : Label}

/-- **The history rule.** What relates the labels so far to the state, at the start and after every
step, relates them along every run. -/
theorem history_invariant (run : Run step s labels t) (Inv : List Label → State → Prop)
    (start : Inv [] s)
    (kept : ∀ {past label t u}, Run step s past t → Inv past t → step t label u →
      Inv (past ++ [label]) u) :
    Inv labels t := by
  induction run with
  | nil => exact start
  | snoc before last ih => exact kept before ih last

/-- **The invariant rule.** -/
theorem invariant (run : Run step s labels t) (Inv : State → Prop) (start : Inv s)
    (kept : ∀ {label t u}, Inv t → step t label u → Inv u) : Inv t :=
  run.history_invariant (fun _ state => Inv state) start fun _ => kept

/-- Steps that imply other steps give runs of those. -/
theorem mono (run : Run step s labels t)
    (weaker : ∀ {t label u}, step t label u → next t label u) : Run next s labels t := by
  induction run with
  | nil => exact .nil
  | snoc _ last ih => exact .snoc ih (weaker last)

/-- Where a step is determined by its label, a run is determined by its labels. -/
theorem unique (deterministic : ∀ {s label t u}, step s label t → step s label u → t = u)
    (first : Run step s labels t) (second : Run step s labels u) : t = u := by
  induction first generalizing u with
  | nil =>
    generalize none : ([] : List Label) = labels at second
    cases second with
    | nil => rfl
    | snoc _ _ => simp at none
  | @snoc middle t labels label before last ih =>
    generalize all : labels ++ [label] = whole at second
    cases second with
    | nil => simp at all
    | snoc other next_ =>
      obtain ⟨rfl, rfl⟩ := List.append_inj' all rfl |>.imp id fun one => List.singleton_inj.mp one
      obtain rfl := ih other
      exact deterministic last next_

theorem nil_iff : Run step s [] t ↔ s = t := by
  constructor
  · intro run
    generalize none : ([] : List Label) = labels at run
    cases run with
    | nil => rfl
    | snoc _ _ => simp at none
  · rintro rfl
    exact .nil

theorem snoc_iff : Run step s (labels ++ [label]) u ↔ ∃ t, Run step s labels t ∧ step t label u := by
  constructor
  · intro run
    generalize all : labels ++ [label] = whole at run
    cases run with
    | nil => simp at all
    | snoc before last =>
      obtain ⟨rfl, rfl⟩ := List.append_inj' all rfl |>.imp id fun one => List.singleton_inj.mp one
      exact ⟨_, before, last⟩
  · rintro ⟨t, before, last⟩
    exact .snoc before last

/-- A run of two lists of labels is a run of each, one after the other. -/
theorem append_iff : Run step s (earlier ++ later) u ↔
    ∃ t, Run step s earlier t ∧ Run step t later u := by
  constructor
  · intro run
    induction later using List.reverseRecOn generalizing u with
    | nil => exact ⟨u, by rwa [List.append_nil] at run, .nil⟩
    | append_singleton later label ih =>
      rw [← List.append_assoc, snoc_iff] at run
      obtain ⟨v, before, last⟩ := run
      obtain ⟨t, first, second⟩ := ih before
      exact ⟨t, first, .snoc second last⟩
  · rintro ⟨t, first, second⟩
    induction second with
    | nil => rwa [List.append_nil]
    | snoc _ last ih =>
      rw [← List.append_assoc]
      exact .snoc ih last

/-- A run of one label and then others. -/
theorem cons_iff : Run step s (label :: labels) u ↔ ∃ t, step s label t ∧ Run step t labels u := by
  rw [← List.singleton_append, append_iff]
  constructor
  · rintro ⟨t, first, rest⟩
    rw [← List.nil_append [label], snoc_iff] at first
    obtain ⟨_, start, one⟩ := first
    rw [nil_iff] at start
    exact ⟨t, start ▸ one, rest⟩
  · rintro ⟨t, one, rest⟩
    exact ⟨t, (List.nil_append [label]) ▸ .snoc .nil one, rest⟩

/-! ### Evaluated runs -/

/-- The state that steps lead to, where each of them can be taken. -/
def evaluate (next : State → Label → Option State) : State → List Label → Option State
  | s, [] => some s
  | s, label :: labels => (next s label).bind fun t => evaluate next t labels

/-- Steps that evaluate are a run. -/
theorem of_evaluate {next : State → Label → Option State} {labels : List Label} :
    ∀ {s t : State}, evaluate next s labels = some t →
      Run (fun s label t => next s label = some t) s labels t := by
  induction labels with
  | nil =>
    intro s t evaluated
    obtain rfl := Option.some.inj evaluated
    exact .nil
  | cons label labels ih =>
    intro s t evaluated
    obtain ⟨middle, first, rest⟩ := Option.bind_eq_some_iff.mp evaluated
    exact cons_iff.mpr ⟨middle, first, ih rest⟩

/-- Steps that may fail, taken where they are allowed and do not. -/
theorem of_evaluate_ok {ε : Type*} {apply : State → Label → Except ε State}
    {allowed : State → Label → Prop} [∀ state label, Decidable (allowed state label)]
    (evaluated : evaluate (fun state label =>
      if allowed state label then (apply state label).toOption else none) s labels = some t) :
    Run (fun state label next => apply state label = .ok next ∧ allowed state label) s labels t := by
  refine (of_evaluate evaluated).mono ?_
  intro source label target steps
  split_ifs at steps with permitted
  refine ⟨?_, permitted⟩
  cases applied : apply source label with
  | error raised => simp [applied, Except.toOption] at steps
  | ok next =>
    rw [applied] at steps
    exact congrArg Except.ok (Option.some.inj steps)

end Run

end Run

end TradingKernel
