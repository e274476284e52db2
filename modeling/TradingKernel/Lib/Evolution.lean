/-
**Tables whose rows only move on.**

`Evolves may table updated` says that every row of a table is still there under its key, as a row
that it may have become. An insertion evolves a table, and so does a replacement of one row by
another that it may become; evolutions compose where `may` is reflexive and transitive. `Stems` is
the other direction: every row has come from one that was there, or is a fresh one.

The least of the rows that meet a condition stays the least through a change that keeps the
condition and what the rows are compared by (`leastBy_filter_map`).
-/

import Mathlib.Data.Int.Notation
import TradingKernel.Lib.Table

namespace TradingKernel.Table

variable {Row Key : Type} {key : Row → Key} {may : Row → Row → Prop}
  {table updated later : Table key} {row new : Row}

/-- Every row is still there under its key, as a row that it may have become. -/
def Evolves (may : Row → Row → Prop) (table updated : Table key) : Prop :=
  ∀ row ∈ table, ∃ new ∈ updated, key new = key row ∧ may row new

namespace Evolves

theorem refl (idle : ∀ row, may row row) : Evolves may table table :=
  fun row here => ⟨row, here, rfl, idle row⟩

theorem of_eq (idle : ∀ row, may row row) (same : updated = table) : Evolves may table updated :=
  same ▸ refl idle

theorem trans (through : ∀ {row new newer}, may row new → may new newer → may row newer)
    (first : Evolves may table updated) (second : Evolves may updated later) :
    Evolves may table later := by
  intro row here
  obtain ⟨new, there, same, moved⟩ := first row here
  obtain ⟨newer, after, again, further⟩ := second new there
  exact ⟨newer, after, again.trans same, through moved further⟩

end Evolves

/-- A table with more rows. -/
theorem evolves_of_rows {added : List Row} (idle : ∀ row, may row row)
    (rows : updated.rows = table.rows ++ added) : Evolves may table updated := by
  intro row here
  refine ⟨row, ?_, rfl, idle row⟩
  rw [← mem_rows, rows]
  exact List.mem_append_left _ here

/-- A replacement of one row by another that it may become. -/
theorem Replaced.evolves (replaced : Replaced table row new updated) (idle : ∀ row, may row row)
    (same : key new = key row) (moved : may row new) : Evolves may table updated := by
  intro old here
  by_cases is : old = row
  · subst is
    exact ⟨new, replaced.there, same, moved⟩
  · exact ⟨old, replaced.mem_updated here is, rfl, idle old⟩

/-! ### Where rows come from -/

/-- Every row has come from one that was there under its key, or is a fresh one. -/
def Stems (may : Row → Row → Prop) (fresh : Row → Prop) (table updated : Table key) : Prop :=
  ∀ new ∈ updated, (∃ row ∈ table, key row = key new ∧ may row new) ∨ fresh new

namespace Stems

variable {fresh fresher : Row → Prop}

theorem refl (idle : ∀ row, may row row) : Stems may fresh table table :=
  fun row here => .inl ⟨row, here, rfl, idle row⟩

theorem of_eq (idle : ∀ row, may row row) (same : updated = table) :
    Stems may fresh table updated :=
  same ▸ refl idle

theorem trans (through : ∀ {row new newer}, may row new → may new newer → may row newer)
    (stays : ∀ {row new}, may row new → fresh row → fresh new)
    (first : Stems may fresh table updated) (second : Stems may fresh updated later) :
    Stems may fresh table later := by
  intro newer after
  rcases second newer after with ⟨new, there, same, further⟩ | came
  · rcases first new there with ⟨row, here, again, moved⟩ | came
    · exact .inl ⟨row, here, again.trans same, through moved further⟩
    · exact .inr (stays further came)
  · exact .inr came

end Stems

/-- A table with one more row. -/
theorem stems_of_rows {fresh : Row → Prop} (idle : ∀ row, may row row)
    (rows : updated.rows = table.rows ++ [row]) (came : fresh row) :
    Stems may fresh table updated := by
  intro new there
  rw [← mem_rows, rows, List.mem_append, List.mem_singleton] at there
  rcases there with here | rfl
  · exact .inl ⟨new, here, rfl, idle new⟩
  · exact .inr came

theorem Replaced.stems {fresh : Row → Prop} (replaced : Replaced table row new updated)
    (idle : ∀ row, may row row) (same : key new = key row) (moved : may row new) :
    Stems may fresh table updated := by
  intro other there
  rcases replaced.of_mem_updated there with rfl | ⟨here, -⟩
  · exact .inl ⟨row, replaced.here, same.symm, moved⟩
  · exact .inl ⟨other, here, rfl, idle other⟩

/-! ### The least row -/

section Least

variable {f : Row → ℤ} {meets : Row → Bool} {change : Row → Row} {rows : List Row}

/-- The first of the rows that are least by a number. -/
def leastBy (f : Row → ℤ) : List Row → Option Row
  | [] => none
  | row :: rows =>
      match leastBy f rows with
      | none => some row
      | some least => if f least < f row then some least else some row

theorem leastBy_mem {least : Row} (found : leastBy f rows = some least) : least ∈ rows := by
  induction rows with
  | nil => exact absurd found (by simp [leastBy])
  | cons row rows ih =>
    rw [leastBy] at found
    cases later : leastBy f rows with
    | none =>
      rw [later] at found
      exact Option.some.inj found ▸ List.mem_cons_self
    | some other =>
      simp only [later] at found
      by_cases less : f other < f row
      · rw [if_pos less] at found
        exact List.mem_cons_of_mem _ (ih (later.trans found))
      · rw [if_neg less] at found
        exact Option.some.inj found ▸ List.mem_cons_self

/-- The least row is still the least, as what it has become, where the rows keep what they are
compared by. -/
theorem leastBy_map (measured : ∀ row ∈ rows, f (change row) = f row) :
    leastBy f (rows.map change) = (leastBy f rows).map change := by
  induction rows with
  | nil => rfl
  | cons row rows ih =>
    have rest := ih fun other there => measured other (List.mem_cons_of_mem _ there)
    rw [List.map_cons, leastBy, rest, leastBy]
    cases least : leastBy f rows with
    | none => rfl
    | some other =>
      have there : other ∈ row :: rows := List.mem_cons_of_mem _ (leastBy_mem least)
      show (if f (change other) < f (change row) then some (change other) else some (change row)) =
        Option.map change (if f other < f row then some other else some row)
      rw [measured other there, measured row List.mem_cons_self, apply_ite (Option.map change)]
      rfl

/-- So is the least of the rows that meet a condition, where the rows keep the condition. -/
theorem leastBy_filter_map (measured : ∀ row ∈ rows, f (change row) = f row)
    (kept : ∀ row ∈ rows, meets (change row) = meets row) :
    leastBy f ((rows.map change).filter meets) = (leastBy f (rows.filter meets)).map change := by
  have chosen : rows.filter (meets ∘ change) = rows.filter meets :=
    List.filter_congr fun row here => kept row here
  rw [List.filter_map, chosen]
  exact leastBy_map fun row here => measured row (List.mem_of_mem_filter here)

end Least

end TradingKernel.Table
