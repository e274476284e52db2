/-
**A table whose rows have distinct keys.**

`insert` refuses a key that is there, and `update` is an `UPDATE` that has to change exactly one
row. A row keeps its key through an update, so the keys stay distinct, and an update that names a
key succeeds exactly when the row of that key meets its condition (`update_of_key`). What holds of
every row is carried through both operations by `mem_insert` and `mem_update`, and what is summed
over the rows by `Replaced`: one row has given way to another, and the rest is as it was.
-/

import Mathlib.Data.List.Nodup
import TradingKernel.Lib.Guard

namespace TradingKernel

open Guard

/-- Rows with distinct keys. -/
structure Table {Row Key : Type} (key : Row → Key) where
  rows : List Row
  distinct : (rows.map key).Nodup

namespace Table

variable {ε : Type*} {Row Key : Type} {key : Row → Key} {table updated : Table key} {row old : Row}

instance : Membership Row (Table key) where
  mem table row := row ∈ table.rows

theorem mem_rows : row ∈ table.rows ↔ row ∈ table := Iff.rfl

/-- The empty table. -/
def empty : Table key where
  rows := []
  distinct := List.nodup_nil

/-- Two rows of one key are the same row. -/
theorem eq_of_key (here : row ∈ table) (there : old ∈ table) (same : key row = key old) :
    row = old :=
  List.inj_on_of_nodup_map table.distinct here there same

/-! ### Lookup -/

section Lookup

variable [DecidableEq Key] {k : Key}

/-- The row of a key. -/
def lookup (table : Table key) (k : Key) : Option Row := table.rows.find? fun row => key row = k

theorem lookup_eq_some (found : table.lookup k = some row) : row ∈ table ∧ key row = k := by
  refine ⟨List.mem_of_find?_eq_some found, ?_⟩
  simpa using List.find?_some found

theorem lookup_of_mem (here : row ∈ table) : table.lookup (key row) = some row := by
  cases found : table.lookup (key row) with
  | none =>
    have absent := List.find?_eq_none.mp found row here
    simp at absent
  | some other =>
    obtain ⟨there, same⟩ := lookup_eq_some found
    rw [eq_of_key there here same]

theorem lookup_eq_none : table.lookup k = none ↔ ∀ row ∈ table, key row ≠ k := by
  simp [lookup, List.find?_eq_none, ← mem_rows]

end Lookup

/-! ### Insertion -/

section Insert

variable [DecidableEq Key] {duplicate : ε}

/-- The table with one more row, unless its key is there. -/
def insert (table : Table key) (row : Row) (duplicate : ε) : Except ε (Table key) :=
  if taken : key row ∈ table.rows.map key then .error duplicate
  else
    .ok {
      rows := table.rows ++ [row]
      distinct := by
        rw [List.map_append, List.map_singleton]
        exact table.distinct.append (List.nodup_singleton _)
          (List.disjoint_singleton.mpr taken) }

theorem insert_eq_ok : table.insert row duplicate = .ok updated ↔
    (∀ old ∈ table, key old ≠ key row) ∧ updated.rows = table.rows ++ [row] := by
  have taken : key row ∈ table.rows.map key ↔ ∃ old ∈ table, key old = key row :=
    List.mem_map
  unfold insert
  split_ifs with there
  · obtain ⟨old, member, same⟩ := taken.mp there
    simp only [false_iff, not_and]
    exact fun fresh => absurd same (fresh old member)
  · constructor
    · intro returned
      obtain rfl := Except.ok.inj returned
      exact ⟨fun old member same => there (taken.mpr ⟨old, member, same⟩), rfl⟩
    · rintro ⟨-, same⟩
      cases updated
      simp only at same
      subst same
      rfl

theorem mem_insert (inserted : table.insert row duplicate = .ok updated) {other : Row} :
    other ∈ updated ↔ other ∈ table ∨ other = row := by
  rw [← mem_rows, (insert_eq_ok.mp inserted).2]
  simp [← mem_rows]

end Insert

/-! ### Update -/

section Update

variable {hit : Row → Prop} [DecidablePred hit] {change : Row → Row} {conflict : ε}
  {keeps : ∀ row, key (change row) = key row}

/-- `UPDATE`: the rows that are hit, changed. -/
def changed (table : Table key) (hit : Row → Prop) [DecidablePred hit] (change : Row → Row)
    (keeps : ∀ row, key (change row) = key row) : Table key where
  rows := table.rows.map fun row => if hit row then change row else row
  distinct := by
    have same : (table.rows.map fun row => if hit row then change row else row).map key =
        table.rows.map key := by
      rw [List.map_map]
      refine List.map_congr_left fun row _ => ?_
      show key (if hit row then change row else row) = key row
      split_ifs
      · exact keeps row
      · rfl
    exact same ▸ table.distinct

/-- An update that has to change exactly one row. -/
def update (table : Table key) (hit : Row → Prop) [DecidablePred hit] (change : Row → Row)
    (keeps : ∀ row, key (change row) = key row) (conflict : ε) : Except ε (Table key) := do
  refuse ((table.rows.countP fun row => hit row) ≠ 1) conflict
  return table.changed hit change keeps

theorem mem_changed : row ∈ table.changed hit change keeps ↔
    ∃ old ∈ table, hit old ∧ row = change old ∨ ¬ hit old ∧ row = old := by
  rw [← mem_rows, changed, List.mem_map]
  refine exists_congr fun old => and_congr_right fun _ => ?_
  by_cases struck : hit old
  · simp [struck, eq_comm]
  · simp [struck, eq_comm]

theorem update_eq_ok : table.update hit change keeps conflict = .ok updated ↔
    (table.rows.countP fun row => hit row) = 1 ∧ updated = table.changed hit change keeps := by
  rw [update, refuse_bind_eq_ok, pure_eq_ok, not_not]

/-- A row after an update is a row that was hit, changed, or a row that was not. -/
theorem mem_update (updates : table.update hit change keeps conflict = .ok updated) :
    row ∈ updated ↔ ∃ old ∈ table, hit old ∧ row = change old ∨ ¬ hit old ∧ row = old := by
  rw [(update_eq_ok.mp updates).2, mem_changed]

/-- An update that hits one row of the table, and no other, succeeds. -/
theorem update_of_alone (here : row ∈ table) (struck : hit row)
    (alone : ∀ other ∈ table, hit other → other = row) :
    table.update hit change keeps conflict = .ok (table.changed hit change keeps) := by
  refine update_eq_ok.mpr ⟨?_, rfl⟩
  classical
  have same : (table.rows.countP fun other => hit other) =
      (table.rows.countP fun other => other = row) := by
    refine List.countP_congr fun other there => ?_
    simp only [decide_eq_true_eq]
    constructor
    · exact alone other there
    · rintro rfl
      exact struck
  have once : table.rows.countP (fun other => other = row) = 1 := by
    have count := List.count_eq_one_of_mem table.distinct.of_map here
    rw [List.count_eq_countP] at count
    rw [← count]
    exact List.countP_congr fun other _ => by rw [decide_eq_true_iff, beq_iff_eq]
  rw [same, once]

/-- An update that hits one row of a key, and no other, succeeds. -/
theorem update_of_key (here : row ∈ table) (struck : hit row)
    (alone : ∀ other, hit other → key other = key row) :
    table.update hit change keeps conflict = .ok (table.changed hit change keeps) :=
  update_of_alone here struck fun other there hits => eq_of_key there here (alone other hits)

/-- **One row, in its place.** An update changes one row, and leaves those before it and after it as
they were. -/
theorem update_split (updates : table.update hit change keeps conflict = .ok updated) :
    ∃ before row after, table.rows = before ++ row :: after ∧ hit row ∧
      updated.rows = before ++ change row :: after := by
  obtain ⟨once, rfl⟩ := update_eq_ok.mp updates
  obtain ⟨row, member, struck⟩ := List.countP_pos_iff.mp (by rw [once]; exact Nat.one_pos)
  obtain ⟨before, after, parts⟩ := List.append_of_mem member
  have struck : hit row := by simpa using struck
  rw [parts, List.countP_append, List.countP_cons_of_pos (by simpa using struck)] at once
  -- the count is spent on this row, so no other one is hit
  have missed : ∀ rows : List Row, rows.countP (fun row => hit row) = 0 →
      rows.map (fun row => if hit row then change row else row) = rows := by
    intro rows none
    rw [List.countP_eq_zero] at none
    refine (List.map_congr_left fun other there => ?_).trans (List.map_id' rows)
    exact if_neg (by simpa using none other there)
  refine ⟨before, row, after, parts, struck, ?_⟩
  show table.rows.map (fun row => if hit row then change row else row) = _
  rw [parts, List.map_append, List.map_cons, if_pos struck, missed before (by omega),
    missed after (by omega)]

/-! ### Replacement -/

/-- One row replaced by another, and the rest as it was. -/
def Replaced (table : Table key) (row new : Row) (updated : Table key) : Prop :=
  ∃ rest, table.rows.Perm (row :: rest) ∧ updated.rows.Perm (new :: rest)

namespace Replaced

variable {new newer other : Row} {later : Table key}

theorem of_mem (here : row ∈ table) : Replaced table row row table := by
  obtain ⟨before, after, parts⟩ := List.append_of_mem here
  refine ⟨before ++ after, ?_, ?_⟩
  all_goals
    rw [parts]
    exact List.perm_middle

theorem here (replaced : Replaced table row new updated) : row ∈ table := by
  obtain ⟨rest, parts, -⟩ := replaced
  exact parts.mem_iff.mpr List.mem_cons_self

theorem there (replaced : Replaced table row new updated) : new ∈ updated := by
  obtain ⟨rest, -, parts⟩ := replaced
  exact parts.mem_iff.mpr List.mem_cons_self

/-- A row after the replacement is the new one, or another row that was there. -/
theorem of_mem_updated (replaced : Replaced table row new updated) (member : other ∈ updated) :
    other = new ∨ other ∈ table ∧ key other ≠ key row := by
  obtain ⟨rest, was, is⟩ := replaced
  rcases List.mem_cons.mp (is.mem_iff.mp member) with rfl | old
  · exact .inl rfl
  · refine .inr ⟨was.mem_iff.mpr (List.mem_cons_of_mem _ old), fun same => ?_⟩
    have distinct : ((row :: rest).map key).Nodup := (was.map key).nodup_iff.mp table.distinct
    exact (List.nodup_cons.mp distinct).1 (same ▸ List.mem_map_of_mem old)

/-- Another row that was there is still there. -/
theorem mem_updated (replaced : Replaced table row new updated) (member : other ∈ table)
    (apart : other ≠ row) : other ∈ updated := by
  obtain ⟨rest, was, is⟩ := replaced
  exact is.mem_iff.mpr
    (List.mem_cons_of_mem _ ((List.mem_cons.mp (was.mem_iff.mp member)).resolve_left apart))

theorem trans (replaced : Replaced table row new updated)
    (again : Replaced updated new newer later) : Replaced table row newer later := by
  obtain ⟨rest, was, is⟩ := replaced
  obtain ⟨others, wasAgain, isAgain⟩ := again
  refine ⟨rest, was, isAgain.trans (List.Perm.cons newer ?_)⟩
  exact (wasAgain.symm.trans is).cons_inv

end Replaced

/-- An update that returned replaced a row that it hit. -/
theorem replaced_of_update (updates : table.update hit change keeps conflict = .ok updated) :
    ∃ row, hit row ∧ Replaced table row (change row) updated := by
  obtain ⟨before, row, after, was, struck, is⟩ := update_split updates
  refine ⟨row, struck, before ++ after, ?_, ?_⟩
  · rw [was]
    exact List.perm_middle
  · rw [is]
    exact List.perm_middle

/-- **An update that hits a row, and no row of another key, replaces that row.** -/
theorem update_replaces (here : row ∈ table) (struck : hit row)
    (alone : ∀ other, hit other → key other = key row) :
    ∃ updated, table.update hit change keeps conflict = .ok updated ∧
      Replaced table row (change row) updated := by
  have returned : table.update hit change keeps conflict = .ok (table.changed hit change keeps) :=
    update_of_key here struck alone
  obtain ⟨other, hits, replaced⟩ := replaced_of_update returned
  obtain rfl := eq_of_key replaced.here here (alone other hits)
  exact ⟨_, returned, replaced⟩

end Update

end Table

end TradingKernel
