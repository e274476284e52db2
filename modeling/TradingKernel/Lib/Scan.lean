/-
**A loop that stops at the first hit.**

`firstHit judge items` asks for one item after the other until the first that is a hit; an item that
cannot be judged ends the loop with its error. Over a range of numbers the loop finds the first one
with a property wherever `judge` decides the property up to there (`firstHit_range_iff`).
-/

import Mathlib.Data.Nat.Init
import Mathlib.Tactic.ByContra
import TradingKernel.Lib.Guard

namespace TradingKernel.Scan

open Guard

variable {ε : Type*} {α : Type} {judge : α → Except ε Bool} {items : List α} {item : α}

/-- The first item that is a hit, if any. -/
def firstHit (judge : α → Except ε Bool) : List α → Except ε (Option α)
  | [] => .ok none
  | item :: items => do
      if ← judge item then return some item
      else firstHit judge items

/-- One round of the loop. -/
theorem firstHit_cons_eq_ok {found : Option α} :
    firstHit judge (item :: items) = .ok found ↔
      (judge item = .ok true ∧ found = some item) ∨
        (judge item = .ok false ∧ firstHit judge items = .ok found) := by
  show (judge item >>= fun hit => if hit then pure (some item) else firstHit judge items) =
    .ok found ↔ _
  rw [bind_eq_ok]
  constructor
  · rintro ⟨hit, judged, rest⟩
    cases hit with
    | true => exact .inl ⟨judged, pure_eq_ok.mp rest⟩
    | false => exact .inr ⟨judged, rest⟩
  · rintro (⟨judged, rfl⟩ | ⟨judged, rest⟩)
    · exact ⟨true, judged, rfl⟩
    · exact ⟨false, judged, rest⟩

/-- **The item that is found** is a hit, and those before it are not. -/
theorem firstHit_eq_some : firstHit judge items = .ok (some item) ↔
    ∃ before after, items = before ++ item :: after ∧ judge item = .ok true ∧
      ∀ earlier ∈ before, judge earlier = .ok false := by
  induction items with
  | nil =>
      constructor
      · intro found
        cases found
      · rintro ⟨before, after, parts, -⟩
        exact absurd parts.symm (List.append_ne_nil_of_right_ne_nil _ (List.cons_ne_nil _ _))
  | cons first rest ih =>
      rw [firstHit_cons_eq_ok, ih]
      constructor
      · rintro (⟨judged, same⟩ | ⟨judged, before, after, rfl, hit, missed⟩)
        · obtain rfl := Option.some.inj same
          exact ⟨[], rest, rfl, judged, nofun⟩
        · refine ⟨first :: before, after, rfl, hit, fun earlier member => ?_⟩
          rcases List.mem_cons.mp member with rfl | member
          · exact judged
          · exact missed earlier member
      · rintro ⟨before, after, parts, hit, missed⟩
        cases before with
        | nil =>
            obtain ⟨rfl, rfl⟩ := List.cons.inj parts
            exact .inl ⟨hit, rfl⟩
        | cons other before =>
            obtain ⟨rfl, rfl⟩ := List.cons.inj parts
            exact .inr ⟨missed _ List.mem_cons_self, before, after, rfl, hit,
              fun earlier member => missed earlier (List.mem_cons_of_mem _ member)⟩

/-- **A loop over a range finds the first number with a property**, where the numbers in front of the
range do not have it, `judge` says yes to those of the range that do, and no to those it meets on the
way to one. -/
theorem firstHit_range_iff {judge : ℕ → Except ε Bool} {holds : ℕ → Prop} {first count k : ℕ}
    (early : ∀ j < first, ¬ holds j)
    (hit : ∀ j, first ≤ j → j < first + count → (judge j = .ok true ↔ holds j))
    (missed : ∀ j k, first ≤ j → j < k → k < first + count → holds k → ¬ holds j →
      judge j = .ok false) :
    firstHit judge (List.range' first count) = .ok (some k) ↔
      k < first + count ∧ holds k ∧ ∀ j < k, ¬ holds j := by
  rw [firstHit_eq_some]
  constructor
  · rintro ⟨before, after, parts, found, passed⟩
    obtain ⟨upTo, inside, rfl, rest⟩ := List.range'_eq_append_iff.mp parts
    obtain ⟨rfl, positive, -⟩ := List.range'_eq_cons_iff.mp rest.symm
    have within : first + upTo < first + count := by omega
    rw [Nat.mul_one] at found ⊢
    refine ⟨within, (hit _ (Nat.le_add_right _ _) within).mp found, fun j before holdsJ => ?_⟩
    by_cases inFront : j < first
    · exact early j inFront holdsJ
    · have no : judge j = .ok false := passed j (List.mem_range'_1.mpr ⟨by omega, before⟩)
      have yes : judge j = .ok true := (hit j (by omega) (by omega)).mpr holdsJ
      rw [no] at yes
      cases yes
  · rintro ⟨within, holdsK, least⟩
    have inRange : first ≤ k := by
      by_contra inFront
      exact early k (Nat.lt_of_not_le inFront) holdsK
    refine ⟨List.range' first (k - first), List.range' (k + 1) (first + count - (k + 1)), ?_,
      (hit k inRange within).mpr holdsK, fun j member => ?_⟩
    · obtain ⟨steps, rfl⟩ := Nat.exists_eq_add_of_le inRange
      have here : first + 1 * steps = first + steps := by omega
      rw [← List.range'_succ, Nat.add_sub_cancel_left, ← here, List.range'_append]
      congr 1
      omega
    · obtain ⟨after, before⟩ := List.mem_range'_1.mp member
      exact missed j k after (by omega) within holdsK (least j (by omega))

end TradingKernel.Scan
