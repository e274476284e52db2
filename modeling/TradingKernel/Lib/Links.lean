/-
**Lists that are checked link by link.**

`pairwise` lists each element with the next one. A check of every link makes the list a chain
(`isChain_of_pairwise`), and what a chain is at its links it is as a whole: every element but the
last hands on, every element but the first receives (`holds_of_mem_dropLast`, `holds_of_mem_tail`),
and a relation that is reflexive and transitive holds between each element and the last
(`rel_last`).
-/

import Mathlib.Data.List.Chain

namespace TradingKernel.Links

variable {α : Type*} {relation : α → α → Prop} {items : List α}

/-- Each element with the next one. -/
def pairwise (items : List α) : List (α × α) := items.zip items.tail

/-- **A list whose links all hold is a chain.** -/
theorem isChain_of_pairwise (links : ∀ link ∈ pairwise items, relation link.1 link.2) :
    items.IsChain relation := by
  induction items with
  | nil => exact .nil
  | cons first rest ih =>
    cases rest with
    | nil => exact .singleton first
    | cons second rest =>
      have unfolds : pairwise (first :: second :: rest) =
          (first, second) :: pairwise (second :: rest) := rfl
      rw [unfolds, List.forall_mem_cons] at links
      exact List.isChain_cons_cons.mpr ⟨links.1, ih links.2⟩

/-- What the first of every link satisfies holds of all elements but the last. -/
theorem holds_of_mem_dropLast {holds : α → Prop} (chain : items.IsChain relation)
    (first : ∀ a b, relation a b → holds a) : ∀ a ∈ items.dropLast, holds a := by
  induction items with
  | nil => simp
  | cons head rest ih =>
    cases rest with
    | nil => simp
    | cons second rest =>
      obtain ⟨link, chain⟩ := List.isChain_cons_cons.mp chain
      rw [List.dropLast_cons_cons, List.forall_mem_cons]
      exact ⟨first _ _ link, ih chain⟩

/-- What the second of every link satisfies holds of all elements but the first. -/
theorem holds_of_mem_tail {holds : α → Prop} (chain : items.IsChain relation)
    (second : ∀ a b, relation a b → holds b) : ∀ b ∈ items.tail, holds b := by
  induction items with
  | nil => simp
  | cons head rest ih =>
    cases rest with
    | nil => simp
    | cons next rest =>
      obtain ⟨link, chain⟩ := List.isChain_cons_cons.mp chain
      rw [List.tail_cons, List.forall_mem_cons]
      exact ⟨second _ _ link, ih chain⟩

/-- **A reflexive and transitive relation reaches the last element from each one.** -/
theorem rel_last (refl : ∀ a, relation a a)
    (trans : ∀ {a b c}, relation a b → relation b c → relation a c)
    (chain : items.IsChain relation) {last : α} (ends : items.getLast? = some last) :
    ∀ a ∈ items, relation a last := by
  induction items with
  | nil => simp
  | cons head rest ih =>
    cases rest with
    | nil =>
      obtain rfl := Option.some.inj (List.getLast?_singleton.symm.trans ends)
      simpa using refl head
    | cons second rest =>
      obtain ⟨link, chain⟩ := List.isChain_cons_cons.mp chain
      rw [List.getLast?_cons_cons] at ends
      have later := ih chain ends
      rw [List.forall_mem_cons]
      exact ⟨trans link (later second List.mem_cons_self), later⟩

end TradingKernel.Links
