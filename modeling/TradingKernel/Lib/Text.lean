/-
**Text as Python sees it: whitespace, `str.strip`, blank strings and digest shapes.**

* `strip` removes the whitespace that `str.strip()` removes, at both ends; `strip_strip` says that
  once is enough.
* `NonBlankText` is what a validator of the form `str(value or "").strip()` followed by an
  emptiness test lets through: a text that is its own strip and is not empty.
* `IsSha256Digest` is the fullmatch of `sha256:` followed by 64 lower-case hexadecimal digits.
-/

import Mathlib.Data.List.DropRight

namespace TradingKernel.Text

/-! ### Whitespace -/

/-- The characters with `str.isspace()`. -/
def isSpace (c : Char) : Bool :=
  let n := c.toNat
  (9 ≤ n && n ≤ 13) || (28 ≤ n && n ≤ 32) || n == 0x85 || n == 0xa0 || n == 0x1680 ||
    (0x2000 ≤ n && n ≤ 0x200a) || n == 0x2028 || n == 0x2029 || n == 0x202f || n == 0x205f ||
    n == 0x3000

/-- The `str.strip()` of a text. -/
def strip (text : String) : String :=
  String.ofList ((text.toList.dropWhile isSpace).rdropWhile isSpace)

theorem dropWhile_rdropWhile_dropWhile {α : Type} (p : α → Bool) (l : List α) :
    ((l.dropWhile p).rdropWhile p).dropWhile p = (l.dropWhile p).rdropWhile p := by
  obtain ⟨rest, split⟩ := List.rdropWhile_prefix p (l := l.dropWhile p)
  rcases kept : (l.dropWhile p).rdropWhile p with _ | ⟨first, tail⟩
  · rfl
  · rw [kept, List.cons_append] at split
    have head : p first = false := by
      have first_kept := List.head?_dropWhile_not p l
      rw [← split] at first_kept
      simpa using first_kept
    simp [head]

/-- Stripping twice is stripping once. -/
@[simp] theorem strip_strip (text : String) : strip (strip text) = strip text := by
  unfold strip
  rw [String.toList_ofList, dropWhile_rdropWhile_dropWhile, List.rdropWhile_idempotent]

/-- A text of which every character is tested has no whitespace. -/
theorem solid_of_all {text : String}
    (all : text.toList.all (fun c => !isSpace c) = true) : ∀ c ∈ text.toList, isSpace c = false := by
  intro c member
  simpa using List.all_eq_true.mp all c member

/-- A text without whitespace is its own strip. -/
theorem strip_of_no_space {text : String} (solid : ∀ c ∈ text.toList, isSpace c = false) :
    strip text = text := by
  have front : text.toList.dropWhile isSpace = text.toList := by
    cases chars : text.toList with
    | nil => rfl
    | cons first rest => exact List.dropWhile_cons_of_neg (by simp [solid first (by simp [chars])])
  have back : text.toList.rdropWhile isSpace = text.toList := by
    rw [List.rdropWhile_eq_self_iff]
    intro nonempty
    simp [solid _ (List.getLast_mem nonempty)]
  rw [strip, front, back, String.ofList_toList]

/-- A text is its own strip where neither its first character nor its last one is whitespace. -/
theorem strip_eq_self_iff {text : String} :
    strip text = text ↔ (∀ c ∈ text.toList.head?, isSpace c = false) ∧
      ∀ c ∈ text.toList.getLast?, isSpace c = false := by
  have front (chars : List Char) : chars.dropWhile isSpace = chars ↔
      ∀ c ∈ chars.head?, isSpace c = false := by
    cases chars with
    | nil => simp
    | cons first rest => simp [List.dropWhile_eq_self_iff]
  have back (chars : List Char) : chars.rdropWhile isSpace = chars ↔
      ∀ c ∈ chars.getLast?, isSpace c = false := by
    rw [List.rdropWhile_eq_self_iff]
    constructor
    · intro kept c isLast
      obtain ⟨nonempty, rfl⟩ := List.mem_getLast?_eq_getLast isLast
      simpa using kept nonempty
    · intro kept nonempty
      simpa using kept _ (List.getLast?_eq_getLast_of_ne_nil nonempty)
  rw [← front, ← back]
  constructor
  · intro same
    have chars := congrArg String.toList same
    rw [strip, String.toList_ofList] at chars
    constructor
    · conv_rhs => rw [← chars]
      conv_lhs => rw [← chars]
      exact dropWhile_rdropWhile_dropWhile _ _
    · conv_rhs => rw [← chars]
      conv_lhs => rw [← chars]
      exact List.rdropWhile_idempotent _ _
  · rintro ⟨atFront, atBack⟩
    rw [strip, atFront, atBack, String.ofList_toList]

/-- A text between two that are their own strips is so too. -/
theorem strip_between {first last : String} (middle : String) (front : strip first = first)
    (back : strip last = last) (some : first ≠ "") (others : last ≠ "") :
    strip (first ++ middle ++ last) = first ++ middle ++ last := by
  rw [strip_eq_self_iff] at front back ⊢
  have someChars : first.toList ≠ [] := by simpa using some
  have otherChars : last.toList ≠ [] := by simpa using others
  simp only [String.toList_append]
  rw [List.append_assoc, List.head?_append_of_ne_nil _ someChars, ← List.append_assoc,
    List.getLast?_append_of_ne_nil _ otherChars]
  exact ⟨front.1, back.2⟩

/-- A text with a character that is not whitespace is not empty when stripped. -/
theorem strip_ne_empty {text : String} {c : Char} (member : c ∈ text.toList)
    (mark : isSpace c = false) : strip text ≠ "" := by
  intro empty
  have nothing : (text.toList.dropWhile isSpace).rdropWhile isSpace = [] := by
    have chars := congrArg String.toList empty
    rwa [strip, String.toList_ofList] at chars
  have spaces : ∀ other ∈ text.toList.dropWhile isSpace, isSpace other = true :=
    List.rdropWhile_eq_nil_iff.mp nothing
  cases rest : text.toList.dropWhile isSpace with
  | nil => simp [List.dropWhile_eq_nil_iff.mp rest c member] at mark
  | cons first tail =>
    have head : isSpace first = false := by
      have kept := List.head?_dropWhile_not isSpace text.toList
      simpa [rest] using kept
    rw [spaces first (by simp [rest])] at head
    simp at head

/-- Nothing is left of the text after `str.strip()`. -/
def Blank (text : String) : Prop := strip text = ""

instance (text : String) : Decidable (Blank text) := inferInstanceAs (Decidable (strip text = ""))

@[simp] theorem blank_strip (text : String) : Blank (strip text) ↔ Blank text := by
  simp [Blank]

/-- A digit or one of the letters from a to f. -/
def isHexDigit (c : Char) : Bool :=
  let n := c.toNat
  (48 ≤ n && n ≤ 57) || (97 ≤ n && n ≤ 102)

/-! ### Texts that have passed a strip-and-require validator -/

/-- A text that is its own strip and is not empty. -/
@[ext] structure NonBlankText where
  text : String
  stripped : strip text = text
  nonempty : text ≠ ""
  deriving DecidableEq, Repr

instance : Coe NonBlankText String := ⟨NonBlankText.text⟩

/-- The validator: strip, and refuse what is then empty. -/
def NonBlankText.ofText? (text : String) : Option NonBlankText :=
  if blank : strip text = "" then none else some ⟨strip text, strip_strip text, blank⟩

/-- A text without whitespace, as a validated text. -/
def NonBlankText.ofSolid (text : String) (solid : ∀ c ∈ text.toList, isSpace c = false)
    (nonempty : text ≠ "") : NonBlankText :=
  ⟨text, strip_of_no_space solid, nonempty⟩

theorem isSpace_of_isHexDigit {c : Char} (hex : isHexDigit c = true) : isSpace c = false := by
  simp only [isHexDigit, Bool.or_eq_true, Bool.and_eq_true, decide_eq_true_eq] at hex
  simp only [isSpace, Bool.or_eq_false_iff, Bool.and_eq_false_iff, decide_eq_false_iff_not,
    beq_eq_false_iff_ne]
  omega

theorem isSpace_of_isDigit {c : Char} (digit : c.isDigit = true) : isSpace c = false := by
  refine isSpace_of_isHexDigit ?_
  have bounds : 48 ≤ c.toNat ∧ c.toNat ≤ 57 := by
    simpa [Char.isDigit, UInt32.le_iff_toNat_le] using digit
  unfold isHexDigit
  simp [bounds.1, bounds.2]

/-- The digits of a number, as a validated text. -/
def NonBlankText.ofNat (n : ℕ) : NonBlankText :=
  .ofSolid n.repr
    (fun c member => by
      rw [Nat.toList_repr] at member
      exact isSpace_of_isDigit (Nat.isDigit_of_mem_toDigits (by decide) (Nat.le_refl 10) member))
    (fun empty => by
      have digits := congrArg String.toList empty
      rw [Nat.toList_repr] at digits
      exact Nat.toDigits_ne_nil digits)

theorem NonBlankText.not_blank (value : NonBlankText) : ¬ Blank value.text := by
  rw [Blank, value.stripped]
  exact value.nonempty

/-- A validated text passes its validator unchanged. -/
@[simp] theorem NonBlankText.ofText?_text (value : NonBlankText) :
    NonBlankText.ofText? value.text = some value := by
  have kept : ¬ strip value.text = "" := value.not_blank
  rw [NonBlankText.ofText?, dif_neg kept]
  exact congrArg some (NonBlankText.ext value.stripped)

/-! ### Digests -/

/-- The whole text is `sha256:` and 64 lower-case hexadecimal digits. -/
def IsSha256Digest (text : String) : Prop :=
  ∃ digits : List Char, text.toList = "sha256:".toList ++ digits ∧ digits.length = 64 ∧
    digits.all isHexDigit = true

theorem isSha256Digest_iff (text : String) :
    IsSha256Digest text ↔ text.toList.take 7 = "sha256:".toList ∧
      (text.toList.drop 7).length = 64 ∧ (text.toList.drop 7).all isHexDigit = true := by
  constructor
  · rintro ⟨digits, spelled, size, hex⟩
    have width : "sha256:".toList.length = 7 := by decide
    rw [spelled, ← width, List.take_left, List.drop_left]
    exact ⟨rfl, size, hex⟩
  · rintro ⟨scheme, size, hex⟩
    exact ⟨text.toList.drop 7, by rw [← scheme, List.take_append_drop], size, hex⟩

instance (text : String) : Decidable (IsSha256Digest text) :=
  decidable_of_iff _ (isSha256Digest_iff text).symm

end TradingKernel.Text
