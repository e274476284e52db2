/-
**`Decimal(text)`: the numerals that a text is read as.**

A text is stripped and its underscores are dropped; the rest is a sign, digits with at most one point
and an optional exponent, or a name of an infinity or of no number. Digits are those of any script.
-/

import Mathlib.Algebra.Field.Rat
import Mathlib.Algebra.Order.Group.Abs
import Mathlib.Algebra.Order.Ring.Rat
import Mathlib.Tactic.SplitIfs
import TradingKernel.Lib.Text

namespace TradingKernel.Numeral

open Text

/-- The value of a `Decimal`. -/
inductive Decimal where
  | finite (value : ℚ)
  | infinite
  | nan
  deriving DecidableEq

/-! ### Digits -/

/-- The code points of the digits zero. -/
def digitZeros : List ℕ :=
  [0x30, 0x660, 0x6f0, 0x7c0, 0x966, 0x9e6, 0xa66, 0xae6, 0xb66, 0xbe6, 0xc66, 0xce6, 0xd66, 0xde6,
    0xe50, 0xed0, 0xf20, 0x1040, 0x1090, 0x17e0, 0x1810, 0x1946, 0x19d0, 0x1a80, 0x1a90, 0x1b50,
    0x1bb0, 0x1c40, 0x1c50, 0xa620, 0xa8d0, 0xa900, 0xa9d0, 0xa9f0, 0xaa50, 0xabf0, 0xff10, 0x104a0,
    0x10d30, 0x11066, 0x110f0, 0x11136, 0x111d0, 0x112f0, 0x11450, 0x114d0, 0x11650, 0x116c0,
    0x11730, 0x118e0, 0x11950, 0x11c50, 0x11d50, 0x11da0, 0x16a60, 0x16ac0, 0x16b50, 0x1d7ce,
    0x1d7d8, 0x1d7e2, 0x1d7ec, 0x1d7f6, 0x1e140, 0x1e2f0, 0x1e950, 0x1fbf0]

def digitValue (c : Char) : Option ℕ :=
  (digitZeros.find? fun first => first ≤ c.toNat ∧ c.toNat < first + 10).map fun first =>
    c.toNat - first

/-- The digits in front, and the rest. -/
def takeDigits : List Char → List ℕ × List Char
  | [] => ([], [])
  | c :: rest =>
      match digitValue c with
      | none => ([], c :: rest)
      | some digit => (digit :: (takeDigits rest).1, (takeDigits rest).2)

def ofDigits (digits : List ℕ) : ℕ := digits.foldl (fun value digit => 10 * value + digit) 0

/-! ### The parts of a numeral -/

/-- Whether there is a minus in front, and the rest. -/
def takeSign : List Char → Bool × List Char
  | '-' :: rest => (true, rest)
  | '+' :: rest => (false, rest)
  | rest => (false, rest)

/-- The digits after a point, and the rest. -/
def takeFraction : List Char → List ℕ × List Char
  | '.' :: rest => takeDigits rest
  | rest => ([], rest)

def exponent? : List Char → Option ℤ
  | [] => some 0
  | c :: rest =>
      if c.toLower = 'e' then
        let (negative, text) := takeSign rest
        match takeDigits text with
        | (digit :: digits, []) =>
            some (if negative then -(ofDigits (digit :: digits) : ℤ) else ofDigits (digit :: digits))
        | _ => none
      else none

def isNan (lower : List Char) : Bool :=
  match lower with
  | 'n' :: 'a' :: 'n' :: payload => (takeDigits payload).2.isEmpty
  | 's' :: 'n' :: 'a' :: 'n' :: payload => (takeDigits payload).2.isEmpty
  | _ => false

def unsigned? (text : List Char) : Option Decimal :=
  let lower := text.map Char.toLower
  if lower = "inf".toList ∨ lower = "infinity".toList then some .infinite
  else if isNan lower then some .nan
  else
    let (whole, rest) := takeDigits text
    let (part, tail) := takeFraction rest
    if whole = [] ∧ part = [] then none
    else (exponent? tail).map fun exponent : ℤ =>
      .finite (ofDigits (whole ++ part) * (10 : ℚ) ^ (exponent - (part.length : ℤ)))

def Decimal.negated : Decimal → Decimal
  | .finite value => .finite (-value)
  | other => other

def Decimal.copyAbs : Decimal → Decimal
  | .finite value => .finite |value|
  | other => other

/-- A value that is finite and positive. -/
def Decimal.positive? : Decimal → Option ℚ
  | .finite value => if 0 < value then some value else none
  | _ => none

/-- `Decimal(text)`, or none where it raises. -/
def decimal? (text : String) : Option Decimal :=
  let (negative, rest) := takeSign ((strip text).toList.filter (· ≠ '_'))
  (unsigned? rest).map fun value => if negative then value.negated else value

theorem Decimal.positive_of_positive? {value : Decimal} {q : ℚ} (found : value.positive? = some q) :
    0 < q := by
  cases value with
  | finite value =>
      unfold positive? at found
      dsimp only at found
      split_ifs at found with isPositive
      exact Option.some.inj found ▸ isPositive
  | infinite => cases found
  | nan => cases found

example : decimal? " -1_0.25e1 " = some (.finite (-205 / 2)) := by
  decide +kernel

end TradingKernel.Numeral
