/-
**Canonical JSON and its digest.**

A value is rendered the way `json.dumps(_canonicalize(value), ensure_ascii=False,
separators=(",", ":"), sort_keys=True)` renders it: object keys in code-point order, decimals in
plain notation without trailing zeros and as JSON strings. `canonicalDigest` is the SHA-256 identity
of that text, and always has the shape of one (`isSha256Digest_canonicalDigest`).
-/

import Mathlib.Algebra.Group.Nat.Defs
import Mathlib.Data.List.Sort
import Mathlib.Data.Rat.Defs
import TradingKernel.Lib.Sha256

namespace TradingKernel.CanonicalJson

open TradingKernel.Text TradingKernel.Sha256

/-! ### Decimals -/

/-- The least number of fraction digits that represents a denominator, where there is one. -/
def fractionDigits (den : Nat) : Nat :=
  ((List.range (den + 1)).find? fun k => 10 ^ k % den == 0).getD 0

/-- The plain notation of a decimal, without trailing zeros: `format(value.normalize(), "f")`. -/
def decimalText (value : ℚ) : String :=
  let k := fractionDigits value.den
  let scaled := value.num.natAbs * 10 ^ k / value.den
  let whole := toString (scaled / 10 ^ k)
  let fraction := toString (scaled % 10 ^ k)
  let sign := if value < 0 then "-" else ""
  if k = 0 then sign ++ whole
  else sign ++ whole ++ "." ++ String.ofList (List.replicate (k - fraction.length) '0') ++ fraction

/-! ### Values -/

/-- The values that are digested: JSON values with exact decimals. -/
inductive Canonical where
  | text (value : String)
  | integer (value : ℤ)
  | decimal (value : ℚ)
  | boolean (value : Bool)
  | null
  | array (items : List Canonical)
  | object (fields : List (String × Canonical))

namespace Canonical

/-- An optional value, `null` when absent. -/
def optional {α : Type} (render : α → Canonical) : Option α → Canonical
  | none => .null
  | some value => render value

end Canonical

/-- The characters of one JSON character, escaped where JSON requires it. -/
def escapeChar (c : Char) : List Char :=
  if c = '"' then ['\\', '"']
  else if c = '\\' then ['\\', '\\']
  else if c = '\n' then ['\\', 'n']
  else if c = '\r' then ['\\', 'r']
  else if c = '\t' then ['\\', 't']
  else if c.toNat = 8 then ['\\', 'b']
  else if c.toNat = 12 then ['\\', 'f']
  else if c.toNat < 32 then
    ['\\', 'u', '0', '0', hexDigit (c.toNat / 16), hexDigit (c.toNat % 16)]
  else [c]

/-- A JSON string. -/
def jsonString (value : String) : String :=
  "\"" ++ String.ofList (value.toList.flatMap escapeChar) ++ "\""

mutual

/-- The JSON text of a value. -/
def render : Canonical → String
  | .text value => jsonString value
  | .integer value => toString value
  | .decimal value => jsonString (decimalText value)
  | .boolean value => if value then "true" else "false"
  | .null => "null"
  | .array items => "[" ++ ",".intercalate (renderItems items) ++ "]"
  | .object fields =>
      let sorted := (renderFields fields).insertionSort fun x y => x.1 ≤ y.1
      "\x7b" ++ ",".intercalate (sorted.map fun field => jsonString field.1 ++ ":" ++ field.2) ++
        "\x7d"

def renderItems : List Canonical → List String
  | [] => []
  | item :: items => render item :: renderItems items

def renderFields : List (String × Canonical) → List (String × String)
  | [] => []
  | (key, value) :: fields => (key, render value) :: renderFields fields

end

/-- Four digits of an escape. -/
def escapeUnit (unit : ℕ) : List Char :=
  ['\\', 'u'] ++ [unit / 4096, unit / 256, unit / 16, unit].map fun n => hexDigit (n % 16)

/-- A character as ASCII, in one escape or in a surrogate pair. -/
def asciiChar (c : Char) : List Char :=
  if c.toNat < 127 then [c]
  else if c.toNat < 65536 then escapeUnit c.toNat
  else escapeUnit (55296 + (c.toNat - 65536) / 1024) ++
    escapeUnit (56320 + (c.toNat - 65536) % 1024)

/-- `json.dumps` with its default `ensure_ascii`. -/
def asciiJson (value : Canonical) : String :=
  String.ofList ((render value).toList.flatMap asciiChar)

/-- The SHA-256 identity of a value's JSON text. -/
def canonicalDigest (value : Canonical) : String := "sha256:" ++ hexDigest (render value)

theorem isSha256Digest_canonicalDigest (value : Canonical) :
    IsSha256Digest (canonicalDigest value) :=
  isSha256Digest_hexDigest _

end TradingKernel.CanonicalJson
