/-
**SHA-256 over bytes, and its hexadecimal digest.**

The hash is the published one: padding to 64-byte blocks, a schedule of 64 words a block, 64 rounds
on eight words. `hexDigest` spells the eight words of the final state, so it always has 64
lower-case hexadecimal digits (`hexDigest_length`, `hexDigest_isHexDigit`), whatever the input.
-/

import Mathlib.Algebra.Group.Nat.Defs
import TradingKernel.Lib.Text

namespace TradingKernel.Sha256

open TradingKernel.Text

/-! ### Words and rounds -/

/-- The eight working words. -/
structure HashState where
  a : UInt32
  b : UInt32
  c : UInt32
  d : UInt32
  e : UInt32
  f : UInt32
  g : UInt32
  h : UInt32

def initialState : HashState :=
  ⟨0x6a09e667, 0xbb67ae85, 0x3c6ef372, 0xa54ff53a, 0x510e527f, 0x9b05688c, 0x1f83d9ab, 0x5be0cd19⟩

def roundConstants : List UInt32 :=
  [0x428a2f98, 0x71374491, 0xb5c0fbcf, 0xe9b5dba5, 0x3956c25b, 0x59f111f1, 0x923f82a4, 0xab1c5ed5,
   0xd807aa98, 0x12835b01, 0x243185be, 0x550c7dc3, 0x72be5d74, 0x80deb1fe, 0x9bdc06a7, 0xc19bf174,
   0xe49b69c1, 0xefbe4786, 0x0fc19dc6, 0x240ca1cc, 0x2de92c6f, 0x4a7484aa, 0x5cb0a9dc, 0x76f988da,
   0x983e5152, 0xa831c66d, 0xb00327c8, 0xbf597fc7, 0xc6e00bf3, 0xd5a79147, 0x06ca6351, 0x14292967,
   0x27b70a85, 0x2e1b2138, 0x4d2c6dfc, 0x53380d13, 0x650a7354, 0x766a0abb, 0x81c2c92e, 0x92722c85,
   0xa2bfe8a1, 0xa81a664b, 0xc24b8b70, 0xc76c51a3, 0xd192e819, 0xd6990624, 0xf40e3585, 0x106aa070,
   0x19a4c116, 0x1e376c08, 0x2748774c, 0x34b0bcb5, 0x391c0cb3, 0x4ed8aa4a, 0x5b9cca4f, 0x682e6ff3,
   0x748f82ee, 0x78a5636f, 0x84c87814, 0x8cc70208, 0x90befffa, 0xa4506ceb, 0xbef9a3f7, 0xc67178f2]

def rotateRight (x n : UInt32) : UInt32 := (x >>> n) ||| (x <<< (32 - n))

/-- One round, with its constant and its scheduled word. -/
def HashState.round (s : HashState) (step : UInt32 × UInt32) : HashState :=
  let upper := rotateRight s.e 6 ^^^ rotateRight s.e 11 ^^^ rotateRight s.e 25
  let choice := (s.e &&& s.f) ^^^ (~~~s.e &&& s.g)
  let first := s.h + upper + choice + step.1 + step.2
  let lower := rotateRight s.a 2 ^^^ rotateRight s.a 13 ^^^ rotateRight s.a 22
  let majority := (s.a &&& s.b) ^^^ (s.a &&& s.c) ^^^ (s.b &&& s.c)
  ⟨first + (lower + majority), s.a, s.b, s.c, s.d + first, s.e, s.f, s.g⟩

/-- The next scheduled word, from the words so far, latest first. -/
def nextWord (latest : List UInt32) : UInt32 :=
  let w2 := latest.getD 1 0
  let w15 := latest.getD 14 0
  (rotateRight w2 17 ^^^ rotateRight w2 19 ^^^ (w2 >>> 10)) + latest.getD 6 0 +
    (rotateRight w15 7 ^^^ rotateRight w15 18 ^^^ (w15 >>> 3)) + latest.getD 15 0

/-- The 64 words of a block of 16. -/
def schedule (block : List UInt32) : List UInt32 :=
  ((List.range 48).foldl (fun latest _ => nextWord latest :: latest) block.reverse).reverse

/-- One block. -/
def HashState.compress (s : HashState) (block : List UInt32) : HashState :=
  let t := (roundConstants.zip (schedule block)).foldl HashState.round s
  ⟨s.a + t.a, s.b + t.b, s.c + t.c, s.d + t.d, s.e + t.e, s.f + t.f, s.g + t.g, s.h + t.h⟩

/-! ### Bytes -/

/-- The length in bits, as eight big-endian bytes. -/
def lengthBytes (size : Nat) : List UInt8 :=
  (List.range 8).map fun i => UInt8.ofNat (size * 8 / 256 ^ (7 - i))

/-- A one bit, zeros, and the length, up to a multiple of 64 bytes. -/
def pad (bytes : List UInt8) : List UInt8 :=
  bytes ++ [0x80] ++ List.replicate ((119 - bytes.length % 64) % 64) 0 ++ lengthBytes bytes.length

/-- The big-endian words of a list of bytes. -/
def words : List UInt8 → List UInt32
  | b₀ :: b₁ :: b₂ :: b₃ :: rest =>
      (b₀.toUInt32 <<< 24 ||| b₁.toUInt32 <<< 16 ||| b₂.toUInt32 <<< 8 ||| b₃.toUInt32) ::
        words rest
  | _ => []

/-- The blocks of 16 words, with as many steps as there can be blocks. -/
def blocks : Nat → List UInt32 → List (List UInt32)
  | 0, _ => []
  | _, [] => []
  | steps + 1, ws => ws.take 16 :: blocks steps (ws.drop 16)

/-- The final state. -/
def hash (bytes : List UInt8) : HashState :=
  let ws := words (pad bytes)
  (blocks ws.length ws).foldl HashState.compress initialState

/-! ### The hexadecimal digest -/

/-- The digit of a value below 16. -/
def hexDigit (value : Nat) : Char :=
  (['0', '1', '2', '3', '4', '5', '6', '7', '8', '9', 'a', 'b', 'c', 'd', 'e', 'f'] :
    List Char).getD value '0'

/-- The eight digits of a word, most significant first. -/
def wordDigits (word : UInt32) : List Char :=
  (List.range 8).map fun i => hexDigit (word.toNat / 16 ^ (7 - i) % 16)

/-- The digits of `sha256(text.encode("utf-8")).hexdigest()`. -/
def hexDigits (text : String) : List Char :=
  let s := hash text.toUTF8.toList
  [s.a, s.b, s.c, s.d, s.e, s.f, s.g, s.h].flatMap wordDigits

/-- The `sha256(text.encode("utf-8")).hexdigest()` of a text. -/
def hexDigest (text : String) : String := String.ofList (hexDigits text)

theorem hexDigit_isHexDigit (value : Nat) : isHexDigit (hexDigit value) = true := by
  have listed : ∀ digit ∈ (['0', '1', '2', '3', '4', '5', '6', '7', '8', '9', 'a', 'b', 'c', 'd',
      'e', 'f'] : List Char), isHexDigit digit = true :=
    List.all_eq_true.mp (by decide)
  unfold hexDigit
  rw [List.getD_eq_getElem?_getD]
  cases found : (['0', '1', '2', '3', '4', '5', '6', '7', '8', '9', 'a', 'b', 'c', 'd', 'e', 'f'] :
      List Char)[value]? with
  | none => decide
  | some digit => exact listed digit (List.mem_of_getElem? found)

/-- A digest has 64 digits. -/
@[simp] theorem hexDigits_length (text : String) : (hexDigits text).length = 64 := by
  simp [hexDigits, wordDigits]

/-- Every character of a digest is a lower-case hexadecimal digit. -/
theorem hexDigits_isHexDigit (text : String) : (hexDigits text).all isHexDigit = true := by
  rw [List.all_eq_true]
  intro digit member
  obtain ⟨word, -, digit_of⟩ := List.mem_flatMap.mp member
  obtain ⟨i, -, rfl⟩ := List.mem_map.mp digit_of
  exact hexDigit_isHexDigit _

/-- A digest under its scheme is a digest identity. -/
theorem isSha256Digest_hexDigest (text : String) :
    IsSha256Digest ("sha256:" ++ hexDigest text) :=
  ⟨hexDigits text, by simp [hexDigest], hexDigits_length text, hexDigits_isHexDigit text⟩

end TradingKernel.Sha256
