import Templating.Failure

/-!
# UTF-8

Decoding of bytes. Bytes that are no UTF-8 are refused with the bytes of the broken character, its
position and the reason: a character may break off at any of its bytes, and overlong forms,
surrogates and numbers beyond the last code point break off as early as that shows.
-/

namespace Templating.Text.Utf8

/-- How many bytes a character has that begins with `b`, with the range of its second byte. -/
def shape? (b : Nat) : Option (Nat × Nat × Nat) :=
  if b < 0x80 then some (1, 0, 0)
  else if b < 0xC2 then none
  else if b < 0xE0 then some (2, 0x80, 0xBF)
  else if b < 0xF0 then
    some (3, if b = 0xE0 then 0xA0 else 0x80, if b = 0xED then 0x9F else 0xBF)
  else if b < 0xF5 then
    some (4, if b = 0xF0 then 0x90 else 0x80, if b = 0xF4 then 0x8F else 0xBF)
  else none

/-- How many of the first `wanted` bytes continue a character whose next byte lies in the range. -/
def continuation : (wanted low high : Nat) → List UInt8 → Nat
  | wanted + 1, low, high, b :: bs =>
    if low ≤ b.toNat ∧ b.toNat ≤ high then 1 + continuation wanted 0x80 0xBF bs else 0
  | _, _, _, _ => 0

/-- The code point of a character of `size` bytes. -/
def codePoint (size : Nat) (first : Nat) (more : List UInt8) : Nat :=
  let lead := if size = 1 then first else first % Nat.pow 2 (7 - size)
  more.foldl (fun n b => n * 64 + b.toNat % 64) lead

/-- Decodes bytes that begin at the given position. -/
def decodeFrom (start : Nat) (bytes : List UInt8) : Except Failure (List Char) :=
  match bytes with
  | [] => .ok []
  | b :: bs =>
    match shape? b.toNat with
    | none => .error (.undecodable [b] start .invalidStart)
    | some (size, low, high) =>
      let found := continuation (size - 1) low high bs
      if found = size - 1 then do
        let rest ← decodeFrom (start + 1 + found) (bs.drop found)
        .ok (Char.ofNat (codePoint size b.toNat (bs.take found)) :: rest)
      else if found = bs.length then
        .error (.undecodable (b :: bs) start .unexpectedEnd)
      else
        .error (.undecodable (b :: bs.take found) start .invalidContinuation)
termination_by bytes.length
decreasing_by simp only [List.length_drop, List.length_cons]; omega

/-- The characters that the bytes encode. -/
def decode (bytes : List UInt8) : Except Failure (List Char) :=
  decodeFrom 0 bytes

example : decode [0x61, 0xC3, 0xA9] = .ok ['a', '\u00e9'] := by cbv

example : decode [0x61, 0xE9] = .error (.undecodable [0xE9] 1 .unexpectedEnd) := by cbv

end Templating.Text.Utf8
