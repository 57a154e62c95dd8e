/-!
# UTF-8

Decoding follows the table of well-formed byte sequences of the Unicode standard. A sequence that is
not well formed is reported with its position and, if it has more than one byte that could belong
together, with the last such position.
-/

set_option autoImplicit false

namespace Diagnostics.Text

/-- Why bytes are not UTF-8. -/
inductive Utf8Cause where
  /-- No sequence starts with this byte. -/
  | start
  /-- A byte that does not continue the sequence follows it. -/
  | continuation
  /-- The bytes end within a sequence. -/
  | truncated
  deriving DecidableEq

/-- Where bytes stop being UTF-8: the position, the byte there, how many bytes belong together. -/
structure Utf8Fault where
  position : Nat
  byte : UInt8
  length : Nat
  cause : Utf8Cause
  deriving DecidableEq

/-- The range that the second byte of a sequence has to lie in, by its first byte, and how many
bytes follow the first; `none` for a byte that starts no longer sequence. -/
def leadByte? (b : Nat) : Option (Nat × Nat × Nat) :=
  if b < 0xc2 then none
  else if b < 0xe0 then some (0x80, 0xbf, 1)
  else if b = 0xe0 then some (0xa0, 0xbf, 2)
  else if b = 0xed then some (0x80, 0x9f, 2)
  else if b < 0xf0 then some (0x80, 0xbf, 2)
  else if b = 0xf0 then some (0x90, 0xbf, 3)
  else if b < 0xf4 then some (0x80, 0xbf, 3)
  else if b = 0xf4 then some (0x80, 0x8f, 3)
  else none

/-- The payload bits of a first byte that `following` bytes follow. -/
def leadBits (b following : Nat) : Nat :=
  b % Nat.pow 2 (6 - following)

/-- Reads the bytes that follow a first byte: how many were read well, and the scalar value if all
were there. The bounds hold for the next byte; later ones lie between `0x80` and `0xbf`. -/
def continuation (value read : Nat) (low high : Nat) :
    Nat → List UInt8 → Except (Nat × Utf8Cause) (Nat × List UInt8)
  | 0, rest => .ok (value, rest)
  | _ + 1, [] => .error (read, .truncated)
  | following + 1, b :: rest =>
    if low ≤ b.toNat ∧ b.toNat ≤ high then
      continuation (64 * value + b.toNat % 64) (read + 1) 0x80 0xbf following rest
    else .error (read, .continuation)

/-- Decodes from a position on; the bound is the number of bytes left. -/
def decodeUtf8From : Nat → Nat → List UInt8 → Except Utf8Fault (List Char)
  | 0, _, _ => .ok []
  | _ + 1, _, [] => .ok []
  | bound + 1, position, b :: rest =>
    if b.toNat < 0x80 then
      (decodeUtf8From bound (position + 1) rest).map (Char.ofNat b.toNat :: ·)
    else
      match leadByte? b.toNat with
      | none => .error ⟨position, b, 1, .start⟩
      | some (low, high, following) =>
        match continuation (leadBits b.toNat following) 1 low high following rest with
        | .error (read, cause) => .error ⟨position, b, read, cause⟩
        | .ok (value, tail) =>
          (decodeUtf8From bound (position + following + 1) tail).map (Char.ofNat value :: ·)

/-- The characters that the bytes encode. -/
def decodeUtf8 (bytes : List UInt8) : Except Utf8Fault (List Char) :=
  decodeUtf8From bytes.length 0 bytes

end Diagnostics.Text
