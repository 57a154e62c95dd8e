import Diagnostics.Text.Utf8

/-!
# Encoded text is decoded

Decoding gives back every text from its UTF-8 bytes. One character is one, two, three or four bytes: the
first byte of a longer sequence says how many bytes follow, and its range for the second byte lets the
character through, because the sequence is the shortest one and no character is half of a surrogate pair.
-/

set_option autoImplicit false

namespace Diagnostics.Text

/-- The bytes of a text in UTF-8. -/
def encodeUtf8 (text : List Char) : List UInt8 :=
  text.flatMap String.utf8EncodeChar

/-- The code point of a character is no half of a pair. -/
theorem scalar_bounds (c : Char) :
    c.toNat < 0xd800 ∨ 0xdfff < c.toNat ∧ c.toNat < 0x110000 :=
  c.valid

/-- A byte that a number fits in. -/
theorem toNat_byte {n : Nat} (h : n < 256) : (UInt8.ofNat n).toNat = n := by
  rw [UInt8.toNat_ofNat', Nat.mod_eq_of_lt h]

section Continuation

variable {value read low high following n : Nat} {rest : List UInt8}

/-- One more byte, within the bounds for it. -/
theorem continuation_byte (h : low ≤ n ∧ n ≤ high) (hn : n < 256) :
    continuation value read low high (following + 1) (UInt8.ofNat n :: rest) =
      continuation (64 * value + n % 64) (read + 1) 0x80 0xbf following rest := by
  rw [continuation, toNat_byte hn, if_pos h]

/-- A later byte holds six bits. -/
theorem continuation_later (v : Nat) :
    continuation value read 0x80 0xbf (following + 1) (UInt8.ofNat (v % 64 + 128) :: rest) =
      continuation (64 * value + v % 64) (read + 1) 0x80 0xbf following rest := by
  rw [continuation_byte (by omega) (by omega)]
  congr 2
  omega

end Continuation

/-- The first byte of two has five bits. -/
theorem leadBits_one (b : Nat) : leadBits b 1 = b % 32 := rfl

/-- The first byte of three has four bits. -/
theorem leadBits_two (b : Nat) : leadBits b 2 = b % 16 := rfl

/-- The first byte of four has three bits. -/
theorem leadBits_three (b : Nat) : leadBits b 3 = b % 8 := rfl

/-- The first two bytes of a sequence of three. -/
theorem leadByte?_three {v : Nat} (hlow : 0x800 ≤ v) (hhigh : v < 0x10000)
    (hscalar : v < 0xd800 ∨ 0xdfff < v) :
    ∃ low high, leadByte? (v / 4096 % 16 + 224) = some (low, high, 2) ∧
      low ≤ v / 64 % 64 + 128 ∧ v / 64 % 64 + 128 ≤ high := by
  unfold leadByte?
  rw [if_neg (by omega), if_neg (by omega)]
  split
  · exact ⟨_, _, rfl, by omega, by omega⟩
  split
  · exact ⟨_, _, rfl, by omega, by omega⟩
  · rw [if_pos (by omega)]
    exact ⟨_, _, rfl, by omega, by omega⟩

/-- The first two bytes of a sequence of four. -/
theorem leadByte?_four {v : Nat} (hlow : 0x10000 ≤ v) (hhigh : v < 0x110000) :
    ∃ low high, leadByte? (v / 262144 % 8 + 240) = some (low, high, 3) ∧
      low ≤ v / 4096 % 64 + 128 ∧ v / 4096 % 64 + 128 ≤ high := by
  unfold leadByte?
  rw [if_neg (by omega), if_neg (by omega), if_neg (by omega), if_neg (by omega),
    if_neg (by omega)]
  split
  · exact ⟨_, _, rfl, by omega, by omega⟩
  split
  · exact ⟨_, _, rfl, by omega, by omega⟩
  · rw [if_pos (by omega)]
    exact ⟨_, _, rfl, by omega, by omega⟩

/-- Decoding takes the bytes of one character off. -/
theorem decodeUtf8From_char (bound position : Nat) (c : Char) (rest : List UInt8) :
    ∃ behind, decodeUtf8From (bound + 1) position (String.utf8EncodeChar c ++ rest) =
      (decodeUtf8From bound behind rest).map (c :: ·) := by
  have hchar : Char.ofNat c.toNat = c := Char.ofNat_toNat c
  have hbounds := scalar_bounds c
  rw [String.utf8EncodeChar]
  generalize hv : c.val.toNat = v
  rw [show c.toNat = v from hv] at hchar hbounds
  -- One case for each number of bytes, the smallest first.
  split
  · refine ⟨position + 1, ?_⟩
    rw [List.singleton_append, decodeUtf8From, toNat_byte (by omega), if_pos (by omega), hchar]
  split
  · refine ⟨position + 1 + 1, ?_⟩
    have hlead : leadByte? (v / 64 % 32 + 192) = some (0x80, 0xbf, 1) := by
      unfold leadByte?
      rw [if_neg (by omega), if_pos (by omega)]
    have hvalue : 64 * leadBits (v / 64 % 32 + 192) 1 + v % 64 = v := by
      rw [leadBits_one]
      omega
    rw [List.cons_append, List.singleton_append, decodeUtf8From, toNat_byte (by omega),
      if_neg (by omega), hlead]
    dsimp only
    rw [continuation_later, continuation]
    dsimp only
    rw [hvalue, hchar]
  split
  · refine ⟨position + 2 + 1, ?_⟩
    obtain ⟨low, high, hlead, hsecond⟩ := leadByte?_three (v := v) (by omega) (by omega) (by omega)
    have hvalue : 64 * (64 * leadBits (v / 4096 % 16 + 224) 2 + (v / 64 % 64 + 128) % 64) +
        v % 64 = v := by
      rw [leadBits_two]
      omega
    rw [List.cons_append, decodeUtf8From, toNat_byte (by omega), if_neg (by omega), hlead]
    dsimp only [List.cons_append]
    rw [continuation_byte hsecond (by omega), continuation_later, continuation]
    dsimp only [List.nil_append]
    rw [hvalue, hchar]
  · refine ⟨position + 3 + 1, ?_⟩
    obtain ⟨low, high, hlead, hsecond⟩ := leadByte?_four (v := v) (by omega) (by omega)
    have hvalue : 64 * (64 * (64 * leadBits (v / 262144 % 8 + 240) 3 +
        (v / 4096 % 64 + 128) % 64) + v / 64 % 64) + v % 64 = v := by
      rw [leadBits_three]
      omega
    rw [List.cons_append, decodeUtf8From, toNat_byte (by omega), if_neg (by omega), hlead]
    dsimp only [List.cons_append]
    rw [continuation_byte hsecond (by omega), continuation_later, continuation_later, continuation]
    dsimp only [List.nil_append]
    rw [hvalue, hchar]

/-- The bytes of a text are decoded, from whatever position on. -/
theorem decodeUtf8From_encoded (text : List Char) {bound : Nat} (position : Nat)
    (h : text.length ≤ bound) : decodeUtf8From bound position (encodeUtf8 text) = .ok text := by
  induction text generalizing bound position with
  | nil => cases bound <;> rfl
  | cons c text ih =>
    cases bound with
    | zero => cases h
    | succ bound =>
      unfold encodeUtf8
      rw [List.flatMap_cons]
      obtain ⟨behind, hchar⟩ := decodeUtf8From_char bound position c (encodeUtf8 text)
      rw [show text.flatMap String.utf8EncodeChar = encodeUtf8 text from rfl, hchar,
        ih behind (Nat.le_of_succ_le_succ h)]
      rfl

/-- Every character takes at least one byte. -/
theorem length_le_encodeUtf8 (text : List Char) : text.length ≤ (encodeUtf8 text).length := by
  induction text with
  | nil => exact Nat.le_refl 0
  | cons c text ih =>
    unfold encodeUtf8
    rw [List.flatMap_cons, List.length_append, String.length_utf8EncodeChar]
    have hsize := c.utf8Size_pos
    show text.length + 1 ≤ c.utf8Size + (encodeUtf8 text).length
    omega

/-- Every text is read back from its bytes. -/
theorem decodeUtf8_encodeUtf8 (text : List Char) : decodeUtf8 (encodeUtf8 text) = .ok text :=
  decodeUtf8From_encoded text 0 (length_le_encodeUtf8 text)

end Diagnostics.Text
