import Highlighter.Payload.Base64

/-! Reading base64 gives back the bytes that were written. A group of four letters holds the 24 bits
of three bytes; a last group of one or two bytes is padded, and reading stops at its padding.
-/

namespace Highlighter.Base64

/-- A letter has the value that it is the letter of, for all 64 of them. -/
theorem sextet?_letter {n : Nat} (small : n < 64) : sextet? (letter n) = some n := by
  have each : ∀ n ∈ List.range 64, sextet? (letter n) = some n := by decide
  exact each n (List.mem_range.mpr small)

theorem letter_ne_padding {n : Nat} (small : n < 64) : letter n ≠ '=' := by
  have each : ∀ n ∈ List.range 64, letter n ≠ '=' := by decide
  exact each n (List.mem_range.mpr small)

theorem sextets_letter {n : Nat} (small : n < 64) (text : List Char)
    : sextets (letter n :: text) = n :: sextets text := by
  simp [sextets, letter_ne_padding small, sextet?_letter small]

theorem sextets_padding (text : List Char) : sextets ('=' :: text) = [] := by
  simp [sextets]

/-- A byte is its value modulo 256. -/
theorem ofNat_eq (byte : UInt8) {n : Nat} (same : n % 256 = byte.toNat) : UInt8.ofNat n = byte := by
  rw [← UInt8.toNat_inj, UInt8.toNat_ofNat', same]

/-- What is written is read again, by induction over the groups: each byte is cut into the ends of
two neighbouring values, and these join to the byte.
-/
theorem decode_encode (bytes : List UInt8) : decode (encode bytes) = bytes := by
  induction bytes using encode.induct with
  | case1 => rfl
  | case2 a =>
      have := a.toNat_lt
      rw [decode, encode, sextets_letter (by omega), sextets_letter (by omega), sextets_padding,
        bytesOf, ofNat_eq a (by omega)]
  | case3 a b =>
      have := a.toNat_lt
      have := b.toNat_lt
      rw [decode, encode, sextets_letter (by omega), sextets_letter (by omega),
        sextets_letter (by omega), sextets_padding, bytesOf, ofNat_eq a (by omega),
        ofNat_eq b (by omega)]
  | case4 a b c rest ih =>
      have := a.toNat_lt
      have := b.toNat_lt
      have := c.toNat_lt
      rw [decode] at ih
      rw [decode, encode, sextets_letter (by omega), sextets_letter (by omega),
        sextets_letter (by omega), sextets_letter (by omega), bytesOf, ih,
        ofNat_eq a (by omega), ofNat_eq b (by omega),
        ofNat_eq c (by omega)]

end Highlighter.Base64
