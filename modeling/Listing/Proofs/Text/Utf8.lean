import Listing.Text.Utf8
import Mathlib.Tactic.IntervalCases

/-!
# Reading back UTF-8

What is well-formed reads as itself: the bytes of a text are read as that text, character
by character. A first byte is told by its bits, and the bytes after it each add six bits.
-/

namespace Listing.Text.Utf8

theorem toNat_ofNat_of_le {n : Nat} {high : UInt8} (h : n ≤ high.toNat) :
    (UInt8.ofNat n).toNat = n := by
  have bound : high.toNat < 256 := high.toNat_lt
  simp only [UInt8.toNat_ofNat']
  omega

/-- A byte in range adds its low six bits. -/
theorem follow_succ (k : Nat) {low high : UInt8} (bits : Nat) {n : Nat} (r : List UInt8)
    (hlow : low.toNat ≤ n) (hhigh : n ≤ high.toNat) :
    follow (k + 1) low high bits (UInt8.ofNat n :: r) =
      follow k 0x80 0xBF (bits * 64 + (n - 0x80)) r := by
  have hn := toNat_ofNat_of_le hhigh
  have inside : (low ≤ UInt8.ofNat n && UInt8.ofNat n ≤ high) = true := by
    simp only [Bool.and_eq_true, decide_eq_true_eq, UInt8.le_iff_toNat_le, hn]
    exact ⟨hlow, hhigh⟩
  rw [follow, if_pos inside, hn]

theorem follow_tail (k bits m : Nat) (r : List UInt8) :
    follow (k + 1) 0x80 0xBF bits (UInt8.ofNat (m % 64 + 0x80) :: r) =
      follow k 0x80 0xBF (bits * 64 + m % 64) r := by
  have low : (0x80 : UInt8).toNat ≤ m % 64 + 0x80 := Nat.le_add_left _ _
  have high : m % 64 + 0x80 ≤ (0xBF : UInt8).toNat := by
    change m % 64 + 0x80 ≤ 0xBF
    omega
  rw [follow_succ k bits r low high, Nat.add_sub_cancel]

theorem lead?_two {n : Nat} (low : 2 ≤ n) (high : n < 32) :
    lead? (UInt8.ofNat (n + 0xC0)) = some ⟨n, 1, 0x80, 0xBF⟩ := by
  interval_cases n <;> rfl

theorem lead?_three {n : Nat} (high : n < 16) :
    lead? (UInt8.ofNat (n + 0xE0)) =
      some ⟨n, 2, if n = 0 then 0xA0 else 0x80, if n = 13 then 0x9F else 0xBF⟩ := by
  interval_cases n <;> rfl

theorem lead?_four {n : Nat} (high : n < 5) :
    lead? (UInt8.ofNat (n + 0xF0)) =
      some ⟨n, 3, if n = 0 then 0x90 else 0x80, if n = 4 then 0x8F else 0xBF⟩ := by
  interval_cases n <;> rfl

/-- A first byte and what follows it read as one character. -/
theorem decode_lead {b : UInt8} {r rest : List UInt8} {l : Lead} {bits : Nat}
    (hl : lead? b = some l)
    (hf : follow l.following l.low l.high l.bits r = (some bits, rest)) :
    decode (b :: r) = Char.ofNat bits :: decode rest := by
  have high : ¬ b < 0x80 := by
    intro hb
    have hn : b.toNat < 0x80 := hb
    have none_left : lead? b = none := by
      have low {x : UInt8} (hx : 0x80 ≤ x.toNat) : ¬ x ≤ b := by
        rw [UInt8.le_iff_toNat_le]
        omega
      have ne {x : UInt8} (hx : 0x80 ≤ x.toNat) : b ≠ x := by
        rintro rfl
        omega
      simp [lead?, low, ne]
    rw [hl] at none_left
    cases none_left
  rw [decode, if_neg high, hl]
  simp [hf]

theorem decode_one {c : Char} (h : c.toNat < 0x80) (r : List UInt8) :
    decode (UInt8.ofNat c.toNat :: r) = c :: decode r := by
  have top : c.toNat ≤ (0x7F : UInt8).toNat := Nat.le_of_lt_succ h
  have hn : (UInt8.ofNat c.toNat).toNat = c.toNat := toNat_ofNat_of_le top
  have small : UInt8.ofNat c.toNat < 0x80 := by
    rw [UInt8.lt_iff_toNat_lt, hn]
    exact h
  rw [decode, if_pos small, hn, Char.ofNat_toNat]

theorem decode_two {c : Char} (low : 0x80 ≤ c.toNat) (high : c.toNat ≤ 0x7FF)
    (r : List UInt8) :
    decode (UInt8.ofNat (c.toNat / 64 % 32 + 0xC0) ::
      UInt8.ofNat (c.toNat % 64 + 0x80) :: r) = c :: decode r := by
  have hl := lead?_two (n := c.toNat / 64 % 32) (by omega) (by omega)
  have value : c.toNat / 64 % 32 * 64 + c.toNat % 64 = c.toNat := by omega
  rw [decode_lead hl (follow_tail 0 _ _ r), value, Char.ofNat_toNat]

/-- The second of three bytes avoids long forms and surrogates. -/
theorem decode_three {c : Char} (low : 0x800 ≤ c.toNat) (high : c.toNat ≤ 0xFFFF)
    (r : List UInt8) :
    decode (UInt8.ofNat (c.toNat / 4096 % 16 + 0xE0) ::
      UInt8.ofNat (c.toNat / 64 % 64 + 0x80) ::
      UInt8.ofNat (c.toNat % 64 + 0x80) :: r) = c :: decode r := by
  have valid : c.toNat < 0xD800 ∨ 0xDFFF < c.toNat ∧ c.toNat < 0x110000 := c.valid
  have hl := lead?_three (n := c.toNat / 4096 % 16) (by omega)
  have notLong : (if c.toNat / 4096 % 16 = 0 then 0xA0 else 0x80 : UInt8).toNat ≤
      c.toNat / 64 % 64 + 0x80 := by
    split
    · change 0xA0 ≤ _
      omega
    · change 0x80 ≤ _
      omega
  have noSurrogate : c.toNat / 64 % 64 + 0x80 ≤
      (if c.toNat / 4096 % 16 = 13 then 0x9F else 0xBF : UInt8).toNat := by
    split
    · change _ ≤ 0x9F
      omega
    · change _ ≤ 0xBF
      omega
  have hf := (follow_succ 1 (c.toNat / 4096 % 16)
    (UInt8.ofNat (c.toNat % 64 + 0x80) :: r) notLong noSurrogate).trans (follow_tail 0 _ _ r)
  have value : (c.toNat / 4096 % 16 * 64 + (c.toNat / 64 % 64 + 0x80 - 0x80)) * 64 +
      c.toNat % 64 = c.toNat := by omega
  rw [decode_lead hl hf, value, Char.ofNat_toNat]

/-- The second of four bytes avoids long forms and values past the last character. -/
theorem decode_four {c : Char} (low : 0x10000 ≤ c.toNat) (r : List UInt8) :
    decode (UInt8.ofNat (c.toNat / 262144 % 8 + 0xF0) ::
      UInt8.ofNat (c.toNat / 4096 % 64 + 0x80) ::
      UInt8.ofNat (c.toNat / 64 % 64 + 0x80) ::
      UInt8.ofNat (c.toNat % 64 + 0x80) :: r) = c :: decode r := by
  have valid : c.toNat < 0xD800 ∨ 0xDFFF < c.toNat ∧ c.toNat < 0x110000 := c.valid
  have hl := lead?_four (n := c.toNat / 262144 % 8) (by omega)
  have notLong : (if c.toNat / 262144 % 8 = 0 then 0x90 else 0x80 : UInt8).toNat ≤
      c.toNat / 4096 % 64 + 0x80 := by
    split
    · change 0x90 ≤ _
      omega
    · change 0x80 ≤ _
      omega
  have inRange : c.toNat / 4096 % 64 + 0x80 ≤
      (if c.toNat / 262144 % 8 = 4 then 0x8F else 0xBF : UInt8).toNat := by
    split
    · change _ ≤ 0x8F
      omega
    · change _ ≤ 0xBF
      omega
  have hf := (follow_succ 2 (c.toNat / 262144 % 8) (UInt8.ofNat (c.toNat / 64 % 64 + 0x80) ::
    UInt8.ofNat (c.toNat % 64 + 0x80) :: r) notLong inRange).trans
      ((follow_tail 1 _ _ _).trans (follow_tail 0 _ _ r))
  have value : ((c.toNat / 262144 % 8 * 64 + (c.toNat / 4096 % 64 + 0x80 - 0x80)) * 64 +
      c.toNat / 64 % 64) * 64 + c.toNat % 64 = c.toNat := by omega
  rw [decode_lead hl hf, value, Char.ofNat_toNat]

theorem decode_utf8EncodeChar_append (c : Char) (r : List UInt8) :
    decode (String.utf8EncodeChar c ++ r) = c :: decode r := by
  have size : c.val.toNat = c.toNat := rfl
  by_cases one : c.toNat ≤ 0x7F
  · simpa [String.utf8EncodeChar, size, one] using decode_one (by omega) r
  · by_cases two : c.toNat ≤ 0x7FF
    · simpa [String.utf8EncodeChar, size, one, two] using decode_two (by omega) two r
    · by_cases three : c.toNat ≤ 0xFFFF
      · simpa [String.utf8EncodeChar, size, one, two, three] using
          decode_three (by omega) three r
      · simpa [String.utf8EncodeChar, size, one, two, three] using decode_four (by omega) r

/-- The bytes of a text read as the text. -/
theorem decode_encode (s : List Char) : decode (encode s) = s := by
  induction s with
  | nil => simp [encode, decode]
  | cons c r ih =>
    change decode (String.utf8EncodeChar c ++ encode r) = c :: r
    rw [decode_utf8EncodeChar_append, ih]

end Listing.Text.Utf8
