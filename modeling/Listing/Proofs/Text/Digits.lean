import Listing.Text.Digits

/-!
# Reading back decimal digits

A number is read from its own digits, and the digits of an integer are all that its text
holds but for a sign.
-/

namespace Listing.Text.Digits

theorem value?_of_isDigit {c : Char} (h : c.isDigit = true) :
    value? 10 c = some (c.toNat - '0'.toNat) := by
  have bound : 48 ≤ c.toNat ∧ c.toNat ≤ 57 := Char.isDigit_iff_toNat.mp h
  have small : c.toNat - 48 < 10 := by omega
  simp [value?, h, small]

theorem readFrom?_of_isDigit {s : List Char} (h : ∀ c ∈ s, c.isDigit = true) (n : Nat) :
    readFrom? 10 n s = some (Nat.ofDigitChars 10 s n) := by
  induction s generalizing n with
  | nil => simp [readFrom?]
  | cons c r ih =>
    rw [readFrom?, value?_of_isDigit (h c List.mem_cons_self), Option.bind_some,
      ih (fun d hd => h d (List.mem_cons_of_mem c hd)), Nat.ofDigitChars_cons, Nat.mul_comm]

theorem isDigit_of_mem_write {n : Nat} {c : Char} (h : c ∈ write n) : c.isDigit = true :=
  Nat.isDigit_of_mem_toDigits (by decide) (by decide) h

theorem write_ne_nil (n : Nat) : write n ≠ [] := Nat.toDigits_ne_nil

theorem read?_write (n : Nat) : read? 10 (write n) = some n := by
  rw [read?, if_neg (write_ne_nil n), readFrom?_of_isDigit fun c hc => isDigit_of_mem_write hc,
    write, Nat.ofDigitChars_ten_toDigits]

theorem readWord?_write {n : Nat} (h : n < UInt64.size) :
    readWord? 10 (write n) = some (UInt64.ofNat n) := by
  have unsigned : (write n).head? ≠ some '+' := by
    intro hh
    have hc : '+' ∈ write n := List.mem_of_head? hh
    exact absurd (isDigit_of_mem_write hc) (by decide)
  rw [readWord?, if_neg unsigned, read?_write, Option.bind_some, Word.ofNat?, if_pos h]

theorem writeInt_ne_nil (i : Int) : writeInt i ≠ [] := by
  cases i with
  | ofNat n => exact write_ne_nil n
  | negSucc n => exact List.cons_ne_nil _ _

/-- What the text of an integer is made of. -/
def IsSigned (c : Char) : Prop := c.isDigit = true ∨ c = '-'

theorem isSigned_of_mem_writeInt {i : Int} {c : Char} (h : c ∈ writeInt i) : IsSigned c := by
  cases i with
  | ofNat n => exact Or.inl (isDigit_of_mem_write h)
  | negSucc n =>
    rcases List.mem_cons.mp h with rfl | h
    · exact Or.inr rfl
    · exact Or.inl (isDigit_of_mem_write h)

theorem IsSigned.toNat {c : Char} (h : IsSigned c) :
    c.toNat = 45 ∨ 48 ≤ c.toNat ∧ c.toNat ≤ 57 := by
  rcases h with h | rfl
  · exact Or.inr (Char.isDigit_iff_toNat.mp h)
  · exact Or.inl rfl

end Listing.Text.Digits
