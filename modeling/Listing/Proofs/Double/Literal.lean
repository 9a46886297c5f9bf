import Listing.Double.Literal
import Listing.Proofs.Text.Digits
import Mathlib.Algebra.Ring.Nat
import Mathlib.Data.List.TakeWhile

/-!
# Integers as decimal literals

The text of an integer is a literal without a point and an exponent, and is read as the
double nearest to the integer.
-/

namespace Listing.Double

open Text Digits

/-- Digits alone are the whole of a literal without point and exponent. -/
theorem Literal.read?_digits {s : List Char} {negative : Bool} (n : Nat)
    (sign : splitSign s = (negative, write n)) :
    Literal.read? s = some ⟨negative, n, 0⟩ := by
  have noMark : ∀ c ∈ write n, (!isExponentMark c) = true := by
    intro c hc
    have digit := Char.isDigit_iff_toNat.mp (isDigit_of_mem_write hc)
    have apart : c ≠ 'e' ∧ c ≠ 'E' := by
      constructor
      · rintro rfl
        exact absurd digit.2 (by decide)
      · rintro rfl
        exact absurd digit.2 (by decide)
    simp [isExponentMark, apart]
  have digits : ∀ c ∈ write n, Char.isDigit c = true := fun c hc => isDigit_of_mem_write hc
  have fixed : readFixed? (write n) = some (n, 0) := by
    rw [readFixed?, List.takeWhile_eq_self_iff.mpr digits, List.dropWhile_eq_nil_iff.mpr digits]
    simp [read?_write]
  rw [Literal.read?, sign]
  simp only [List.takeWhile_eq_self_iff.mpr noMark, List.dropWhile_eq_nil_iff.mpr noMark, fixed,
    Option.bind_some]

theorem splitSign_write (n : Nat) : splitSign (write n) = (false, write n) := by
  obtain ⟨c, r, hs⟩ := List.exists_cons_of_ne_nil (write_ne_nil n)
  have digit : c.isDigit = true := isDigit_of_mem_write (hs ▸ List.mem_cons_self)
  rw [hs]
  unfold splitSign
  split
  next he => exact absurd ((List.cons.inj he).1 ▸ digit) (by decide)
  next he => exact absurd ((List.cons.inj he).1 ▸ digit) (by decide)
  next => rfl

theorem Literal.read?_writeInt (i : Int) :
    Literal.read? (writeInt i) = some ⟨decide (i < 0), i.natAbs, 0⟩ := by
  cases i with
  | ofNat n =>
    rw [writeInt, Literal.read?_digits n (splitSign_write n)]
    simp
  | negSucc n =>
    rw [writeInt, Literal.read?_digits (n + 1) rfl]
    simp

/-- A literal without a point and exponent is read as the double nearest to it. -/
theorem ofDecimal_integer (negative : Bool) {n : Nat} (h : n < 10 ^ 20) :
    ofDecimal negative n 0 = ofQuotient negative n 1 := by
  have length : (write n).length ≤ 20 := (Nat.length_toDigits_le_iff (by decide) (by decide)).mpr h
  by_cases zero : n = 0
  · subst zero
    rfl
  · have low : ¬(n = 0 ∨ (0 : Int) + (write n).length < -330) := by omega
    have high : ¬(330 < (0 : Int) + (write n).length) := by omega
    rw [ofDecimal, if_neg low, if_neg high]
    simp

end Listing.Double
