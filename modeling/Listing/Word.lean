/-!
# Words

Numbers that fit 64 bits, without and with a sign. A number is a word if it is in range;
nothing wraps around.
-/

namespace Listing.Word

/-- The word without a sign for a number, if there is one. -/
def ofNat? (n : Nat) : Option UInt64 := if n < UInt64.size then some (UInt64.ofNat n) else none

def greatest : Nat := UInt64.size - 1

/-- The word with a sign for an integer, if there is one. -/
def signed? (i : Int) : Option Int64 :=
  if -0x8000000000000000 ≤ i ∧ i < 0x8000000000000000 then some (Int64.ofInt i) else none

/-- Every word without a sign is found by its number. -/
theorem ofNat?_toNat (w : UInt64) : ofNat? w.toNat = some w := by
  have h : w.toNat < UInt64.size := w.toNat_lt_size
  simp [ofNat?, h]

theorem ofNat?_eq_some_iff {n : Nat} {w : UInt64} : ofNat? n = some w ↔ n = w.toNat := by
  constructor
  · intro found
    obtain ⟨short, he⟩ := Option.ite_none_right_eq_some.1 found
    rw [← Option.some_inj.1 he, UInt64.toNat_ofNat_of_lt' short]
  · rintro rfl
    exact ofNat?_toNat w

/-- Every word with a sign is found by its integer. -/
theorem signed?_toInt (w : Int64) : signed? w.toInt = some w := by
  have low : -0x8000000000000000 ≤ w.toInt := w.le_toInt
  have high : w.toInt < 0x8000000000000000 := w.toInt_lt
  simp [signed?, low, high]

end Listing.Word
