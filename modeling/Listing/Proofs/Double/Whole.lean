import Listing.Double.Layout
import Listing.Proofs.Double.Nearest
import Listing.Proofs.Text.Radix

/-!
# Large integers as doubles and as their text

The double nearest to an integer of 53 binary digits or more is an integer. Its text is a run
of digits that is filled up with zeros, as the fewest digits that read back as a double end
before its last place.
-/

namespace Listing.Double

open Text

variable {n : Nat}

theorem two_pow_log2_le_nearestNat (h : n ≠ 0) : 2 ^ n.log2 ≤ nearestNat n := by
  have scaled := significand_eq n
  have digits := runLength_le_significand h
  have exponent : 52 + (n.log2 + 1022) = n.log2 + places := by
    unfold places
    omega
  have power : runLength * 2 ^ (n.log2 + 1022) = 2 ^ n.log2 * 2 ^ places := by
    rw [runLength_eq, ← Nat.pow_add, exponent, Nat.pow_add]
  have below : 2 ^ n.log2 * 2 ^ places ≤ nearestNat n * 2 ^ places := by
    rw [← power, ← scaled]
    exact Nat.mul_le_mul_right _ digits
  exact Nat.le_of_mul_le_mul_right below (Nat.two_pow_pos places)

/-- A double that is at least one unit in each of its places is an integer. -/
theorem value_of_exponent_nonneg {rank : Nat} (h : 0 ≤ (Magnitude.ofRank rank).exponent) :
    (Magnitude.ofRank rank).significand * 2 ^ (Magnitude.ofRank rank).exponent.toNat *
      2 ^ places = units rank := by
  have exponent : ((Magnitude.ofRank rank).exponent + places).toNat =
      (Magnitude.ofRank rank).exponent.toNat + places := by omega
  rw [units, Nat.mul_assoc, ← Nat.pow_add, ← exponent]
  rfl

/-- The last place of the double nearest to a number of 53 binary digits. -/
theorem exponent_nearestRank (h : n ≠ 0) :
    (n.log2 : Int) - 52 ≤ (Magnitude.ofRank (nearestRank n 1)).exponent := by
  have positive : 0 < runLength := by decide
  have digits := runLength_le_significand h
  have run : (n.log2 + 1023) * runLength ≤ nearestRank n 1 := by
    rw [nearestRank_one h]
    have split : (n.log2 + 1023) * runLength = (n.log2 + 1022) * runLength + runLength := by ring
    omega
  have quotient : n.log2 + 1023 ≤ nearestRank n 1 / runLength :=
    (Nat.le_div_iff_mul_le positive).mpr run
  have large : ¬nearestRank n 1 < runLength := by
    intro small
    rw [Nat.div_eq_of_lt small] at quotient
    omega
  rw [Magnitude.ofRank, if_neg large]
  dsimp only
  omega

theorem value_nearestRank (h : n ≠ 0) (large : 52 ≤ n.log2) :
    (Magnitude.ofRank (nearestRank n 1)).significand *
      2 ^ (Magnitude.ofRank (nearestRank n 1)).exponent.toNat = nearestNat n := by
  have exponent := exponent_nearestRank h
  have whole : 0 ≤ (Magnitude.ofRank (nearestRank n 1)).exponent := by omega
  have value := value_of_exponent_nonneg whole
  rw [units_nearestRank] at value
  exact Nat.eq_of_mul_eq_mul_right (Nat.two_pow_pos places) value

theorem ofNat_eq_finite (h : n.log2 < 1022) :
    ofNat n = .finite false ⟨nearestRank n 1, nearestRank_lt h⟩ := by
  rw [ofNat, ofQuotient, ofRank, dif_pos (nearestRank_lt h)]

/-- The double nearest to an integer of 53 binary digits or more is the rounded integer. -/
theorem toNat?_ofNat (large : 52 ≤ n.log2) (h : n.log2 < 1022) :
    (ofNat n).toNat? = some (nearestNat n) := by
  have positive : n ≠ 0 := by
    rintro rfl
    exact absurd large (by decide)
  have exponent := exponent_nearestRank positive
  have whole : 0 ≤ (Magnitude.ofRank (nearestRank n 1)).exponent := by omega
  rw [ofNat_eq_finite h]
  unfold toNat?
  simp only [Magnitude.quotient, if_pos whole, Nat.mod_one, Nat.div_one, Nat.pow_eq,
    value_nearestRank positive large]
  simp

/-- The search stops at most `fuel` places below the first one. -/
theorem Interval.le_exponent_search (i : Interval) (tie : Tie) (fuel : Nat) (exponent : Int) :
    exponent - fuel ≤ (i.search tie fuel exponent).exponent := by
  induction fuel generalizing exponent with
  | zero => simp [search, onGrid]
  | succ fuel ih =>
    rw [search]
    cases chosen : i.choose? tie exponent with
    | none =>
      have := ih (exponent - 1)
      rw [Option.getD_none]
      omega
    | some d =>
      have same : d.exponent = exponent := by
        unfold choose? at chosen
        grind [onGrid]
      rw [Option.getD_some, same]
      omega

/-- Zeros that are taken off the digits are counted in the exponent. -/
theorem Decimal.exponent_le_strip (fuel : Nat) (d : Decimal) :
    d.exponent ≤ (strip fuel d).exponent := by
  induction fuel generalizing d with
  | zero => exact Int.le_refl _
  | succ fuel ih =>
    rw [strip]
    split
    next =>
      have := ih ⟨d.digits / 10, d.exponent + 1⟩
      dsimp only at this
      omega
    next => exact Int.le_refl _

theorem Interval.value_ofRank (rank : Nat) :
    (ofRank rank).value = 4 * (Magnitude.ofRank rank).significand := rfl

theorem Interval.exponent_ofRank (rank : Nat) :
    (ofRank rank).exponent = (Magnitude.ofRank rank).exponent - 2 := rfl

/-- The first place that is tried for an integer is that of its leading digit. -/
theorem Interval.leading_of_whole {i : Interval} (whole : 0 ≤ i.exponent)
    (positive : 1 ≤ i.value * 2 ^ i.exponent.toNat) :
    i.leading = (Nat.toDigits 10 (i.value * 2 ^ i.exponent.toNat)).length - 1 := by
  have none_below : (-i.exponent).toNat = 0 := by omega
  have same : common i.value i.exponent 1 0 = (i.value * 2 ^ i.exponent.toNat, 1) := by
    simp [common, none_below]
  rw [leading, same]
  dsimp only
  rw [if_pos positive, Nat.div_one]

/-- The digits of a number of 64 binary digits or more end before its last decimal place. -/
theorem exponent_shortest_nonneg (tie : Tie) (large : 63 ≤ n.log2) :
    0 ≤ (shortest tie (nearestRank n 1)).exponent := by
  have positive : n ≠ 0 := by
    rintro rfl
    exact absurd large (by decide)
  have places := exponent_nearestRank positive
  have value : (Interval.ofRank (nearestRank n 1)).value *
      2 ^ (Interval.ofRank (nearestRank n 1)).exponent.toNat = nearestNat n := by
    have quarter : (Magnitude.ofRank (nearestRank n 1)).exponent.toNat =
        2 + ((Magnitude.ofRank (nearestRank n 1)).exponent - 2).toNat := by omega
    rw [← value_nearestRank positive (by omega), quarter, Interval.value_ofRank,
      Interval.exponent_ofRank, Nat.pow_add]
    ring
  have enough : 10 ^ 18 ≤ nearestNat n := by
    have power : 2 ^ 63 ≤ 2 ^ n.log2 := Nat.pow_le_pow_right (by decide) large
    have := two_pow_log2_le_nearestNat positive
    omega
  have digits : 18 < (Nat.toDigits 10 (nearestNat n)).length := by
    rw [← Nat.not_le, Nat.length_toDigits_le_iff (by decide) (by decide)]
    omega
  have leading : 18 ≤ (Interval.ofRank (nearestRank n 1)).leading := by
    have whole : 0 ≤ (Interval.ofRank (nearestRank n 1)).exponent := by
      rw [Interval.exponent_ofRank]
      omega
    rw [Interval.leading_of_whole whole (by omega), value]
    omega
  unfold shortest
  split
  next => exact Int.le_refl _
  next =>
    -- Seventeen places are tried after the leading one, and the number has more than that.
    have searched := Interval.le_exponent_search (Interval.ofRank (nearestRank n 1)) tie 17
      (Interval.ofRank (nearestRank n 1)).leading
    have stripped := Decimal.exponent_le_strip 18 ((Interval.ofRank (nearestRank n 1)).search tie 17
      (Interval.ofRank (nearestRank n 1)).leading)
    dsimp only
    omega

/-- The number that the text of the double nearest to `n` denotes: its digits are the fewest
that read back as this double, and zeros fill them up. -/
def shown (n : Nat) : Nat :=
  (shortest .up (nearestRank n 1)).digits * 10 ^ (shortest .up (nearestRank n 1)).exponent.toNat

theorem denotes_plainText_ofNat (large : 63 ≤ n.log2) (h : n.log2 < 1022) :
    Digits.Denotes 10 (plainText (ofNat n)).toList (shown n) := by
  have text : (plainText (ofNat n)).toList = Digits.write (shortest .up (nearestRank n 1)).digits ++
      List.replicate (shortest .up (nearestRank n 1)).exponent.toNat '0' := by
    rw [ofNat_eq_finite h, plainText, String.toList_ofList, Decimal.positional,
      if_pos (exponent_shortest_nonneg .up large)]
    rfl
  rw [text]
  exact Digits.denotes_write_append_zeros _ _

end Listing.Double
