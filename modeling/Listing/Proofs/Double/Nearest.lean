import Listing.Double.Basic
import Mathlib.Algebra.Order.Group.Nat
import Mathlib.Algebra.Order.Ring.Nat
import Mathlib.Order.Monotone.Basic
import Mathlib.Tactic.Ring

/-!
# Integers as doubles

The double nearest to a natural number is the number itself, rounded to 53 binary digits. So
two integers become the same double exactly if they round alike, and below `2 ^ 53` that is
if they are equal. Ranks are compared by how often the least positive double goes into them.
-/

namespace Listing.Double

theorem runLength_eq : runLength = 2 ^ 52 := by decide

/-- The least positive double is 1 divided by two to this power. -/
def places : Nat := 1074

/-- How often the least positive double goes into the one of a rank. -/
def units (rank : Nat) : Nat :=
  let m := Magnitude.ofRank rank
  m.significand * Nat.pow 2 (m.exponent + places).toNat

theorem units_of_lt {rank : Nat} (h : rank < runLength) : units rank = rank := by
  simp [units, Magnitude.ofRank, h, places]

/-- Where one run of ranks ends, the next one continues it. -/
theorem units_run (k : Nat) {m : Nat} (h : m ≤ runLength) :
    units ((k + 1) * runLength + m) = (runLength + m) * 2 ^ k := by
  have positive : 0 < runLength := by decide
  have exponent (k : Nat) : ((k + 1 : Nat) - 1075 + places : Int).toNat = k := by
    unfold places
    omega
  have within (k : Nat) {m : Nat} (h : m < runLength) :
      units ((k + 1) * runLength + m) = (runLength + m) * 2 ^ k := by
    have large : ¬(k + 1) * runLength + m < runLength := by
      rw [Nat.succ_mul]
      omega
    have place : ((k + 1) * runLength + m) % runLength = m := by
      rw [Nat.mul_add_mod', Nat.mod_eq_of_lt h]
    have run : ((k + 1) * runLength + m) / runLength = k + 1 := by
      rw [Nat.add_comm, Nat.add_mul_div_right _ _ positive, Nat.div_eq_of_lt h, Nat.zero_add]
    rw [units, Magnitude.ofRank, if_neg large]
    simp only [place, run, exponent, Nat.pow_eq]
  rcases Nat.lt_or_eq_of_le h with h | rfl
  · exact within k h
  · have next := within (k + 1) positive
    have same : (k + 1 + 1) * runLength + 0 = (k + 1) * runLength + runLength := by ring
    rw [same] at next
    rw [next, Nat.pow_succ]
    ring

theorem units_strictMono : StrictMono units := by
  apply strictMono_nat_of_lt_succ
  intro rank
  by_cases below : rank < runLength
  · rw [units_of_lt below]
    by_cases next : rank + 1 < runLength
    · rw [units_of_lt next]
      exact Nat.lt_succ_self rank
    · have first := units_run 0 (Nat.zero_le runLength)
      have same : rank + 1 = (0 + 1) * runLength + 0 := by omega
      rw [same, first]
      omega
  · have positive : 0 < runLength := by decide
    have bound := Nat.mod_lt rank positive
    have run : 0 < rank / runLength := Nat.div_pos (Nat.not_lt.mp below) positive
    obtain ⟨k, hk⟩ := Nat.exists_eq_add_of_lt run
    have whole : rank = (k + 1) * runLength + rank % runLength := by
      have parts := Nat.div_add_mod rank runLength
      rw [hk, Nat.zero_add, Nat.mul_comm] at parts
      exact parts.symm
    have here := units_run k (Nat.le_of_lt bound)
    have next := units_run k (Nat.succ_le_of_lt bound)
    rw [← whole] at here
    rw [Nat.succ_eq_add_one, ← Nat.add_assoc, ← whole] at next
    rw [here, next]
    apply Nat.mul_lt_mul_of_pos_right
    · omega
    · exact Nat.two_pow_pos k

theorem roundHalfEven_one (n : Nat) : roundHalfEven n 1 = n := by
  simp [roundHalfEven, Nat.mod_one]

theorem div_le_roundHalfEven (num den : Nat) : num / den ≤ roundHalfEven num den := by
  unfold roundHalfEven
  grind

theorem roundHalfEven_le (num den : Nat) : roundHalfEven num den ≤ num / den + 1 := by
  unfold roundHalfEven
  grind

/-- The distance between neighbouring doubles of the size of a number; one below `2 ^ 53`. -/
def step (n : Nat) : Nat := Nat.pow 2 (n.log2 - 52)

/-- The nearest number of 53 binary digits and zeros, a tie to the one whose digits are even. -/
def nearestNat (n : Nat) : Nat := roundHalfEven n (step n) * step n

theorem step_eq (n : Nat) : step n = 2 ^ (n.log2 - 52) := rfl

/-- A number shifted so that it has 53 binary digits before the point. -/
theorem scaled_one (n : Nat) :
    scaled n 1 ((n.log2 : Int) - 52) = (n * 2 ^ (52 - n.log2), step n) := by
  unfold scaled step
  split
  next large =>
    have up : 52 - n.log2 = 0 := by omega
    have down : ((n.log2 : Int) - 52).toNat = n.log2 - 52 := by omega
    rw [up, down, Nat.pow_zero, Nat.mul_one, Nat.one_mul]
  next small =>
    have up : (-((n.log2 : Int) - 52)).toNat = 52 - n.log2 := by omega
    have down : n.log2 - 52 = 0 := by omega
    rw [up, down]
    rfl

theorem step_mul_runLength (n : Nat) : step n * runLength = 2 ^ n.log2 * 2 ^ (52 - n.log2) := by
  rw [step_eq, runLength_eq, ← Nat.pow_add, ← Nat.pow_add]
  congr 1
  omega

theorem step_pos (n : Nat) : 0 < step n := Nat.two_pow_pos _

variable {n : Nat}

theorem runLength_le_scaled (h : n ≠ 0) : step n * runLength ≤ n * 2 ^ (52 - n.log2) := by
  rw [step_mul_runLength]
  exact Nat.mul_le_mul_right _ (Nat.log2_self_le h)

theorem scaled_lt_runLength (n : Nat) : n * 2 ^ (52 - n.log2) < step n * (2 * runLength) := by
  have digits : n < 2 * 2 ^ n.log2 := by
    have := Nat.lt_log2_self (n := n)
    rwa [Nat.pow_succ, Nat.mul_comm] at this
  calc n * 2 ^ (52 - n.log2)
      < 2 * 2 ^ n.log2 * 2 ^ (52 - n.log2) :=
        Nat.mul_lt_mul_of_pos_right digits (Nat.two_pow_pos _)
    _ = step n * (2 * runLength) := by
        rw [Nat.mul_left_comm, step_mul_runLength, Nat.mul_assoc]

theorem exponentFor_one (h : n ≠ 0) : exponentFor n 1 = (n.log2 : Int) - 52 := by
  have one : Nat.log2 1 = 0 := by decide
  have guess : (n.log2 : Int) - (0 : Nat) - 52 = (n.log2 : Int) - 52 := by omega
  have exact := Nat.not_lt.mpr (runLength_le_scaled h)
  unfold exponentFor
  dsimp only
  rw [one, guess, scaled_one]
  simp only [if_neg exact]
  omega

/-- The 53 binary digits of the double nearest to a number. All may carry over. -/
def significand (n : Nat) : Nat := roundHalfEven (n * 2 ^ (52 - n.log2)) (step n)

theorem nearestRank_one (h : n ≠ 0) :
    nearestRank n 1 = (n.log2 + 1022) * runLength + significand n := by
  have exponent : ((n.log2 : Int) - 52 + 1074).toNat = n.log2 + 1022 := by omega
  unfold nearestRank significand
  rw [if_neg h, exponentFor_one h]
  dsimp only
  rw [scaled_one]
  simp only [exponent]

theorem runLength_le_significand (h : n ≠ 0) : runLength ≤ significand n := by
  apply Nat.le_trans _ (div_le_roundHalfEven _ _)
  rw [Nat.le_div_iff_mul_le (step_pos n), Nat.mul_comm]
  exact runLength_le_scaled h

theorem significand_le (n : Nat) : significand n ≤ 2 * runLength := by
  apply Nat.le_trans (roundHalfEven_le _ _)
  rw [Nat.succ_le_iff, Nat.div_lt_iff_lt_mul (step_pos n), Nat.mul_comm _ (step n)]
  exact scaled_lt_runLength n

theorem nearestNat_eq_self (h : n < 2 * runLength) : nearestNat n = n := by
  have one : step n = 1 := by
    rw [step_eq]
    by_cases zero : n = 0
    · subst zero
      decide
    · have short : n.log2 < 53 := (Nat.log2_lt zero).mpr (by rw [runLength_eq] at h; omega)
      have none : n.log2 - 52 = 0 := by omega
      rw [none, Nat.pow_zero]
  rw [nearestNat, one, roundHalfEven_one, Nat.mul_one]

theorem significand_eq (n : Nat) :
    significand n * 2 ^ (n.log2 + 1022) = nearestNat n * 2 ^ places := by
  by_cases large : 52 ≤ n.log2
  · have up : 52 - n.log2 = 0 := by omega
    have exponent : n.log2 + 1022 = (n.log2 - 52) + places := by
      unfold places
      omega
    rw [significand, up, Nat.pow_zero, Nat.mul_one, nearestNat, exponent, Nat.pow_add, step_eq,
      Nat.mul_assoc]
  · have down : step n = 1 := by
      have none : n.log2 - 52 = 0 := by omega
      rw [step_eq, none, Nat.pow_zero]
    have exponent : 52 - n.log2 + (n.log2 + 1022) = places := by
      unfold places
      omega
    rw [significand, nearestNat, down, roundHalfEven_one, roundHalfEven_one, Nat.mul_one,
      Nat.mul_assoc, ← Nat.pow_add, exponent]

/-- The value of the double nearest to a number. -/
theorem units_nearestRank (n : Nat) : units (nearestRank n 1) = nearestNat n * 2 ^ places := by
  by_cases zero : n = 0
  · subst zero
    have small : 0 < runLength := by decide
    rw [nearestRank, if_pos rfl, units_of_lt small, nearestNat_eq_self (by omega), Nat.zero_mul]
  · obtain ⟨m, hm⟩ := Nat.exists_eq_add_of_le (runLength_le_significand zero)
    have bound := significand_le n
    have whole : (n.log2 + 1022) * runLength + significand n =
        (n.log2 + 1022 + 1) * runLength + m := by
      rw [hm]
      ring
    rw [nearestRank_one zero, whole, units_run _ (by omega), ← hm, significand_eq]

/-- Two numbers have one nearest double exactly if they round alike. -/
theorem nearestRank_eq_iff {a b : Nat} :
    nearestRank a 1 = nearestRank b 1 ↔ nearestNat a = nearestNat b := by
  rw [← units_strictMono.injective.eq_iff, units_nearestRank, units_nearestRank]
  exact Nat.mul_left_inj (Nat.ne_of_gt (Nat.two_pow_pos places))

/-- A number too long for 53 digits is not rounded below them. -/
theorem le_nearestNat (h : 2 * runLength ≤ n) : 2 * runLength ≤ nearestNat n := by
  have positive : n ≠ 0 := by
    rintro rfl
    exact absurd h (by decide)
  have long : 53 ≤ n.log2 := by
    rw [Nat.le_log2 positive]
    rw [runLength_eq] at h
    omega
  have up : 52 - n.log2 = 0 := by omega
  have digits := runLength_le_significand positive
  have apart : 2 ≤ step n := by
    rw [step_eq]
    exact Nat.le_self_pow (by omega) 2
  rw [significand, up, Nat.pow_zero, Nat.mul_one] at digits
  rw [nearestNat, Nat.mul_comm _ (step n)]
  exact Nat.mul_le_mul apart digits

theorem nearestNat_eq_iff_of_lt {a b : Nat} (h : a < 2 * runLength) :
    nearestNat a = nearestNat b ↔ a = b := by
  rw [nearestNat_eq_self h]
  by_cases exact : b < 2 * runLength
  · rw [nearestNat_eq_self exact]
  · have long := le_nearestNat (Nat.not_lt.mp exact)
    omega

/-- The integer that the double nearest to an integer is. -/
def nearestInt (i : Int) : Int :=
  if i < 0 then -(nearestNat i.natAbs : Int) else (nearestNat i.natAbs : Int)

theorem nearestNat_zero : nearestNat 0 = 0 := nearestNat_eq_self (by decide)

/-- Rounding keeps the sign, so it is enough to compare what is left of it. -/
theorem nearestInt_eq_iff {a b : Int} :
    nearestInt a = nearestInt b ↔
      (a < 0 ↔ b < 0) ∧ nearestNat a.natAbs = nearestNat b.natAbs := by
  have zero_iff {i : Int} : nearestNat i.natAbs = 0 ↔ i = 0 := by
    rw [← nearestNat_zero, eq_comm, nearestNat_eq_iff_of_lt (by decide)]
    omega
  have ha := zero_iff (i := a)
  have hb := zero_iff (i := b)
  unfold nearestInt
  grind

/-- Where one of two integers has no more than 53 digits, nothing is lost. -/
theorem nearestInt_eq_iff_of_lt {a b : Int} (h : a.natAbs < 2 * runLength) :
    nearestInt a = nearestInt b ↔ a = b := by
  rw [nearestInt_eq_iff, nearestNat_eq_iff_of_lt h]
  omega

theorem nearestRank_lt {n : Nat} (h : n.log2 < 1022) : nearestRank n 1 < rankBound := by
  by_cases zero : n = 0
  · subst zero
    decide
  · have bound := significand_le n
    rw [nearestRank_one zero, rankBound]
    unfold runLength at bound ⊢
    omega

/-- Integers of up to a thousand binary digits compare as doubles if they round alike. -/
theorem equal_ofInt_iff {a b : Int} (ha : a.natAbs.log2 < 1022) (hb : b.natAbs.log2 < 1022) :
    (ofInt a).equal (ofInt b) = true ↔ nearestInt a = nearestInt b := by
  have zero_iff {i : Int} : nearestRank i.natAbs 1 = 0 ↔ i = 0 := by
    have zero : nearestRank 0 1 = 0 := rfl
    rw [← zero, eq_comm, nearestRank_eq_iff, nearestNat_eq_iff_of_lt (by decide)]
    omega
  rw [ofInt, ofInt, ofQuotient, ofQuotient, ofRank, ofRank, dif_pos (nearestRank_lt ha),
    dif_pos (nearestRank_lt hb), nearestInt_eq_iff, ← nearestRank_eq_iff]
  simp only [equal, Bool.and_eq_true, Bool.or_eq_true, decide_eq_true_eq, Fin.mk.injEq, zero_iff,
    decide_eq_decide]
  constructor
  · rintro ⟨ranks, signs | rfl⟩
    · exact ⟨signs, ranks⟩
    · have hb := zero_iff.mp (ranks.symm.trans (zero_iff.mpr rfl))
      subst hb
      exact ⟨Iff.rfl, rfl⟩
  · rintro ⟨signs, ranks⟩
    exact ⟨ranks, Or.inl signs⟩

end Listing.Double
