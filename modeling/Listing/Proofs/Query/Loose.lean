import Listing.Column.Basic
import Listing.Proofs.Double.Literal
import Listing.Proofs.Double.Nearest
import Mathlib.Data.List.Find

/-!
# Integers in loose comparison

An integer is compared as the double nearest to it, and so is the text of an integer, which
is read as a decimal literal. Both find each other exactly if they round to the same number,
which below `2 ^ 53` they do only if they are the same.
-/

namespace Listing

open Text

theorem Text.Digits.IsSigned.isBlank {c : Char} (h : Digits.IsSigned c) : isBlank c = false := by
  have := h.toNat
  simp only [Text.isBlank, Bool.or_eq_false_iff, Bool.and_eq_false_iff, decide_eq_false_iff_not]
  omega

/-- No text of signs and digits is a number by name or has a radix of its own. -/
theorem numberOfText?_of_isSigned {s : List Char} (written : s ≠ [])
    (signed : ∀ c ∈ s, Digits.IsSigned c) :
    numberOfText? s = (Double.Literal.read? s).map Double.Literal.value := by
  have letter {c : Char} (h : c ∈ s) (large : 57 < c.toNat) : False := by
    have := (signed c h).toNat
    omega
  have name : ¬(s = "Infinity".toList ∨ s = "+Infinity".toList) := by
    rintro (rfl | rfl)
    · exact letter (c := 'I') (by decide) (by decide)
    · exact letter (c := 'I') (by decide) (by decide)
  have negative : ¬s = "-Infinity".toList := by
    rintro rfl
    exact letter (c := 'I') (by decide) (by decide)
  unfold numberOfText?
  rw [if_neg written, if_neg name, if_neg negative]
  -- Every other spelling has a letter in second place.
  split
  any_goals exact False.elim (letter (List.mem_cons_of_mem _ List.mem_cons_self) (by decide))
  rfl

namespace Scalar

open Double

theorem natAbs_toInt_le (i : Int64) : i.toInt.natAbs ≤ 2 ^ 63 := by
  have low := i.le_toInt
  have high := i.toInt_lt
  omega

/-- The text of an integer stands for the same number as the integer. -/
theorem number?_queryText_int (i : Int64) :
    (text (int i).queryText).number? = (int i).number? := by
  have bound := natAbs_toInt_le i
  have small : i.toInt.natAbs < 10 ^ 20 := by omega
  have signed : ∀ c ∈ Digits.writeInt i.toInt, Digits.IsSigned c :=
    fun c hc => Digits.isSigned_of_mem_writeInt hc
  rw [number?, number?, queryText, String.toList_ofList,
    trimmed_eq_self fun c hc => (signed c hc).isBlank,
    numberOfText?_of_isSigned (Digits.writeInt_ne_nil _) signed, Literal.read?_writeInt,
    Option.map_some, Literal.value, ofInt]
  exact congrArg some (ofDecimal_integer _ small)

theorem looselyEqual_int_iff (a b : Int64) :
    (int a).looselyEqual (int b) = true ↔ nearestInt a.toInt = nearestInt b.toInt := by
  have short (i : Int64) : i.toInt.natAbs.log2 < 1022 := by
    by_cases zero : i.toInt.natAbs = 0
    · rw [zero]
      decide
    · have bound := natAbs_toInt_le i
      have digits : i.toInt.natAbs.log2 < 64 := (Nat.log2_lt zero).mpr (by omega)
      omega
  exact equal_ofInt_iff (short a) (short b)

theorem looselyEqual_queryText_iff (a b : Int64) :
    (int a).looselyEqual (text (int b).queryText) = true ↔
      nearestInt a.toInt = nearestInt b.toInt := by
  rw [← looselyEqual_int_iff]
  unfold looselyEqual
  dsimp only
  rw [number?_queryText_int]

end Scalar

open Double

/-- Of labels for integers the first one counts whose integer rounds as the one looked for. -/
theorem labelTitle_int (labels : List (Int64 × String)) (raw : Int64) :
    labelTitle (labels.map fun l => ⟨.int l.1, l.2⟩) (.int raw) .loose =
      ((labels.find? fun l => nearestInt l.1.toInt = nearestInt raw.toInt).map (·.2)).getD "" := by
  have test : (fun l : Label => ValueMatch.loose.holds l.value (.int raw)) ∘
        (fun l : Int64 × String => ⟨.int l.1, l.2⟩) =
      fun l => decide (nearestInt l.1.toInt = nearestInt raw.toInt) := by
    funext l
    rw [Bool.eq_iff_iff, decide_eq_true_iff]
    exact Scalar.looselyEqual_int_iff l.1 raw
  rw [labelTitle, List.find?_map, test, Option.map_map]
  rfl

/-- Two integers have one nearest double only if they are one. -/
def ToldApart (a b : Int64) : Prop := nearestInt a.toInt = nearestInt b.toInt → a = b

/-- An integer of less than `2 ^ 53` on either side of zero is told apart from every other. -/
theorem toldApart_of_lt {a : Int64} (h : a.toInt.natAbs < 2 * runLength) (b : Int64) :
    ToldApart a b := by
  intro same
  rwa [nearestInt_eq_iff_of_lt h, Int64.toInt_inj] at same

theorem matches_by_value_iff {a b : Int64} {matched : Bool}
    (rounded : matched = true ↔ nearestInt a.toInt = nearestInt b.toInt) :
    (matched = true ↔ a = b) ↔ ToldApart a b := by
  rw [rounded]
  constructor
  · exact Iff.mp
  · intro apart
    refine ⟨apart, ?_⟩
    rintro rfl
    rfl

/-- Integers, and the texts of integers, match loosely by the doubles nearest to them. So they
match by value exactly if rounding tells them apart, and an integer gets the title of the
first label with it if rounding tells it from all labels. -/
theorem integers_match_by_value_iff (a : Int64) (labels : List (Int64 × String)) :
    (∀ b : Int64,
      (((Scalar.int a).looselyEqual (.int b) = true ↔ a = b) ↔ ToldApart a b) ∧
      (((Scalar.int a).looselyEqual (.text (Scalar.int b).queryText) = true ↔ a = b) ↔
        ToldApart a b)) ∧
    labelTitle (labels.map fun l => ⟨.int l.1, l.2⟩) (.int a) .loose =
      ((labels.find? fun l => nearestInt l.1.toInt = nearestInt a.toInt).map (·.2)).getD "" ∧
    ((∀ l ∈ labels, ToldApart a l.1) →
      labelTitle (labels.map fun l => ⟨.int l.1, l.2⟩) (.int a) .loose =
        ((labels.find? fun l => l.1 = a).map (·.2)).getD "") ∧
    (a.toInt.natAbs < 2 * runLength → ∀ b, ToldApart a b) := by
  refine ⟨?_, labelTitle_int labels a, ?_, toldApart_of_lt⟩
  · intro b
    constructor
    · exact matches_by_value_iff (Scalar.looselyEqual_int_iff a b)
    · exact matches_by_value_iff (Scalar.looselyEqual_queryText_iff a b)
  · intro apart
    have same : labels.find? (fun l => nearestInt l.1.toInt = nearestInt a.toInt) =
        labels.find? fun l => l.1 = a := by
      apply List.find?_congr
      intro l hl
      rw [decide_eq_decide]
      constructor
      · exact fun rounded => (apart l hl rounded.symm).symm
      · exact fun he => congrArg (fun i : Int64 => nearestInt i.toInt) he
    rw [labelTitle_int, same]

/-- The last integer before two have one double is told from the next one. -/
theorem integers_match_by_value_iff_before_last :
    (9007199254740991 : Int64).toInt.natAbs < 2 * runLength ∧
    (∀ l ∈ [((9007199254740992 : Int64), "next"), (9007199254740991, "last")],
      ToldApart 9007199254740991 l.1) ∧
    (Scalar.int 9007199254740991).looselyEqual (.int 9007199254740992) = false ∧
    labelTitle [⟨.int 9007199254740992, "next"⟩, ⟨.int 9007199254740991, "last"⟩]
      (.int 9007199254740991) .loose = "last" := by
  obtain ⟨compared, _, labelled, exact⟩ := integers_match_by_value_iff 9007199254740991
    [(9007199254740992, "next"), (9007199254740991, "last")]
  have small : (9007199254740991 : Int64).toInt.natAbs < 2 * runLength := by decide
  have apart := exact small
  refine ⟨small, fun l _ => apart l.1, ?_, ?_⟩
  · rw [← Bool.not_eq_true, (compared 9007199254740992).1.mpr (apart _)]
    decide
  · exact (labelled fun l _ => apart l.1).trans (by decide)

/-- Two to the power of 53 and the integer after it have one double, so each matches the other
and its text, and the second gets the title of the first. -/
theorem neighbouring_integers_match :
    (Scalar.int 9007199254740992).looselyEqual (.int 9007199254740993) = true ∧
    (Scalar.int 9007199254740992).looselyEqual (.text "9007199254740993") = true ∧
    (9007199254740992 : Int64) ≠ 9007199254740993 ∧
    labelTitle [⟨.int 9007199254740992, "first"⟩, ⟨.int 9007199254740993, "second"⟩]
      (.int 9007199254740993) .loose = "first" := by
  decide +kernel

end Listing
