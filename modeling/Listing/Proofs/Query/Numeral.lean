import Listing.Proofs.Double.Grammar
import Listing.Query.Loose

/-!
# Texts that spell a number

The grammar of numbers in text is that of a browser: nothing, an infinity by name, an integer
in a radix, or a decimal literal. Reading follows it but for integers in a radix, where it
also takes a plus sign before the digits and refuses what does not fit 64 bits.
-/

namespace Listing

open Text Digits Double

/-- The radix for which a letter stands after a zero. -/
def radixOf? (mark : Char) : Option Nat :=
  if mark = 'x' ∨ mark = 'X' then some 16
  else if mark = 'o' ∨ mark = 'O' then some 8
  else if mark = 'b' ∨ mark = 'B' then some 2
  else none

/-- The texts that spell a number. -/
inductive Numeral : List Char → Prop where
  | empty : Numeral []
  | infinity {sign : List Char} : IsSign sign → Numeral (sign ++ "Infinity".toList)
  | integer {mark : Char} {radix n : Nat} {digits : List Char} :
      radixOf? mark = some radix → Denotes radix digits n → Numeral ('0' :: mark :: digits)
  | decimal {s : List Char} : IsDecimal s → Numeral s

/-- An integer in a radix that is too large for 64 bits. -/
def IsLong (s : List Char) : Prop :=
  ∃ mark radix digits n, s = '0' :: mark :: digits ∧ radixOf? mark = some radix ∧
    Denotes radix digits n ∧ UInt64.size ≤ n

/-- An integer in a radix that fits 64 bits, but with a plus sign before its digits. -/
def HasInnerSign (s : List Char) : Prop :=
  ∃ mark radix digits n, s = '0' :: mark :: '+' :: digits ∧ radixOf? mark = some radix ∧
    Denotes radix digits n ∧ n < UInt64.size

theorem numberOfText?_prefixed {mark : Char} {radix : Nat} (h : radixOf? mark = some radix)
    (r : List Char) :
    numberOfText? ('0' :: mark :: r) = (readWord? radix r).map fun n => Double.ofNat n.toNat := by
  unfold radixOf? at h
  split at h
  next hex =>
    obtain rfl := Option.some_inj.mp h
    rcases hex with rfl | rfl <;> rfl
  next =>
  split at h
  next octal =>
    obtain rfl := Option.some_inj.mp h
    rcases octal with rfl | rfl <;> rfl
  next =>
  split at h
  next binary =>
    obtain rfl := Option.some_inj.mp h
    rcases binary with rfl | rfl <;> rfl
  next => cases h

theorem le_sixteen_of_radixOf? {mark : Char} {radix : Nat} (h : radixOf? mark = some radix) :
    radix ≤ 16 := by
  unfold radixOf? at h
  grind

theorem mem_of_radixOf? {mark : Char} {radix : Nat} (h : radixOf? mark = some radix) :
    mark ∈ ['x', 'X', 'o', 'O', 'b', 'B'] := by
  unfold radixOf? at h
  grind

/-- A text that is not empty, has no radix and is no infinity by name. -/
structure IsBare (s : List Char) : Prop where
  written : s ≠ []
  finite : ∀ sign, IsSign sign → s ≠ sign ++ "Infinity".toList
  prefixless : ∀ mark radix r, s = '0' :: mark :: r → radixOf? mark ≠ some radix

theorem IsBare.numberOfText? {s : List Char} (h : IsBare s) :
    numberOfText? s = (Double.Literal.read? s).map Double.Literal.value := by
  have positive : ¬(s = "Infinity".toList ∨ s = "+Infinity".toList) := by
    rintro (name | name)
    · exact h.finite [] (Or.inl rfl) name
    · exact h.finite ['+'] (Or.inr (Or.inl rfl)) name
  have negative : s ≠ "-Infinity".toList := h.finite ['-'] (Or.inr (Or.inr rfl))
  unfold Listing.numberOfText?
  rw [if_neg h.written, if_neg positive, if_neg negative]
  -- All spellings but the last one have a prefix.
  split
  any_goals exact absurd rfl (h.prefixless _ _ _ rfl)
  rfl

theorem IsBare.numeral_iff {s : List Char} (h : IsBare s) : Numeral s ↔ IsDecimal s := by
  constructor
  · intro numeral
    cases numeral with
    | empty => exact absurd rfl h.written
    | infinity hsign => exact absurd rfl (h.finite _ hsign)
    | integer marked _ => exact absurd marked (h.prefixless _ _ _ rfl)
    | decimal decimal => exact decimal
  · exact .decimal

section

variable {mark : Char} {radix : Nat} (h : radixOf? mark = some radix)

include h

theorem not_isDecimal_prefixed (r : List Char) : ¬IsDecimal ('0' :: mark :: r) := by
  intro decimal
  have letter := mem_of_radixOf? h
  have allowed := decimal.mem (List.mem_cons_of_mem '0' List.mem_cons_self)
  revert allowed
  simp only [List.mem_cons, List.not_mem_nil, or_false] at letter
  rcases letter with rfl | rfl | rfl | rfl | rfl | rfl <;> decide

theorem numeral_prefixed_iff {r : List Char} :
    Numeral ('0' :: mark :: r) ↔ ∃ n, Denotes radix r n := by
  constructor
  · intro numeral
    generalize hs : '0' :: mark :: r = s at numeral
    cases numeral with
    | empty => cases hs
    | infinity hsign => rcases hsign with rfl | rfl | rfl <;> cases hs
    | integer h' digits =>
      cases hs
      obtain rfl := Option.some_inj.mp (h.symm.trans h')
      exact ⟨_, digits⟩
    | decimal decimal => exact absurd (hs ▸ decimal) (not_isDecimal_prefixed h r)
  · rintro ⟨n, digits⟩
    exact .integer h digits

theorem isLong_prefixed_iff {r : List Char} :
    IsLong ('0' :: mark :: r) ↔ ∃ n, Denotes radix r n ∧ UInt64.size ≤ n := by
  constructor
  · rintro ⟨_, _, digits, n, hs, h', denoted, long⟩
    cases hs
    obtain rfl := Option.some_inj.mp (h.symm.trans h')
    exact ⟨n, denoted, long⟩
  · rintro ⟨n, denoted, long⟩
    exact ⟨mark, radix, r, n, rfl, h, denoted, long⟩

theorem hasInnerSign_prefixed_iff {r : List Char} :
    HasInnerSign ('0' :: mark :: r) ↔
      ∃ digits n, r = '+' :: digits ∧ Denotes radix digits n ∧ n < UInt64.size := by
  constructor
  · rintro ⟨_, _, digits, n, hs, h', denoted, short⟩
    cases hs
    obtain rfl := Option.some_inj.mp (h.symm.trans h')
    exact ⟨digits, n, rfl, denoted, short⟩
  · rintro ⟨digits, n, rfl, denoted, short⟩
    exact ⟨mark, radix, digits, n, rfl, h, denoted, short⟩

/-- What is read after a prefix. -/
theorem isSome_numberOfText?_prefixed_iff {r : List Char} :
    (numberOfText? ('0' :: mark :: r)).isSome = true ↔
      (∃ n, Denotes radix r n ∧ n < UInt64.size) ∨ HasInnerSign ('0' :: mark :: r) := by
  rw [numberOfText?_prefixed h, Option.isSome_map,
    isSome_readWord?_iff (le_sixteen_of_radixOf? h), hasInnerSign_prefixed_iff h]

/-- Where an integer in a radix is read against the grammar. -/
theorem isSome_prefixed_iff_numeral_iff {r : List Char} :
    ((numberOfText? ('0' :: mark :: r)).isSome = true ↔ Numeral ('0' :: mark :: r)) ↔
      ¬IsLong ('0' :: mark :: r) ∧ ¬HasInnerSign ('0' :: mark :: r) := by
  have small := le_sixteen_of_radixOf? h
  rw [isSome_numberOfText?_prefixed_iff h, numeral_prefixed_iff h, isLong_prefixed_iff h]
  by_cases inner : HasInnerSign ('0' :: mark :: r)
  · have unsigned : ¬∃ n, Denotes radix r n := by
      obtain ⟨digits, _, rfl, _⟩ := (hasInnerSign_prefixed_iff h).mp inner
      rintro ⟨n, denoted⟩
      exact denoted.head?_ne small rfl
    simp [inner, unsigned]
  · simp only [inner, or_false, not_false_eq_true, and_true]
    constructor
    · rintro same ⟨n, denoted, long⟩
      obtain ⟨m, denoted', short⟩ := same.mpr ⟨n, denoted⟩
      have := denoted.unique small denoted'
      omega
    · intro fits
      constructor
      · rintro ⟨n, denoted, _⟩
        exact ⟨n, denoted⟩
      · rintro ⟨n, denoted⟩
        refine ⟨n, denoted, ?_⟩
        by_cases short : n < UInt64.size
        · exact short
        · exact absurd ⟨n, denoted, Nat.not_lt.mp short⟩ fits

end

/-- A text is read as a number exactly if it is one by the grammar, but for integers in a radix
that do not fit 64 bits or have a plus sign before their digits. The number of a prefixed form
is that which its digits denote, as a double. -/
theorem numerals_are_read_iff (s : List Char) :
    (((numberOfText? s).isSome = true ↔ Numeral s) ↔ ¬IsLong s ∧ ¬HasInnerSign s) ∧
    ∀ mark radix digits n, s = '0' :: mark :: digits → radixOf? mark = some radix →
      Denotes radix digits n →
      numberOfText? s = if n < UInt64.size then some (Double.ofNat n) else none := by
  constructor
  · by_cases marked : ∃ mark radix r, s = '0' :: mark :: r ∧ radixOf? mark = some radix
    · obtain ⟨mark, radix, r, rfl, h⟩ := marked
      exact isSome_prefixed_iff_numeral_iff h
    have short : ¬IsLong s := by
      rintro ⟨mark, radix, digits, n, hs, h, _⟩
      exact marked ⟨mark, radix, digits, hs, h⟩
    have unsigned : ¬HasInnerSign s := by
      rintro ⟨mark, radix, digits, n, hs, h, _⟩
      exact marked ⟨mark, radix, '+' :: digits, hs, h⟩
    refine iff_of_true ?_ ⟨short, unsigned⟩
    by_cases written : s = []
    · subst written
      exact iff_of_true rfl .empty
    by_cases infinite : ∃ sign, IsSign sign ∧ s = sign ++ "Infinity".toList
    · obtain ⟨sign, hsign, rfl⟩ := infinite
      refine iff_of_true ?_ (.infinity hsign)
      rcases hsign with rfl | rfl | rfl <;> rfl
    have bare : IsBare s :=
      ⟨written, fun sign hsign hs => infinite ⟨sign, hsign, hs⟩,
        fun mark radix r hs h => marked ⟨mark, radix, r, hs, h⟩⟩
    rw [bare.numberOfText?, Option.isSome_map, Literal.isSome_read?_iff, bare.numeral_iff]
  · rintro mark radix digits n rfl h denoted
    rw [numberOfText?_prefixed h, readWord?_of_denotes (le_sixteen_of_radixOf? h) denoted]
    unfold Word.ofNat?
    split
    next fits => simp [UInt64.toNat_ofNat_of_lt' fits]
    next => rfl

/-- Letters may be capital, in the prefix and among the digits. -/
theorem numerals_are_read_iff_of_hexadecimal :
    "0XfF".toList = '0' :: 'X' :: ['f', 'F'] ∧ radixOf? 'X' = some 16 ∧
    Denotes 16 ['f', 'F'] 255 ∧ ¬IsLong "0XfF".toList ∧ ¬HasInnerSign "0XfF".toList ∧
    Numeral "0XfF".toList ∧ numberOfText? "0XfF".toList = some (Double.ofNat 255) := by
  have text : "0XfF".toList = '0' :: 'X' :: ['f', 'F'] := rfl
  have marked : radixOf? 'X' = some 16 := rfl
  have denoted : Denotes 16 ['f', 'F'] 255 := (read?_eq_some_iff (by decide)).mp rfl
  obtain ⟨follows, valued⟩ := numerals_are_read_iff "0XfF".toList
  have value := valued 'X' 16 ['f', 'F'] 255 text marked denoted
  have numeral : Numeral "0XfF".toList := .integer marked denoted
  obtain ⟨short, unsigned⟩ := follows.mp (iff_of_true (by rw [value]; rfl) numeral)
  exact ⟨text, marked, denoted, short, unsigned, numeral, value⟩

/-- A plus sign after the prefix is read although it is no part of a numeral, and a numeral of
more than 64 bits is refused. -/
theorem inner_sign_is_read_and_long_numeral_refused :
    (numberOfText? "0x+1".toList).isSome = true ∧ ¬Numeral "0x+1".toList ∧
    (Scalar.int 1).looselyEqual (.text "0x+1") = true ∧
    (numberOfText? "0x10000000000000000".toList).isSome = false ∧
    Numeral "0x10000000000000000".toList := by
  have marked : radixOf? 'x' = some 16 := rfl
  refine ⟨rfl, ?_, by decide +kernel, by decide +kernel, ?_⟩
  · have text : "0x+1".toList = '0' :: 'x' :: ['+', '1'] := rfl
    rw [text, numeral_prefixed_iff marked]
    rintro ⟨n, denoted⟩
    exact denoted.head?_ne (by decide) rfl
  · have denoted : Denotes 16 "10000000000000000".toList 0x10000000000000000 :=
      (read?_eq_some_iff (by decide)).mp (by decide +kernel)
    exact .integer marked denoted

end Listing
