import Listing.Proofs.Text.Digits
import Mathlib.Data.List.Forall2
import Mathlib.Data.Nat.Digits.Defs
import Mathlib.Tactic.IntervalCases

/-!
# Numbers in a radix

What the digits of a radix denote is said here by their places. Reading accepts one or more
digits of the radix and nothing else, and answers with the number that they denote.
-/

namespace Listing.Text.Digits

/-- The digit of a value below the radix; letters may be capital. -/
def Spells (radix : Nat) (c : Char) (v : Nat) : Prop :=
  v < radix ∧ (c = Nat.digitChar v ∨ c = (Nat.digitChar v).toUpper)

/-- One or more digits of a radix that denote a number. -/
def Denotes (radix : Nat) (s : List Char) (n : Nat) : Prop :=
  s ≠ [] ∧ ∃ values, List.Forall₂ (Spells radix) s values ∧ n = Nat.ofDigits radix values.reverse

variable {radix : Nat}

theorem value?_digitChar {v : Nat} (h : v < 16) :
    value? radix (Nat.digitChar v) = (if v < radix then some v else none) ∧
      value? radix (Nat.digitChar v).toUpper = if v < radix then some v else none := by
  interval_cases v <;> exact ⟨rfl, rfl⟩

/-- A character with a value is one of the sixteen digits. -/
theorem eq_digitChar_of_value? {c : Char} {v : Nat} (h : radix ≤ 16)
    (found : value? radix c = some v) : c = Nat.digitChar v ∨ c = (Nat.digitChar v).toUpper := by
  have known {d : Char} (hd : c.toNat = d.toNat) : c = d := Char.toNat_inj.mp hd
  have parts : (c.isDigit = true ∧ v = c.toNat - 48) ∨
      (('a' ≤ c ∧ c ≤ 'f') ∧ v = c.toNat - 87) ∨ (('A' ≤ c ∧ c ≤ 'F') ∧ v = c.toNat - 55) := by
    unfold value? at found
    grind
  rcases parts with ⟨digit, hv⟩ | ⟨⟨low, high⟩, hv⟩ | ⟨⟨low, high⟩, hv⟩
  · have range : 48 ≤ c.toNat ∧ c.toNat ≤ 57 := Char.isDigit_iff_toNat.mp digit
    have small : v < 10 := by omega
    have code : c.toNat = v + 48 := by omega
    left
    interval_cases v <;> exact known code
  · have range : 97 ≤ c.toNat ∧ c.toNat ≤ 102 := ⟨low, high⟩
    have small : 10 ≤ v ∧ v < 16 := by omega
    have code : c.toNat = v + 87 := by omega
    obtain ⟨least, most⟩ := small
    left
    interval_cases v <;> exact known code
  · have range : 65 ≤ c.toNat ∧ c.toNat ≤ 70 := ⟨low, high⟩
    have small : 10 ≤ v ∧ v < 16 := by omega
    have code : c.toNat = v + 55 := by omega
    obtain ⟨least, most⟩ := small
    right
    interval_cases v <;> exact known code

theorem value?_eq_some_iff (h : radix ≤ 16) {c : Char} {v : Nat} :
    value? radix c = some v ↔ Spells radix c v := by
  constructor
  · intro found
    have digit := eq_digitChar_of_value? h found
    refine ⟨?_, digit⟩
    unfold value? at found
    grind
  · rintro ⟨small, rfl | rfl⟩
    · rw [(value?_digitChar (Nat.lt_of_lt_of_le small h)).1, if_pos small]
    · rw [(value?_digitChar (Nat.lt_of_lt_of_le small h)).2, if_pos small]

/-- Digits move what was read before them to higher places. -/
theorem readFrom?_eq_some_iff (h : radix ≤ 16) {s : List Char} {n m : Nat} :
    readFrom? radix n s = some m ↔ ∃ values, List.Forall₂ (Spells radix) s values ∧
      m = Nat.ofDigits radix values.reverse + radix ^ s.length * n := by
  induction s generalizing n with
  | nil => simp [readFrom?, eq_comm]
  | cons c r ih =>
    have places (v : Nat) (values : List Nat) (same : r.length = values.length) :
        Nat.ofDigits radix (v :: values).reverse + radix ^ (c :: r).length * n =
          Nat.ofDigits radix values.reverse + radix ^ r.length * (n * radix + v) := by
      rw [List.reverse_cons, Nat.ofDigits_append, List.length_reverse, same, List.length_cons,
        same, Nat.ofDigits_singleton]
      ring
    simp only [readFrom?, Option.bind_eq_some_iff, value?_eq_some_iff h, ih]
    constructor
    · rintro ⟨v, digit, values, digits, rfl⟩
      exact ⟨v :: values, .cons digit digits, (places v values digits.length_eq).symm⟩
    · rintro ⟨_, digits, rfl⟩
      cases digits with
      | cons digit digits =>
        exact ⟨_, digit, _, digits, places _ _ digits.length_eq⟩

/-- Reading answers with a number exactly if the text consists of digits that denote it. -/
theorem read?_eq_some_iff (h : radix ≤ 16) {s : List Char} {n : Nat} :
    read? radix s = some n ↔ Denotes radix s n := by
  unfold read? Denotes
  by_cases empty : s = []
  · simp [empty]
  · simp [empty, readFrom?_eq_some_iff h]

/-- Digits denote one number. -/
theorem Denotes.unique (h : radix ≤ 16) {s : List Char} {n m : Nat} (hn : Denotes radix s n)
    (hm : Denotes radix s m) : n = m := by
  have read := (read?_eq_some_iff h).mpr hn
  rw [(read?_eq_some_iff h).mpr hm] at read
  exact (Option.some_inj.mp read).symm

/-- A sign is no digit. -/
theorem Denotes.head?_ne (h : radix ≤ 16) {s : List Char} {n : Nat} (digits : Denotes radix s n) :
    s.head? ≠ some '+' := by
  obtain ⟨_, values, spelled, _⟩ := digits
  cases spelled with
  | nil => simp
  | @cons c v r values digit _ =>
    intro plus
    obtain rfl : c = '+' := Option.some_inj.mp plus
    have found := (value?_eq_some_iff h).mpr digit
    simp [value?, Nat.not_lt.mpr h] at found

/-- Digits alone are read as the word for their number, if there is one. -/
theorem readWord?_of_denotes (h : radix ≤ 16) {s : List Char} {n : Nat}
    (digits : Denotes radix s n) : readWord? radix s = Word.ofNat? n := by
  rw [readWord?, if_neg (digits.head?_ne h), (read?_eq_some_iff h).mpr digits, Option.bind_some]

theorem isSome_read?_iff (h : radix ≤ 16) {s : List Char} :
    (read? radix s).isSome = true ↔ ∃ n, Denotes radix s n := by
  rw [Option.isSome_iff_exists]
  exact exists_congr fun n => read?_eq_some_iff h

/-- A word is read from its digits, and from its digits after a plus sign. -/
theorem readWord?_eq_some_iff (h : radix ≤ 16) {s : List Char} {w : UInt64} :
    readWord? radix s = some w ↔
      ∃ digits, (s = digits ∨ s = '+' :: digits) ∧ Denotes radix digits w.toNat := by
  have read (r : List Char) : (read? radix r).bind Word.ofNat? = some w ↔
      Denotes radix r w.toNat := by
    simp [Option.bind_eq_some_iff, read?_eq_some_iff h, Word.ofNat?_eq_some_iff]
  by_cases plus : s.head? = some '+'
  · obtain ⟨r, rfl⟩ := List.head?_eq_some_iff.mp plus
    rw [readWord?, if_pos plus, List.drop_one, List.tail_cons, read]
    constructor
    · intro denoted
      exact ⟨r, Or.inr rfl, denoted⟩
    · rintro ⟨digits, rfl | hs, denoted⟩
      · exact absurd rfl (denoted.head?_ne h)
      · obtain rfl := (List.cons.inj hs).2
        exact denoted
  · rw [readWord?, if_neg plus, read]
    constructor
    · intro denoted
      exact ⟨s, Or.inl rfl, denoted⟩
    · rintro ⟨digits, rfl | rfl, denoted⟩
      · exact denoted
      · exact absurd rfl plus

theorem isSome_readWord?_iff (h : radix ≤ 16) {s : List Char} :
    (readWord? radix s).isSome = true ↔
      (∃ n, Denotes radix s n ∧ n < UInt64.size) ∨
        ∃ digits n, s = '+' :: digits ∧ Denotes radix digits n ∧ n < UInt64.size := by
  simp only [Option.isSome_iff_exists, readWord?_eq_some_iff h]
  constructor
  · rintro ⟨w, digits, rfl | rfl, denoted⟩
    · exact Or.inl ⟨_, denoted, w.toNat_lt_size⟩
    · exact Or.inr ⟨digits, _, rfl, denoted, w.toNat_lt_size⟩
  · have word {n : Nat} (short : n < UInt64.size) : (UInt64.ofNat n).toNat = n :=
      UInt64.toNat_ofNat_of_lt' short
    rintro (⟨n, denoted, short⟩ | ⟨digits, n, rfl, denoted, short⟩)
    · exact ⟨UInt64.ofNat n, s, Or.inl rfl, by rwa [word short]⟩
    · exact ⟨UInt64.ofNat n, digits, Or.inr rfl, by rwa [word short]⟩

theorem isDigit_of_spells_ten {c : Char} {v : Nat} (h : Spells 10 c v) : c.isDigit = true := by
  obtain ⟨small, rfl | rfl⟩ := h
  · interval_cases v <;> rfl
  · interval_cases v <;> rfl

/-- The digits of radix ten are the decimal ones. -/
theorem isSome_read?_ten_iff {s : List Char} :
    (read? 10 s).isSome = true ↔ s ≠ [] ∧ ∀ c ∈ s, c.isDigit = true := by
  constructor
  · intro found
    obtain ⟨n, written, values, digits, _⟩ := (isSome_read?_iff (by decide)).mp found
    have decimal := digits.imp fun c v spelled => And.intro (isDigit_of_spells_ten spelled) spelled
    exact ⟨written, ((List.forall₂_and_left s values).mp decimal).1⟩
  · rintro ⟨written, digits⟩
    rw [read?, if_neg written, readFrom?_of_isDigit digits]
    rfl

theorem ofDigitChars_replicate_zero (k n : Nat) :
    Nat.ofDigitChars 10 (List.replicate k '0') n = n * 10 ^ k := by
  induction k generalizing n with
  | zero => simp
  | succ k ih =>
    rw [List.replicate_succ, Nat.ofDigitChars_cons, ih, Nat.pow_succ]
    simp only [Nat.sub_self, Nat.add_zero]
    ring

/-- Zeros after the digits of a number are powers of ten. -/
theorem denotes_write_append_zeros (n k : Nat) :
    Denotes 10 (write n ++ List.replicate k '0') (n * 10 ^ k) := by
  have digits : ∀ c ∈ write n ++ List.replicate k '0', c.isDigit = true := by
    intro c hc
    rcases List.mem_append.mp hc with hc | hc
    · exact isDigit_of_mem_write hc
    · obtain rfl := List.eq_of_mem_replicate hc
      rfl
  have written : write n ++ List.replicate k '0' ≠ [] :=
    List.append_ne_nil_of_left_ne_nil (write_ne_nil n) _
  rw [← read?_eq_some_iff (by decide), read?, if_neg written, readFrom?_of_isDigit digits,
    Nat.ofDigitChars_append, write, Nat.ofDigitChars_ten_toDigits, ofDigitChars_replicate_zero]

theorem denotes_write (n : Nat) : Denotes 10 (write n) n :=
  (read?_eq_some_iff (by decide)).mp (read?_write n)

theorem Denotes.isDigit {s : List Char} {n : Nat} (h : Denotes 10 s n) {c : Char} (hc : c ∈ s) :
    c.isDigit = true :=
  (isSome_read?_ten_iff.mp ((isSome_read?_iff (by decide)).mpr ⟨n, h⟩)).2 c hc

end Listing.Text.Digits
