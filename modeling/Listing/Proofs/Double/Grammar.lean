import Listing.Double.Literal
import Listing.Proofs.Text.Radix
import Mathlib.Data.List.TakeWhile

/-!
# The grammar of decimal literals

A literal is a sign, digits with at most one point, and a power of ten, of which only the
digits have to be there. Reading cuts a text at the first letter of a power and at the first
character that is no digit. Neither occurs before the place where the grammar has it, so what
is read is what the grammar has.
-/

namespace Listing.Double

open Text Digits

/-- Decimal digits, or nothing. -/
def AllDigits (s : List Char) : Prop := ∀ c ∈ s, c.isDigit = true

/-- A plus sign, a minus sign, or nothing. -/
def IsSign (s : List Char) : Prop := s = [] ∨ s = ['+'] ∨ s = ['-']

/-- Digits, of which at most one point has at least one at its side. -/
inductive IsFixed : List Char → Prop where
  | whole {w : List Char} : w ≠ [] → AllDigits w → IsFixed w
  | point {w f : List Char} : w ++ f ≠ [] → AllDigits w → AllDigits f → IsFixed (w ++ '.' :: f)

/-- A letter for the power of ten, a sign and digits, or nothing at all. -/
inductive IsPower : List Char → Prop where
  | none : IsPower []
  | tens {mark : Char} {sign digits : List Char} : mark = 'e' ∨ mark = 'E' → IsSign sign →
      digits ≠ [] → AllDigits digits → IsPower (mark :: (sign ++ digits))

/-- A decimal literal. -/
def IsDecimal (s : List Char) : Prop :=
  ∃ sign fixed power, IsSign sign ∧ IsFixed fixed ∧ IsPower power ∧ s = sign ++ (fixed ++ power)

theorem allDigits_append_iff {s t : List Char} :
    AllDigits (s ++ t) ↔ AllDigits s ∧ AllDigits t := List.forall_mem_append

theorem exists_sign_eq (s : List Char) : ∃ sign, IsSign sign ∧ s = sign ++ (splitSign s).2 := by
  unfold splitSign
  split
  · exact ⟨['-'], Or.inr (Or.inr rfl), rfl⟩
  · exact ⟨['+'], Or.inr (Or.inl rfl), rfl⟩
  · exact ⟨[], Or.inl rfl, rfl⟩

/-- A sign is cut off and no more, unless another one follows. -/
theorem splitSign_append {sign body : List Char} (h : IsSign sign)
    (unsigned : ∀ c ∈ body.head?, c ≠ '+' ∧ c ≠ '-') : (splitSign (sign ++ body)).2 = body := by
  rcases h with rfl | rfl | rfl
  · cases body with
    | nil => rfl
    | cons c r =>
      obtain ⟨plus, minus⟩ := unsigned c rfl
      simp [splitSign, plus, minus]
  · rfl
  · rfl

theorem unsigned_of_isDigit {c : Char} (h : c.isDigit = true) : c ≠ '+' ∧ c ≠ '-' := by
  constructor
  · rintro rfl
    exact absurd h (by decide)
  · rintro rfl
    exact absurd h (by decide)

theorem AllDigits.unsigned {s : List Char} (h : AllDigits s) :
    ∀ c ∈ s.head?, c ≠ '+' ∧ c ≠ '-' :=
  fun c hc => unsigned_of_isDigit (h c (List.mem_of_mem_head? hc))

theorem isSome_readExponent?_iff {s : List Char} :
    (readExponent? s).isSome = true ↔
      ∃ sign digits, IsSign sign ∧ digits ≠ [] ∧ AllDigits digits ∧ s = sign ++ digits := by
  have exact : (readExponent? s).isSome = (Digits.read? 10 (splitSign s).2).isSome := by
    unfold readExponent?
    cases splitSign s with
    | mk negative digits =>
      dsimp only
      cases Digits.read? 10 digits <;> rfl
  rw [exact, isSome_read?_ten_iff]
  constructor
  · rintro ⟨written, digits⟩
    obtain ⟨sign, hsign, whole⟩ := exists_sign_eq s
    exact ⟨sign, _, hsign, written, digits, whole⟩
  · rintro ⟨sign, digits, hsign, written, decimal, rfl⟩
    rw [splitSign_append hsign decimal.unsigned]
    exact ⟨written, decimal⟩

theorem takeWhile_isDigit (s : List Char) : AllDigits (s.takeWhile Char.isDigit) :=
  fun _ hc => List.mem_takeWhile_imp hc

/-- Digits end at a point that more digits follow, or with the text. -/
theorem isSome_readFixed?_iff {s : List Char} : (readFixed? s).isSome = true ↔ IsFixed s := by
  constructor
  · intro found
    have parts := s.takeWhile_append_dropWhile (p := Char.isDigit)
    have whole := takeWhile_isDigit s
    simp only [readFixed?, Option.isSome_bind, Option.isSome_map] at found
    cases rest : s.dropWhile Char.isDigit with
    | nil =>
      rw [rest, List.append_nil] at parts
      simp only [rest, Option.any_some, List.append_nil, isSome_read?_ten_iff, parts] at found
      exact .whole found.1 found.2
    | cons c r =>
      rw [rest] at parts found
      split at found
      next he => cases he
      next f he =>
        obtain ⟨rfl, rfl⟩ := List.cons.inj he
        by_cases fraction : r.all Char.isDigit = true
        · simp only [fraction, if_true, Option.any_some, isSome_read?_ten_iff] at found
          rw [← parts]
          exact .point found.1 whole (List.all_eq_true.mp fraction)
        · simp [fraction] at found
      next => cases found
  · intro fixed
    cases fixed with
    | whole written digits =>
      have all := isSome_read?_ten_iff.mpr ⟨written, digits⟩
      rw [readFixed?, List.takeWhile_eq_self_iff.mpr digits, List.dropWhile_eq_nil_iff.mpr digits]
      simpa using all
    | @point w f written digits fraction =>
      have stop : Char.isDigit '.' = false := rfl
      have whole : f.all Char.isDigit = true := List.all_eq_true.mpr fraction
      have all := isSome_read?_ten_iff.mpr ⟨written, allDigits_append_iff.mpr ⟨digits, fraction⟩⟩
      rw [readFixed?, List.takeWhile_append_of_pos digits, List.dropWhile_append_of_pos digits]
      simpa [stop, whole] using all

theorem isExponentMark_iff {c : Char} : isExponentMark c = true ↔ c = 'e' ∨ c = 'E' := by
  simp [isExponentMark]

/-- What stands before the power of ten: digits and points. -/
theorem IsFixed.mem {s : List Char} (h : IsFixed s) {c : Char} (hc : c ∈ s) :
    c.isDigit = true ∨ c = '.' := by
  cases h with
  | whole _ digits => exact Or.inl (digits c hc)
  | point _ whole fraction =>
    rcases List.mem_append.mp hc with hc | hc
    · exact Or.inl (whole c hc)
    · rcases List.mem_cons.mp hc with rfl | hc
      · exact Or.inr rfl
      · exact Or.inl (fraction c hc)

theorem IsFixed.ne_nil {s : List Char} (h : IsFixed s) : s ≠ [] := by
  cases h with
  | whole written _ => exact written
  | point _ _ _ => simp

theorem IsFixed.isExponentMark {s : List Char} (h : IsFixed s) {c : Char} (hc : c ∈ s) :
    isExponentMark c = false := by
  rw [Bool.eq_false_iff, ne_eq, isExponentMark_iff]
  rcases h.mem hc with digit | rfl
  · rintro (rfl | rfl) <;> exact absurd digit (by decide)
  · decide

theorem IsFixed.unsigned {s : List Char} (h : IsFixed s) :
    ∀ c ∈ s.head?, c ≠ '+' ∧ c ≠ '-' := by
  intro c hc
  rcases h.mem (List.mem_of_mem_head? hc) with digit | rfl
  · exact unsigned_of_isDigit digit
  · decide

/-- After its sign a literal is cut at the first letter of a power. -/
theorem Literal.isSome_read?_iff_body {s : List Char} :
    (Literal.read? s).isSome = true ↔
      ∃ fixed power, IsFixed fixed ∧ IsPower power ∧ (splitSign s).2 = fixed ++ power := by
  unfold Literal.read?
  cases splitSign s with
  | mk negative body =>
  dsimp only
  constructor
  · intro found
    obtain ⟨literal, found⟩ := Option.isSome_iff_exists.mp found
    obtain ⟨fixed, hfixed, found⟩ := Option.bind_eq_some_iff.mp found
    have fixed := isSome_readFixed?_iff.mp (Option.isSome_of_eq_some hfixed)
    refine ⟨_, _, fixed, ?_, (List.takeWhile_append_dropWhile).symm⟩
    cases rest : body.dropWhile (!isExponentMark ·) with
    | nil => exact .none
    | cons mark r =>
      rw [rest] at found
      obtain ⟨e, he, _⟩ := Option.map_eq_some_iff.mp found
      obtain ⟨sign, digits, hsign, written, decimal, rfl⟩ :=
        isSome_readExponent?_iff.mp (Option.isSome_of_eq_some he)
      have first : body.find? isExponentMark = some mark := by
        rw [List.find?_eq_head?_dropWhile_not, rest]
        rfl
      exact .tens (isExponentMark_iff.mp (List.find?_some first)) hsign written decimal
  · rintro ⟨fixed, power, hfixed, hpower, rfl⟩
    have unmarked : ∀ c ∈ fixed, (!isExponentMark c) = true := by
      intro c hc
      rw [hfixed.isExponentMark hc]
      rfl
    obtain ⟨read, hread⟩ := Option.isSome_iff_exists.mp (isSome_readFixed?_iff.mpr hfixed)
    cases hpower with
    | none =>
      rw [List.append_nil, List.takeWhile_eq_self_iff.mpr unmarked,
        List.dropWhile_eq_nil_iff.mpr unmarked, hread]
      rfl
    | @tens mark sign digits marked hsign written decimal =>
      have stop : (!isExponentMark mark) = false := by
        rw [isExponentMark_iff.mpr marked]
        rfl
      have power := isSome_readExponent?_iff.mpr ⟨sign, digits, hsign, written, decimal, rfl⟩
      rw [List.takeWhile_append_of_pos unmarked, List.dropWhile_append_of_pos unmarked]
      simpa [stop, hread] using power

/-- A text is read as a literal exactly if it is one by the grammar. -/
theorem Literal.isSome_read?_iff {s : List Char} :
    (Literal.read? s).isSome = true ↔ IsDecimal s := by
  rw [isSome_read?_iff_body]
  constructor
  · rintro ⟨fixed, power, hfixed, hpower, body⟩
    obtain ⟨sign, hsign, whole⟩ := exists_sign_eq s
    exact ⟨sign, fixed, power, hsign, hfixed, hpower, body ▸ whole⟩
  · rintro ⟨sign, fixed, power, hsign, hfixed, hpower, rfl⟩
    refine ⟨fixed, power, hfixed, hpower, splitSign_append hsign ?_⟩
    rw [List.head?_append_of_ne_nil _ hfixed.ne_nil]
    exact hfixed.unsigned

theorem IsSign.mem {s : List Char} (h : IsSign s) {c : Char} (hc : c ∈ s) : c = '+' ∨ c = '-' := by
  rcases h with rfl | rfl | rfl
  · cases hc
  · exact Or.inl (List.mem_singleton.mp hc)
  · exact Or.inr (List.mem_singleton.mp hc)

/-- The characters of a literal. -/
theorem IsDecimal.mem {s : List Char} (h : IsDecimal s) {c : Char} (hc : c ∈ s) :
    c.isDigit = true ∨ c ∈ ['.', 'e', 'E', '+', '-'] := by
  obtain ⟨sign, fixed, power, hsign, hfixed, hpower, rfl⟩ := h
  rcases List.mem_append.mp hc with hc | hc
  · rcases hsign.mem hc with rfl | rfl <;> simp
  rcases List.mem_append.mp hc with hc | hc
  · rcases hfixed.mem hc with digit | rfl
    · exact Or.inl digit
    · simp
  cases hpower with
  | none => cases hc
  | @tens mark sign digits marked hsign written decimal =>
    rcases List.mem_cons.mp hc with rfl | hc
    · rcases marked with rfl | rfl <;> simp
    rcases List.mem_append.mp hc with hc | hc
    · rcases hsign.mem hc with rfl | rfl <;> simp
    · exact Or.inl (decimal c hc)

end Listing.Double
