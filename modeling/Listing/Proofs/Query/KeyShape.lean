import Listing.Proofs.Text.Digits
import Listing.Query.KeyShape
import Mathlib.Data.List.TakeWhile

/-!
# Keys in brackets

A key is taken apart at its last brackets, and only if there is something before them. The
keys that the writer makes for items are taken apart into the key and the place from which
they were made, whatever brackets the key itself holds.
-/

namespace Listing.KeyShape

open Text

/-- A key that ends in brackets is plain if nothing is before them or no number in them. -/
theorem of_bracketed {base inner : List Char} (hi : '[' ∉ inner) :
    of (String.ofList (base ++ '[' :: (inner ++ [']']))) =
      if base = [] then .plain (String.ofList (base ++ '[' :: (inner ++ [']'])))
      else if inner = [] then .appended (String.ofList base)
      else (Digits.readWord? 10 inner).elim
        (.plain (String.ofList (base ++ '[' :: (inner ++ [']']))))
        (.indexed (String.ofList base)) := by
  have reversed : (String.ofList (base ++ '[' :: (inner ++ [']']))).toList.reverse =
      ']' :: (inner.reverse ++ '[' :: base.reverse) := by
    simp
  have inside : ∀ c ∈ inner.reverse, decide (c ≠ '[') = true := by
    intro c hc
    rw [decide_eq_true_iff]
    rintro rfl
    exact hi (List.mem_reverse.mp hc)
  have stop : decide ('[' ≠ '[') = false := rfl
  unfold of
  rw [reversed]
  simp only [List.takeWhile_append_of_pos inside, List.dropWhile_append_of_pos inside,
    List.takeWhile_cons, List.dropWhile_cons, stop, Bool.false_eq_true, if_false,
    List.append_nil, List.reverse_reverse, List.reverse_eq_nil_iff]
  cases Digits.readWord? 10 inner <;> rfl

/-- A key that has an opening bracket and ends in a closing one, cut at the last opening one. -/
theorem exists_brackets {key : String} (opened : '[' ∈ key.toList)
    (closed : key.toList.getLast? = some ']') :
    ∃ base inner, '[' ∉ inner ∧ key = String.ofList (base ++ '[' :: (inner ++ [']'])) := by
  obtain ⟨before, ends⟩ := List.getLast?_eq_some_iff.mp closed
  have opened : '[' ∈ before.reverse := by
    rw [ends] at opened
    simpa using opened
  obtain ⟨inner, base, he, hi⟩ := List.eq_append_cons_of_mem opened
  refine ⟨base.reverse, inner.reverse, fun hmem => hi (List.mem_reverse.mp hmem), ?_⟩
  rw [← String.toList_inj, ends, ← List.reverse_reverse before, he]
  simp

/-- Any other key is plain. -/
theorem of_eq_plain_of_not_bracketed {key : String}
    (h : ¬('[' ∈ key.toList ∧ key.toList.getLast? = some ']')) : of key = .plain key := by
  rw [List.getLast?_eq_head?_reverse, ← List.mem_reverse] at h
  unfold of
  split
  next r hr =>
    have unopened : '[' ∉ r := by
      intro opened
      exact h ⟨hr ▸ List.mem_cons_of_mem _ opened, by rw [hr]; rfl⟩
    have dropped : r.dropWhile (· ≠ '[') = [] := by
      rw [List.dropWhile_eq_nil_iff]
      intro c hc
      rw [decide_eq_true_iff]
      rintro rfl
      exact unopened hc
    simp only [dropped]
  next => rfl

/-- A key that is not plain ends in brackets with something before them. -/
theorem exists_brackets_of_ne_plain {key : String} (h : of key ≠ .plain key) :
    ∃ base inner, base ≠ [] ∧ '[' ∉ inner ∧
      key = String.ofList (base ++ '[' :: (inner ++ [']'])) := by
  obtain ⟨opened, closed⟩ := Classical.not_not.mp (mt of_eq_plain_of_not_bracketed h)
  obtain ⟨base, inner, hi, rfl⟩ := exists_brackets opened closed
  refine ⟨base, inner, ?_, hi, rfl⟩
  rintro rfl
  exact h (by rw [of_bracketed hi, if_pos rfl])

theorem base_of_bracketed {base inner : List Char} (hb : base ≠ []) (hi : '[' ∉ inner) :
    (of (String.ofList (base ++ '[' :: (inner ++ [']'])))).base = String.ofList base ∨
    of (String.ofList (base ++ '[' :: (inner ++ [']']))) =
      .plain (String.ofList (base ++ '[' :: (inner ++ [']']))) := by
  rw [of_bracketed hi, if_neg hb]
  split
  · exact Or.inl rfl
  · cases Digits.readWord? 10 inner with
    | none => exact Or.inr rfl
    | some index => exact Or.inl rfl

/-- Without its brackets a key is shorter, but never empty. -/
theorem base_of_ne_plain {key : String} (h : of key ≠ .plain key) :
    (of key).base ≠ "" ∧ (of key).base.length < key.length := by
  obtain ⟨base, inner, hb, hi, rfl⟩ := exists_brackets_of_ne_plain h
  have base_eq := (base_of_bracketed hb hi).resolve_right h
  rw [base_eq]
  constructor
  · intro he
    exact hb (by simpa using congrArg String.toList he)
  · simp only [String.length_ofList, List.length_append, List.length_cons]
    omega

theorem base_ne_empty {key : String} (h : key ≠ "") : (of key).base ≠ "" := by
  by_cases hp : of key = .plain key
  · rw [hp]
    exact h
  · exact (base_of_ne_plain hp).1

/-- The key that an item with no place of its own is written under. -/
theorem of_appended {key : String} (h : key ≠ "") : of s!"{key}[]" = .appended key := by
  have text : s!"{key}[]" = String.ofList (key.toList ++ '[' :: ([] ++ [']'])) := by
    rw [← String.toList_inj]
    simp [toString]
  have hb : key.toList ≠ [] := by simpa using h
  rw [text, of_bracketed (by simp), if_neg hb, if_pos rfl, String.ofList_toList]

/-- The key that an item is written under with its place. -/
theorem of_indexed {key : String} (h : key ≠ "") {i : Nat} (hi : i < UInt64.size) :
    of s!"{key}[{i}]" = .indexed key (UInt64.ofNat i) := by
  have text : s!"{key}[{i}]" =
      String.ofList (key.toList ++ '[' :: (Digits.write i ++ [']'])) := by
    rw [← String.toList_inj]
    simp [toString, Digits.write]
  have hb : key.toList ≠ [] := by simpa using h
  have digits : '[' ∉ Digits.write i := by
    intro hmem
    exact absurd (Digits.isDigit_of_mem_write hmem) (by decide)
  rw [text, of_bracketed digits, if_neg hb, if_neg (Digits.write_ne_nil i),
    Digits.readWord?_write hi, String.ofList_toList]
  rfl

end Listing.KeyShape
