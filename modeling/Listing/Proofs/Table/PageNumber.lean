import Listing.Proofs.Double.Whole
import Listing.Proofs.Query.Lookup
import Listing.Proofs.Query.Loose
import Listing.Proofs.Table.Lockstep

/-!
# Page numbers in the query and in the location

A number that a table is asked to turn to is an integer of the query if it fits 64 bits with
sign, and a double otherwise. Integers come back from the query and from its location.
A double is an integer close by, and its text another one.
-/

namespace Listing

open Text Double

/-- The first number of 64 bits without sign that is none with sign: `2 ^ 63`. -/
def Word.signBound : Nat := 0x8000000000000000

theorem Word.signed?_natCast (n : Nat) :
    signed? n = if n < signBound then some (Int64.ofInt n) else none := by
  unfold signed? signBound
  split
  next inside => rw [if_pos (by omega)]
  next outside => rw [if_neg (by omega)]

namespace Scalar

variable {n : UInt64}

-- Stated of the function: opened at an `n`, the kernel would count down from `2 ^ 63`.
theorem ofWord_eq : ofWord =
    fun n => ((Word.signed? n.toNat).map int).getD (.float (Double.ofNat n.toNat)) := by
  unfold ofWord
  funext n
  cases Word.signed? n.toNat <;> rfl

theorem ofWord_of_lt (h : n.toNat < Word.signBound) :
    ofWord n = .int (Int64.ofInt n.toNat) := by
  simp only [ofWord_eq, Word.signed?_natCast, if_pos h, Option.map_some, Option.getD_some]

theorem ofWord_of_le (h : Word.signBound ≤ n.toNat) :
    ofWord n = .float (Double.ofNat n.toNat) := by
  simp only [ofWord_eq, Word.signed?_natCast, if_neg (Nat.not_lt.mpr h), Option.map_none,
    Option.getD_none]

theorem toInt_ofInt_of_lt (h : n.toNat < Word.signBound) :
    (Int64.ofInt n.toNat).toInt = n.toNat := by
  unfold Word.signBound at h
  apply Int64.toInt_ofInt_of_le
  · omega
  · omega

theorem log2_of_le (h : Word.signBound ≤ n.toNat) : n.toNat.log2 = 63 := by
  have bound := n.toNat_lt
  unfold Word.signBound at h
  rw [Nat.log2_eq_iff (by omega)]
  omega

theorem word?_ofWord (n : UInt64) :
    (ofWord n).word? = some (if n.toNat < Word.signBound then n
      else UInt64.ofNat (min (nearestNat n.toNat) Word.greatest)) := by
  split
  next small =>
    rw [ofWord_of_lt small, word?, toInt_ofInt_of_lt small, if_pos (Int.natCast_nonneg _)]
    simp
  next large =>
    have digits := log2_of_le (Nat.not_lt.mp large)
    rw [ofWord_of_le (Nat.not_lt.mp large), word?, toNat?_ofNat (by omega) (by omega),
      Option.map_some]

theorem denotes_queryText_ofWord (n : UInt64) :
    Digits.Denotes 10 (ofWord n).queryText.toList
      (if n.toNat < Word.signBound then n.toNat else shown n.toNat) := by
  split
  next small =>
    rw [ofWord_of_lt small, queryText, toInt_ofInt_of_lt small, String.toList_ofList]
    exact Digits.denotes_write _
  next large =>
    have digits := log2_of_le (Nat.not_lt.mp large)
    rw [ofWord_of_le (Nat.not_lt.mp large)]
    exact denotes_plainText_ofNat (by omega) (by omega)

theorem word?_text_ofWord (n : UInt64) :
    (text (ofWord n).queryText).word? =
      if n.toNat < Word.signBound then some n else Word.ofNat? (shown n.toNat) := by
  have denoted := denotes_queryText_ofWord n
  have blanks : ∀ c ∈ (ofWord n).queryText.toList, isBlank c = false :=
    fun c hc => Digits.IsSigned.isBlank (Or.inl (denoted.isDigit hc))
  rw [word?, trimmed_eq_self blanks, Digits.readWord?_of_denotes (by decide) denoted]
  split
  next => exact Word.ofNat?_toNat n
  next => rfl

end Scalar

theorem get?_pagePatch (current pageSize : UInt64) (key : String) :
    (pagePatch current pageSize).get? key =
      if key = pageSizeKey then some (.scalar (.ofWord pageSize))
      else if key = currentKey then some (.scalar (.ofWord current))
      else none := by
  rw [pagePatch, KeyMap.get?_insert, KeyMap.get?_insert]
  rfl

namespace Table

variable {α : Type} {t : Table α}

/-- What is under a key after the table is asked to turn to a page. -/
theorem get?_changePage (current pageSize : UInt64) (key : String) :
    (t.act (.changePage current pageSize)).fields.get? key =
      ((pagePatch current pageSize).get? key).or (t.fields.get? key) := by
  rw [← KeyMap.get?_merge]
  exact congrArg (·.get? key) (transition_advances t (pagePatch current pageSize)).fields

/-- Keys stay plain when the table is asked to turn to a page. -/
theorem plain_changePage (current pageSize : UInt64)
    (plain : ∀ key, t.fields.contains key = true → KeyShape.of key = .plain key) (key : String)
    (has : (t.act (.changePage current pageSize)).fields.contains key = true) :
    KeyShape.of key = .plain key := by
  rw [KeyMap.contains, get?_changePage, get?_pagePatch] at has
  by_cases size : key = pageSizeKey
  · rw [size]
    decide
  · by_cases number : key = currentKey
    · rw [number]
      decide
    · rw [if_neg size, if_neg number, Option.none_or] at has
      exact plain key has

/-- A number that the table holds under a plain key is read back from its location. -/
theorem word?_ofQuery_location {t' : Table α} {patch : Fields} {key : String} {n : UInt64}
    (advances : Advances t t' patch)
    (plain : ∀ key, t'.fields.contains key = true → KeyShape.of key = .plain key)
    (found : t'.fields.get? key = some (.scalar (.ofWord n))) (named : key ≠ "")
    (bare : '[' ∉ key.toList) :
    (Fields.ofQuery t'.location t.options.arrayFormat).word? key =
      (Scalar.text (Scalar.ofWord n).queryText).word? := by
  have whole : ',' ∉ (Scalar.ofWord n).queryText.toList := fun comma =>
    absurd ((Scalar.denotes_queryText_ofWord n).isDigit comma) (by decide)
  rw [advances.location, Fields.word?,
    Fields.get?_ofQuery_toLocation plain found named bare whole]
  rfl

/-- A table that was asked to turn to a page answers with the numbers that it was given, and so
does its location, as far as they fit 64 bits with sign. From there on the query answers with
the nearest double, cut off at the greatest word, and the location with what the text of that
double denotes, if it is a word. -/
theorem page_numbers_after_change (t : Table α) (current pageSize : UInt64)
    (plain : ∀ key, t.fields.contains key = true → KeyShape.of key = .plain key) :
    let after := t.act (.changePage current pageSize)
    let reread := Fields.ofQuery after.location t.options.arrayFormat
    ∀ asked ∈ [(currentKey, current), (pageSizeKey, pageSize)],
      after.fields.word? asked.1 = some (if asked.2.toNat < Word.signBound then asked.2
        else UInt64.ofNat (min (nearestNat asked.2.toNat) Word.greatest)) ∧
      reread.word? asked.1 =
        if asked.2.toNat < Word.signBound then some asked.2
        else Word.ofNat? (shown asked.2.toNat) := by
  intro after reread asked member
  have advances : Advances t after (pagePatch current pageSize) := transition_advances t _
  have held : after.fields.get? asked.1 = some (.scalar (.ofWord asked.2)) ∧
      asked.1 ≠ "" ∧ '[' ∉ asked.1.toList := by
    rw [get?_changePage, get?_pagePatch]
    rcases List.mem_pair.mp member with rfl | rfl
    · exact ⟨rfl, (by decide : currentKey ≠ "" ∧ '[' ∉ currentKey.toList)⟩
    · exact ⟨rfl, (by decide : pageSizeKey ≠ "" ∧ '[' ∉ pageSizeKey.toList)⟩
  obtain ⟨found, named, bare⟩ := held
  constructor
  · rw [Fields.word?, found]
    exact Scalar.word?_ofWord asked.2
  · rw [word?_ofQuery_location advances (plain_changePage current pageSize plain) found named bare,
      Scalar.word?_text_ofWord]

/-- A table of open entries that turns to the third page. -/
theorem page_numbers_after_change_of_open :
    let t : Table Nat := .ofLocation ⟨.comma, .latestRequestWins⟩ "?status=open"
    let after := t.act (.changePage 3 20)
    (∀ key, t.fields.contains key = true → KeyShape.of key = .plain key) ∧
      after.fields.word? currentKey = some 3 ∧
      (Fields.ofQuery after.location .comma).word? currentKey = some 3 := by
  intro t after
  have held : t.fields.entries = [("status", .text "open")] := by decide +kernel
  have plain : ∀ key, t.fields.contains key = true → KeyShape.of key = .plain key := by
    intro key has
    obtain ⟨value, found⟩ := Option.isSome_iff_exists.mp has
    have member := KeyMap.get?_eq_some_iff_mem.mp found
    rw [held] at member
    obtain ⟨rfl, rfl⟩ := Prod.mk.inj (List.mem_singleton.mp member)
    decide
  exact ⟨plain, page_numbers_after_change t 3 20 plain (currentKey, 3) List.mem_cons_self⟩

/-- From `2 ^ 63` on another number is read from the query, and another one from its
location. -/
theorem page_number_is_rounded :
    let t : Table Nat := .ofLocation ⟨.repeated, .latestRequestWins⟩ ""
    let after := t.act (.changePage 9223372036854775809 10)
    t.fields.entries = [] ∧
      after.location = "?current=9223372036854776000&pageSize=10" ∧
      after.fields.word? currentKey = some 9223372036854775808 ∧
      (Fields.ofQuery after.location .repeated).word? currentKey = some 9223372036854776000 := by
  decide +kernel

end Table

end Listing
