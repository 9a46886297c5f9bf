import Listing.Proofs.Query.KeyShape
import Listing.Proofs.Text.Radix

/-!
# The grammar of keys

A key is an item of a list if it ends in empty brackets, or in brackets with a number, and
something stands before them. The shapes are recognised exactly by this grammar. They can also
be found by cutting the key at its brackets, counted in bytes, and no cut is ever impossible.
-/

namespace Listing

namespace Text

/-- The part of a text between two places, which are counted in bytes. There is none if a place
is past the end or inside a character, or if the second place is before the first. -/
def cut? (s : String) (start stop : Nat) : Option String :=
  if h : (⟨start⟩ : String.Pos.Raw).IsValid s ∧ (⟨stop⟩ : String.Pos.Raw).IsValid s ∧ start ≤ stop
  then some (s.extract ⟨⟨start⟩, h.1⟩ ⟨⟨stop⟩, h.2.1⟩) else none

theorem cut?_append (before part after : String) :
    cut? (before ++ (part ++ after)) before.utf8ByteSize
      (before.utf8ByteSize + part.utf8ByteSize) = some part := by
  have first : (⟨before.utf8ByteSize⟩ : String.Pos.Raw).IsValid (before ++ (part ++ after)) :=
    String.Pos.Raw.isValid_iff_exists_append.mpr ⟨before, part ++ after, rfl, rfl⟩
  have last : (⟨before.utf8ByteSize + part.utf8ByteSize⟩ : String.Pos.Raw).IsValid
      (before ++ (part ++ after)) := by
    refine String.Pos.Raw.isValid_iff_exists_append.mpr ⟨before ++ part, after, ?_, ?_⟩
    · rw [String.append_assoc]
    · rw [String.Pos.Raw.ext_iff, String.byteIdx_rawEndPos, String.utf8ByteSize_append]
  rw [cut?, dif_pos ⟨first, last, Nat.le_add_right _ _⟩, Option.some_inj, ← String.toByteArray_inj,
    String.toByteArray_extract, String.toByteArray_append, String.toByteArray_append]
  exact (ByteArray.extract_append_size_add (i := 0)).trans (ByteArray.extract_append_eq_left rfl)

theorem cut?_start (part after : String) :
    cut? (part ++ after) 0 part.utf8ByteSize = some part := by
  have cut := cut?_append "" part after
  simpa using cut

/-- The place of the last occurrence of a character, counted in bytes. -/
def lastPlace? (c : Char) : List Char → Option Nat
  | [] => none
  | d :: r =>
    match lastPlace? c r with
    | some n => some (d.utf8Size + n)
    | none => if d = c then some 0 else none

theorem lastPlace?_eq_none {c : Char} {s : List Char} (h : c ∉ s) : lastPlace? c s = none := by
  induction s with
  | nil => rfl
  | cons d r ih =>
    have rest : c ∉ r := fun hmem => h (List.mem_cons_of_mem d hmem)
    have apart : d ≠ c := by
      rintro rfl
      exact h List.mem_cons_self
    rw [lastPlace?, ih rest]
    exact if_neg apart

theorem lastPlace?_append {c : Char} (before : List Char) {after : List Char} (h : c ∉ after) :
    lastPlace? c (before ++ c :: after) = some (String.ofList before).utf8ByteSize := by
  induction before with
  | nil => simp [lastPlace?, lastPlace?_eq_none h]
  | cons d r ih =>
    rw [List.cons_append, lastPlace?, ih]
    simp [String.ofList_cons]

end Text

namespace KeyShape

open Text

/-- The number between brackets: digits for it, maybe after a plus sign. -/
def IsPlace (text : String) (index : UInt64) : Prop :=
  ∃ digits, (text.toList = digits ∨ text.toList = '+' :: digits) ∧
    Digits.Denotes 10 digits index.toNat

theorem IsPlace.unopened {text : String} {index : UInt64} (h : IsPlace text index) :
    '[' ∉ text.toList ∧ text.toList ≠ [] := by
  obtain ⟨digits, written, denoted⟩ := h
  have unopened : '[' ∉ digits := fun opened => absurd (denoted.isDigit opened) (by decide)
  rcases written with written | written
  · rw [written]
    exact ⟨unopened, denoted.1⟩
  · rw [written]
    exact ⟨by simpa using unopened, List.cons_ne_nil _ _⟩

theorem readWord?_eq_some_iff_isPlace {text : String} {index : UInt64} :
    Digits.readWord? 10 text.toList = some index ↔ IsPlace text index :=
  Digits.readWord?_eq_some_iff (by decide)

theorem bracketed_eq (base text : String) :
    base ++ "[" ++ text ++ "]" =
      String.ofList (base.toList ++ '[' :: (text.toList ++ [']'])) := by
  rw [← String.toList_inj]
  simp

/-- A key that ends in brackets, by what stands before and inside of them. -/
theorem of_bracketed_text {base text : String} (hi : '[' ∉ text.toList) :
    of (base ++ "[" ++ text ++ "]") =
      if base = "" then .plain (base ++ "[" ++ text ++ "]")
      else if text = "" then .appended base
      else (Digits.readWord? 10 text.toList).elim (.plain (base ++ "[" ++ text ++ "]"))
        (.indexed base) := by
  rw [bracketed_eq, of_bracketed hi]
  simp only [String.ofList_toList, String.toList_eq_nil_iff]

theorem exists_brackets_text {key : String} (opened : '[' ∈ key.toList)
    (closed : key.toList.getLast? = some ']') :
    ∃ base text, '[' ∉ text.toList ∧ key = base ++ "[" ++ text ++ "]" := by
  obtain ⟨base, inner, hi, rfl⟩ := exists_brackets opened closed
  refine ⟨String.ofList base, String.ofList inner, by simpa using hi, ?_⟩
  simp [bracketed_eq]

theorem of_indexed_text {base text : String} {index : UInt64} (hb : base ≠ "")
    (place : IsPlace text index) : of (base ++ "[" ++ text ++ "]") = .indexed base index := by
  obtain ⟨unopened, written⟩ := place.unopened
  have written : text ≠ "" := by simpa using written
  rw [of_bracketed_text unopened, if_neg hb, if_neg written,
    readWord?_eq_some_iff_isPlace.mpr place]
  rfl

/-- The shapes that a key can have, each with what the key is made of. -/
theorem of_cases (key : String) :
    of key = .plain key ∨
    (∃ base, of key = .appended base ∧ base ≠ "" ∧ key = base ++ "[]") ∨
    ∃ base index, of key = .indexed base index ∧ base ≠ "" ∧
      ∃ text, key = base ++ "[" ++ text ++ "]" ∧ IsPlace text index := by
  by_cases bracketed : '[' ∈ key.toList ∧ key.toList.getLast? = some ']'
  · obtain ⟨base, text, hi, rfl⟩ := exists_brackets_text bracketed.1 bracketed.2
    rw [of_bracketed_text hi]
    by_cases hb : base = ""
    · exact Or.inl (if_pos hb)
    · rw [if_neg hb]
      by_cases ht : text = ""
      · subst ht
        rw [if_pos rfl]
        refine Or.inr (Or.inl ⟨base, rfl, hb, ?_⟩)
        rw [← String.toList_inj]
        simp
      · rw [if_neg ht]
        cases read : Digits.readWord? 10 text.toList with
        | none => exact Or.inl rfl
        | some index =>
          have place := readWord?_eq_some_iff_isPlace.mp read
          exact Or.inr (Or.inr ⟨base, index, rfl, hb, text, rfl, place⟩)
  · exact Or.inl (of_eq_plain_of_not_bracketed bracketed)

theorem of_eq_appended_iff {key base : String} :
    of key = .appended base ↔ base ≠ "" ∧ key = base ++ "[]" := by
  constructor
  · intro shape
    rcases of_cases key with plain | ⟨base', appended, hb, text⟩ | ⟨base', index, indexed, _⟩
    · rw [plain] at shape
      cases shape
    · rw [appended] at shape
      cases shape
      exact ⟨hb, text⟩
    · rw [indexed] at shape
      cases shape
  · rintro ⟨hb, rfl⟩
    exact of_appended hb

theorem of_eq_indexed_iff {key base : String} {index : UInt64} :
    of key = .indexed base index ↔
      base ≠ "" ∧ ∃ text, key = base ++ "[" ++ text ++ "]" ∧ IsPlace text index := by
  constructor
  · intro shape
    rcases of_cases key with plain | ⟨base', appended, _⟩ | ⟨base', index', indexed, hb, place⟩
    · rw [plain] at shape
      cases shape
    · rw [appended] at shape
      cases shape
    · rw [indexed] at shape
      cases shape
      exact ⟨hb, place⟩
  · rintro ⟨hb, text, rfl, place⟩
    exact of_indexed_text hb place

/-- A key is plain exactly if it has no other shape, and then it is left as it is. -/
theorem of_eq_plain_iff {key whole : String} :
    of key = .plain whole ↔ whole = key ∧ (∀ base, of key ≠ .appended base) ∧
      ∀ base index, of key ≠ .indexed base index := by
  rcases of_cases key with plain | ⟨base, appended, _⟩ | ⟨base, index, indexed, _⟩
  · simp [plain, eq_comm]
  · simp [appended]
  · simp [indexed]

/-- The shape by the place of the last opening bracket, as far as the key can be cut there. -/
def cutIndexed? (key : String) : Option KeyShape :=
  match lastPlace? '[' key.toList with
  | some place =>
    if 0 < place ∧ key.toList.getLast? = some ']' then
      (cut? key (place + 1) (key.utf8ByteSize - 1)).bind fun text =>
        match Digits.readWord? 10 text.toList with
        | some index => (cut? key 0 place).map (.indexed · index)
        | none => some (.plain key)
    else some (.plain key)
  | none => some (.plain key)

/-- The shape of a key by cutting it at its brackets, as far as it can be cut there. -/
def cutShape? (key : String) : Option KeyShape :=
  if ['[', ']'] <:+ key.toList then
    (cut? key 0 (key.utf8ByteSize - 2)).bind fun base =>
      if base = "" then cutIndexed? key else some (.appended base)
  else cutIndexed? key

/-- The brackets take a byte each. -/
theorem utf8ByteSize_bracketed (base text : String) :
    (base ++ "[" ++ text ++ "]").utf8ByteSize = base.utf8ByteSize + text.utf8ByteSize + 2 := by
  have one : "[".utf8ByteSize = 1 ∧ "]".utf8ByteSize = 1 := ⟨rfl, rfl⟩
  simp only [String.utf8ByteSize_append, one]
  omega

theorem cut?_base (base text : String) :
    cut? (base ++ "[" ++ text ++ "]") 0 base.utf8ByteSize = some base := by
  have cut := cut?_start base ("[" ++ text ++ "]")
  rwa [← String.append_assoc, ← String.append_assoc] at cut

theorem cutIndexed?_bracketed {base text : String} (hi : '[' ∉ text.toList) :
    cutIndexed? (base ++ "[" ++ text ++ "]") =
      if base = "" then some (.plain (base ++ "[" ++ text ++ "]"))
      else some ((Digits.readWord? 10 text.toList).elim (.plain (base ++ "[" ++ text ++ "]"))
        (.indexed base)) := by
  have place : lastPlace? '[' (base ++ "[" ++ text ++ "]").toList = some base.utf8ByteSize := by
    rw [bracketed_eq, String.toList_ofList, lastPlace?_append base.toList (by simpa using hi),
      String.ofList_toList]
  have closed : (base ++ "[" ++ text ++ "]").toList.getLast? = some ']' := by
    rw [String.toList_append]
    exact List.getLast?_concat
  have size : (base ++ "[" ++ text ++ "]").utf8ByteSize - 1 =
      base.utf8ByteSize + 1 + text.utf8ByteSize := by
    rw [utf8ByteSize_bracketed]
    omega
  have inside : cut? (base ++ "[" ++ text ++ "]") (base.utf8ByteSize + 1)
      (base.utf8ByteSize + 1 + text.utf8ByteSize) = some text := by
    have cut := cut?_append (base ++ "[") text "]"
    rwa [String.utf8ByteSize_append, ← String.append_assoc] at cut
  rw [cutIndexed?, place, size]
  by_cases hb : base = ""
  · subst hb
    rfl
  · have positive : 0 < base.utf8ByteSize := by
      have size : base.utf8ByteSize ≠ 0 := by simpa using hb
      omega
    simp only [if_pos (And.intro positive closed), inside, cut?_base, if_neg hb, Option.bind_some]
    cases Digits.readWord? 10 text.toList <;> rfl

/-- Brackets with something in them are not the two brackets alone. -/
theorem not_suffix_bracketed {base text : String} (hi : '[' ∉ text.toList) (ht : text ≠ "") :
    ¬['[', ']'] <:+ (base ++ "[" ++ text ++ "]").toList := by
  rintro ⟨before, written⟩
  have inhabited : text.toList ≠ [] := by simpa using ht
  obtain ⟨start, last, he⟩ := (List.eq_nil_or_concat' text.toList).resolve_left inhabited
  have written : before ++ ['[', ']'] = (base.toList ++ '[' :: start) ++ [last, ']'] := by
    rw [written, bracketed_eq, he]
    simp
  have same := (List.append_inj' written rfl).2
  obtain rfl : '[' = last := (List.cons.inj same).1
  exact hi (by simp [he])

/-- Every cut at brackets is possible, and cutting finds the shape. -/
theorem cutShape?_eq (key : String) : cutShape? key = some (of key) := by
  -- Only a key that ends in brackets is cut, at its last opening one.
  by_cases bracketed : '[' ∈ key.toList ∧ key.toList.getLast? = some ']'
  · obtain ⟨base, text, hi, rfl⟩ := exists_brackets_text bracketed.1 bracketed.2
    by_cases ht : text = ""
    · subst ht
      have suffix : ['[', ']'] <:+ (base ++ "[" ++ "" ++ "]").toList := ⟨base.toList, by simp⟩
      have size : (base ++ "[" ++ "" ++ "]").utf8ByteSize - 2 = base.utf8ByteSize := by
        rw [utf8ByteSize_bracketed]
        rfl
      rw [cutShape?, if_pos suffix, size, cut?_base, Option.bind_some, cutIndexed?_bracketed hi,
        of_bracketed_text hi]
      by_cases hb : base = ""
      · simp only [if_pos hb]
      · simp only [if_neg hb, if_pos]
    · rw [cutShape?, if_neg (not_suffix_bracketed hi ht), cutIndexed?_bracketed hi,
        of_bracketed_text hi, if_neg ht, ← apply_ite some]
  · have unbracketed : ¬['[', ']'] <:+ key.toList := by
      rintro ⟨before, written⟩
      exact bracketed (by simp [← written])
    rw [cutShape?, if_neg unbracketed, cutIndexed?, of_eq_plain_of_not_bracketed bracketed]
    split
    next place found =>
      have opened : '[' ∈ key.toList := by
        by_contra unopened
        rw [lastPlace?_eq_none unopened] at found
        cases found
      exact if_neg fun closed => bracketed ⟨opened, closed.2⟩
    next => rfl

/-- The shape of a key follows the grammar of keys, the cuts that find it are all possible, and
the keys that are made for items give back the key and the place they were made from. -/
theorem shape_follows_grammar (key : String) :
    (∀ base, of key = .appended base ↔ base ≠ "" ∧ key = base ++ "[]") ∧
    (∀ base index, of key = .indexed base index ↔
      base ≠ "" ∧ ∃ text, key = base ++ "[" ++ text ++ "]" ∧ IsPlace text index) ∧
    (∀ whole, of key = .plain whole ↔ whole = key ∧
      (¬∃ base, base ≠ "" ∧ key = base ++ "[]") ∧
      ¬∃ base text index, base ≠ "" ∧ key = base ++ "[" ++ text ++ "]" ∧ IsPlace text index) ∧
    cutShape? key = some (of key) ∧
    (key ≠ "" → of s!"{key}[]" = .appended key ∧
      ∀ index : UInt64, of s!"{key}[{index.toNat}]" = .indexed key index) := by
  refine ⟨fun _ => of_eq_appended_iff, fun _ _ => of_eq_indexed_iff, ?_, cutShape?_eq key, ?_⟩
  · intro whole
    rw [of_eq_plain_iff]
    simp only [ne_eq, of_eq_appended_iff, of_eq_indexed_iff]
    constructor
    · rintro ⟨same, unappended, unindexed⟩
      refine ⟨same, ?_, ?_⟩
      · rintro ⟨base, appended⟩
        exact unappended base appended
      · rintro ⟨base, text, index, named, bracketed⟩
        exact unindexed base index ⟨named, text, bracketed⟩
    · rintro ⟨same, unappended, unindexed⟩
      refine ⟨same, fun base appended => unappended ⟨base, appended⟩, ?_⟩
      rintro base index ⟨named, text, bracketed⟩
      exact unindexed ⟨base, text, index, named, bracketed⟩
  · intro named
    refine ⟨of_appended named, fun index => ?_⟩
    rw [of_indexed named index.toNat_lt_size, UInt64.ofNat_toNat]

/-- A key that has brackets itself, and a place written with a sign and a zero. -/
theorem shape_follows_grammar_of_nested :
    of "é[[+07]" = .indexed "é[" 7 ∧ "é[[+07]" ≠ "" ∧ of "é[[+07][]" = .appended "é[[+07]" ∧
      of "é[[+07][12]" = .indexed "é[[+07]" 12 := by
  have place : IsPlace "+07" 7 :=
    ⟨['0', '7'], Or.inr rfl, (Digits.read?_eq_some_iff (by decide)).mp (by decide)⟩
  have named : "é[[+07]" ≠ "" := by decide
  obtain ⟨_, indexed, _, _, made⟩ := shape_follows_grammar "é[[+07]"
  have shape := (indexed "é[" 7).mpr ⟨by decide, "+07", rfl, place⟩
  exact ⟨shape, named, (made named).1, (made named).2 12⟩

end KeyShape

end Listing
