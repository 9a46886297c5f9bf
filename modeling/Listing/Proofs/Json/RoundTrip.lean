import Listing.Json.Reader
import Listing.Json.Writer
import Listing.Proofs.Json.Tree
import Listing.Proofs.KeyMap
import Listing.Proofs.Text.Radix

/-!
# Structured values as text and back

A value without doubles is read back from its text. Each part of a value is written so that it
can be told where it ends: a number by what comes after it, a text by its closing quote, and an
array or object by its closing bracket.
-/

namespace Listing.Json

open Text

/-! ### Texts in quotes -/

/-- The piece that a written character is read as. -/
def Piece.ofChar (c : Char) : Piece :=
  if c.toNat < 0x20 ∧ c ∉ ['\x08', '\x0c', '\n', '\r', '\t'] then .unit c.toNat else .char c

theorem readHex?_writeChar {n : Nat} (h : n < 0x20) :
    readHex? ['0', '0', Nat.digitChar (n / 16), Nat.digitChar (n % 16)] = some n := by
  have high : n / 16 < 16 := by omega
  have low : n % 16 < 16 := by omega
  have zero : Digits.value? 16 '0' = some 0 := rfl
  have place : 0 * 16 + 0 = 0 := rfl
  rw [readHex?, Digits.read?, if_neg (List.cons_ne_nil _ _)]
  simp only [Digits.readFrom?, zero, Option.bind_some, (Digits.value?_digitChar high).1,
    (Digits.value?_digitChar low).1, if_pos high, if_pos low]
  congr 1
  omega

/-- One more piece before those that are read. -/
def before (piece : Piece) (read : List Piece × List Char) : List Piece × List Char :=
  (piece :: read.1, read.2)

theorem readPieces?_short {c d : Char} (h : escaped? c = some d) (rest : List Char) :
    readPieces? ('\\' :: c :: rest) = (readPieces? rest).map (before (.char d)) := by
  have other : c ≠ 'u' := by
    rintro rfl
    cases h
  rw [readPieces?.eq_def]
  split
  next he => cases he
  next he => cases he
  next he =>
    cases he
    exact absurd rfl other
  next he =>
    cases he
    rw [h]
    cases readPieces? rest <;> rfl
  next hne he =>
    cases he
    exact False.elim (hne _ _ rfl rfl)

theorem readPieces?_unit {a b c d : Char} {n : Nat} (h : readHex? [a, b, c, d] = some n)
    (rest : List Char) : readPieces? ('\\' :: 'u' :: a :: b :: c :: d :: rest) =
      (readPieces? rest).map (before (.unit n)) := by
  rw [readPieces?, h]
  cases readPieces? rest <;> rfl

theorem readPieces?_self {c : Char} (visible : 0x20 ≤ c.toNat) (unquoted : c ≠ '"')
    (unescaped : c ≠ '\\') (rest : List Char) :
    readPieces? (c :: rest) = (readPieces? rest).map (before (.char c)) := by
  have allowed : ¬((decide (c.toNat < 0x20) || decide (c = '\\')) = true) := by
    simp [unescaped, Nat.not_lt.mpr visible]
  rw [readPieces?.eq_def]
  split
  next he => cases he
  next he => exact absurd (List.cons.inj he).1 unquoted
  next he => exact absurd (List.cons.inj he).1 unescaped
  next he => exact absurd (List.cons.inj he).1 unescaped
  next he =>
    cases he
    rw [if_neg allowed]
    cases readPieces? rest <;> rfl

theorem readPieces?_writeChar_append (c : Char) (rest : List Char) :
    readPieces? (writeChar c ++ rest) = (readPieces? rest).map (before (Piece.ofChar c)) := by
  unfold writeChar
  split
  case h_8 quote backslash back feed line carriage tab =>
    have short : c ∉ ['\x08', '\x0c', '\n', '\r', '\t'] := by
      simp only [List.mem_cons, List.not_mem_nil, not_or]
      exact ⟨back, feed, line, carriage, tab, not_false⟩
    by_cases control : c.toNat < 0x20
    · rw [if_pos control, Piece.ofChar, if_pos ⟨control, short⟩]
      exact readPieces?_unit (readHex?_writeChar control) rest
    · rw [if_neg control, Piece.ofChar, if_neg fun both => control both.1]
      exact readPieces?_self (Nat.not_lt.mp control) quote backslash rest
  all_goals exact readPieces?_short rfl rest

theorem join?_cons_ofChar (c : Char) (r : List Piece) :
    Piece.join? (Piece.ofChar c :: r) = (Piece.join? r).map (c :: ·) := by
  unfold Piece.ofChar
  split
  next control =>
    have single : isHighSurrogate c.toNat = false ∧ isLowSurrogate c.toNat = false := by
      have small := control.1
      simp only [isHighSurrogate, isLowSurrogate, Bool.and_eq_false_iff, decide_eq_false_iff_not]
      omega
    cases r with
    | nil => simp [Piece.join?, single]
    | cons p r =>
      cases p with
      | char d => simp [Piece.join?, single]
      | unit m => simp [Piece.join?, single]
  next => rfl

/-- The pieces of a written text spell the text. -/
theorem join?_map_ofChar (s : List Char) : Piece.join? (s.map Piece.ofChar) = some s := by
  induction s with
  | nil => rfl
  | cons c r ih => rw [List.map_cons, join?_cons_ofChar, ih, Option.map_some]

/-- The pieces of a text. -/
def Piece.ofText (s : String) : List Piece := s.toList.map ofChar

theorem text?_ofText (s : String) : Piece.text? (Piece.ofText s) = some s := by
  rw [Piece.text?, Piece.ofText, join?_map_ofChar, Option.map_some, String.ofList_toList]

theorem readPieces?_written (s rest : List Char) :
    readPieces? (s.flatMap writeChar ++ '"' :: rest) = some (s.map Piece.ofChar, rest) := by
  induction s with
  | nil => rw [List.flatMap_nil, List.nil_append, readPieces?]; rfl
  | cons c r ih =>
    rw [List.flatMap_cons, List.append_assoc, readPieces?_writeChar_append, ih]
    rfl

/-! ### Integers -/

/-- What may come after a value: the sign that ends what it stands in, or that stands before the
next value. -/
def Ends (rest : List Char) : Prop := ∀ c, rest.head? = some c → c = ',' ∨ c = ']' ∨ c = '}'

theorem ends_nil : Ends [] := by simp [Ends]

theorem ends_cons {c : Char} (h : c = ',' ∨ c = ']' ∨ c = '}') (rest : List Char) :
    Ends (c :: rest) := by
  intro d hd
  cases hd
  exact h

theorem Ends.takeWhile_isDigit {rest : List Char} (h : Ends rest) :
    rest.takeWhile Char.isDigit = [] ∧ rest.dropWhile Char.isDigit = rest := by
  cases rest with
  | nil => exact ⟨rfl, rfl⟩
  | cons c r =>
    have end_sign : c.isDigit = false := by
      rcases h c rfl with rfl | rfl | rfl <;> rfl
    simp [end_sign]

theorem Ends.readFraction? {rest : List Char} (h : Ends rest) :
    Json.readFraction? rest = some (none, rest) := by
  unfold Json.readFraction?
  split
  next r => rcases h '.' rfl with he | he | he <;> cases he
  next => rfl

theorem Ends.readExponent? {rest : List Char} (h : Ends rest) :
    Json.readExponent? rest = some (none, rest) := by
  cases rest with
  | nil => rfl
  | cons c r => rcases h c rfl with rfl | rfl | rfl <;> rfl

/-- Digits begin with a zero only if there are no others. -/
theorem head?_write {n : Nat} (h : 10 ≤ n) : (Digits.write n).head? ≠ some '0' := by
  induction n using Nat.strongRecOn with
  | ind n ih =>
    have parts : Digits.write n = Digits.write (n / 10) ++ [Nat.digitChar (n % 10)] :=
      Nat.toDigits_of_base_le (by decide) h
    rw [parts, List.head?_append_of_ne_nil _ (Digits.write_ne_nil _)]
    by_cases more : 10 ≤ n / 10
    · exact ih (n / 10) (by omega) more
    · have single : Digits.write (n / 10) = [Nat.digitChar (n / 10)] :=
        Nat.toDigits_of_lt_base (by omega)
      rw [single, List.head?_cons]
      have range : 1 ≤ n / 10 ∧ n / 10 < 10 := by omega
      obtain ⟨low, high⟩ := range
      interval_cases n / 10 <;> decide

theorem not_padded (n : Nat) : ¬(Digits.write n = [] ∨
    (Digits.write n).head? = some '0' ∧ 1 < (Digits.write n).length) := by
  rintro (empty | ⟨zero, long⟩)
  · exact Digits.write_ne_nil n empty
  · by_cases h : 10 ≤ n
    · exact head?_write h zero
    · have single : Digits.write n = [Nat.digitChar n] := Nat.toDigits_of_lt_base (by omega)
      rw [single] at long
      exact absurd long (by simp)

/-- An integer is read up to what ends it. -/
theorem readNumber?_writeInt_append (i : Int) {rest : List Char} (h : Ends rest) :
    readNumber? (Digits.writeInt i ++ rest) =
      some (⟨decide (i < 0), Digits.write i.natAbs, none, none⟩, rest) := by
  have digits (n : Nat) : ∀ c ∈ Digits.write n, Char.isDigit c = true :=
    fun c hc => Digits.isDigit_of_mem_write hc
  have whole (n : Nat) : (Digits.write n ++ rest).takeWhile Char.isDigit = Digits.write n := by
    rw [List.takeWhile_append_of_pos (digits n), h.takeWhile_isDigit.1, List.append_nil]
  have left (n : Nat) : (Digits.write n ++ rest).dropWhile Char.isDigit = rest := by
    rw [List.dropWhile_append_of_pos (digits n), h.takeWhile_isDigit.2]
  cases i with
  | ofNat n =>
    unfold readNumber?
    split
    next negative body he =>
      split at he
      next r hr =>
        obtain ⟨c, s, hs⟩ := List.exists_cons_of_ne_nil (Digits.write_ne_nil n)
        have digit : c.isDigit = true := digits n c (hs ▸ List.mem_cons_self)
        rw [Digits.writeInt, hs] at hr
        cases hr
        cases digit
      next =>
        cases he
        simp [Digits.writeInt, whole, left, not_padded, h.readFraction?, h.readExponent?]
  | negSucc n =>
    simp [Digits.writeInt, readNumber?, whole, left, not_padded, h.readFraction?, h.readExponent?]

theorem le_ofDigitChars (s : List Char) (n : Nat) : n ≤ Nat.ofDigitChars 10 s n := by
  rw [Nat.ofDigitChars_eq_ofDigitChars_zero]
  exact Nat.le_add_right_of_le (Nat.le_mul_of_pos_left n (Nat.pow_pos (by decide)))

/-- Digits that fit into the significand are all taken. -/
theorem accumulate_eq {s : List Char} {n : Nat} (h : Nat.ofDigitChars 10 s n < UInt64.size) :
    NumberText.accumulate n s = (Nat.ofDigitChars 10 s n, []) := by
  induction s generalizing n with
  | nil => simp [NumberText.accumulate]
  | cons c r ih =>
    rw [Nat.ofDigitChars_cons, Nat.mul_comm] at h ⊢
    have fits : n * 10 + (c.toNat - 48) < UInt64.size :=
      Nat.lt_of_le_of_lt (le_ofDigitChars r _) h
    rw [NumberText.accumulate, if_pos fits]
    exact ih h

theorem value?_integer {i : Int} (low : -0x8000000000000000 ≤ i) (high : i < UInt64.size) :
    NumberText.value? ⟨decide (i < 0), Digits.write i.natAbs, none, none⟩ = some (.integer i) := by
  have short : i.natAbs < UInt64.size := by
    have size : UInt64.size = 0x10000000000000000 := rfl
    omega
  have taken : NumberText.accumulate 0 (Digits.write i.natAbs) = (i.natAbs, []) := by
    have digits : Nat.ofDigitChars 10 (Digits.write i.natAbs) 0 = i.natAbs :=
      Nat.ofDigitChars_ten_toDigits
    rw [accumulate_eq (by rwa [digits]), digits]
  unfold NumberText.value?
  rw [taken]
  by_cases negative : i < 0
  · have size : (i.natAbs : Int) = -i := by omega
    have word : ¬(i.natAbs = 0 ∨ Word.signed? i = none) := by
      rw [Word.signed?, if_pos (by omega)]
      rintro (zero | missing)
      · omega
      · cases missing
    simp only [decide_eq_true negative, if_true, size, Int.neg_neg, if_neg word]
  · have size : (i.natAbs : Int) = i := by omega
    simp [negative, size]

/-! ### Values -/

/-- A value that its text determines: without doubles, with integers of 64 bits, and with the
members of an object in the order of their keys. -/
inductive Exact : Json → Prop
  | null : Exact .null
  | bool (b : Bool) : Exact (.bool b)
  | integer {i : Int} (low : -0x8000000000000000 ≤ i) (high : i < UInt64.size) : Exact (.integer i)
  | string (s : String) : Exact (.string s)
  | array {items : List Json} (each : ∀ v ∈ items, Exact v) : Exact (.array items)
  | object {members : List (String × Json)} (sorted : members.Pairwise fun a b => a.1 < b.1)
      (each : ∀ m ∈ members, Exact m.2) : Exact (.object members)

/-- The text begins as values do and is read as the tree, whatever comes after it. -/
structure Reads (s : List Char) (t : Tree) : Prop where
  start : ∃ c r, s = c :: r ∧ isSpace c = false ∧ c ≠ ']'
  read : ∀ fuel rest, 2 * s.length ≤ fuel + 1 → Ends rest →
    readValue? (fuel + 1) (s ++ rest) = some (t, rest)

theorem skipSpace_cons {c : Char} (h : isSpace c = false) (r : List Char) :
    skipSpace (c :: r) = c :: r := by
  rw [skipSpace, List.dropWhile_cons_of_neg (by simp [h])]

theorem reads_null : Reads (write .null) .null where
  start := ⟨'n', _, rfl, rfl, by decide⟩
  read _ _ _ _ := rfl

theorem reads_bool (b : Bool) : Reads (write (.bool b)) (.bool b) := by
  cases b with
  | false => exact ⟨⟨'f', _, rfl, rfl, by decide⟩, fun _ _ _ _ => rfl⟩
  | true => exact ⟨⟨'t', _, rfl, rfl, by decide⟩, fun _ _ _ _ => rfl⟩

theorem reads_string (s : String) : Reads (write (.string s)) (.string (Piece.ofText s)) where
  start := ⟨'"', _, rfl, rfl, by decide⟩
  read fuel rest _ _ := by
    have pieces := readPieces?_written s.toList rest
    have text : write (.string s) ++ rest = '"' :: (s.toList.flatMap writeChar ++ '"' :: rest) := by
      simp [write, writeString]
    rw [text, readValue?, skipSpace_cons rfl]
    simp [pieces, Piece.ofText]

/-- The first sign of an integer begins no other value. -/
theorem exists_cons_writeInt (i : Int) : ∃ c r, Digits.writeInt i = c :: r ∧
    ∀ d : Char, d.toNat < 45 ∨ 57 < d.toNat → c ≠ d := by
  obtain ⟨c, r, hs⟩ := List.exists_cons_of_ne_nil (Digits.writeInt_ne_nil i)
  have signed : Digits.IsSigned c :=
    Digits.isSigned_of_mem_writeInt (i := i) (hs ▸ List.mem_cons_self)
  refine ⟨c, r, hs, ?_⟩
  rintro d outside rfl
  have inside := signed.toNat
  omega

theorem reads_integer (i : Int) : Reads (write (.integer i))
    (.number ⟨decide (i < 0), Digits.write i.natAbs, none, none⟩) := by
  obtain ⟨c, r, hs, apart⟩ := exists_cons_writeInt i
  have visible : isSpace c = false := by
    simp only [isSpace, Bool.or_eq_false_iff, decide_eq_false_iff_not]
    exact ⟨⟨⟨apart _ (by decide), apart _ (by decide)⟩, apart _ (by decide)⟩, apart _ (by decide)⟩
  refine ⟨⟨c, r, hs, visible, apart _ (by decide)⟩, ?_⟩
  intro fuel rest _ ends
  have number := readNumber?_writeInt_append i ends
  rw [hs, List.cons_append] at number
  rw [write, hs, List.cons_append, readValue?, skipSpace_cons visible]
  -- Every other kind of value begins with a sign that no integer has.
  split
  case h_7 => simp [number]
  all_goals next he => exact absurd (List.cons.inj he).1 (apart _ (by decide))

theorem Reads.length_pos {s : List Char} {t : Tree} (h : Reads s t) : 0 < s.length := by
  obtain ⟨c, r, rfl, _⟩ := h.start
  exact Nat.succ_pos _

/-- A text that is read as a tree, and the tree understood as the value. -/
def Restores (s : List Char) (v : Json) : Prop := ∃ t, Reads s t ∧ t.toJson? = some v

theorem writeItems_cons_cons (v w : Json) (others : List Json) :
    writeItems (v :: w :: others) = write v ++ ',' :: writeItems (w :: others) := rfl

theorem exists_items {items : List Json} (written : items ≠ [])
    (each : ∀ v ∈ items, Restores (write v) v) :
    (∃ c r, writeItems items = c :: r ∧ isSpace c = false ∧ c ≠ ']') ∧
    ∃ trees, Tree.itemsToJson? trees = some items ∧
      ∀ fuel rest, 2 * (writeItems items).length ≤ fuel →
        readItems? (fuel + 1) (writeItems items ++ ']' :: rest) = some (trees, rest) := by
  induction items with
  | nil => exact absurd rfl written
  | cons v more ih =>
    obtain ⟨t, reads, value⟩ := each v List.mem_cons_self
    have positive := reads.length_pos
    have start := reads.start
    cases more with
    | nil =>
      refine ⟨start, [t], by simp [Tree.itemsToJson?, value], ?_⟩
      intro fuel rest enough
      rw [writeItems] at enough ⊢
      obtain ⟨k, rfl⟩ : ∃ k, fuel = k + 1 := ⟨fuel - 1, by omega⟩
      have item := reads.read k (']' :: rest) enough (ends_cons (by decide) rest)
      rw [readItems?, item]
      simp [skipSpace_cons (c := ']') rfl]
    | cons w others =>
      obtain ⟨_, trees, values, read⟩ := ih (List.cons_ne_nil _ _)
        fun u hu => each u (List.mem_cons_of_mem v hu)
      refine ⟨?_, t :: trees, by simp [Tree.itemsToJson?, value, values], ?_⟩
      · obtain ⟨c, r, hs, visible⟩ := start
        rw [writeItems_cons_cons, hs]
        exact ⟨c, _, rfl, visible⟩
      · intro fuel rest enough
        rw [writeItems_cons_cons, List.length_append, List.length_cons] at enough
        rw [writeItems_cons_cons, List.append_assoc, List.cons_append]
        -- The item and its comma are two signs or more, so the others find fuel enough.
        obtain ⟨k, rfl⟩ : ∃ k, fuel = k + 1 := ⟨fuel - 1, by omega⟩
        have item := reads.read k (',' :: (writeItems (w :: others) ++ ']' :: rest)) (by omega)
          (ends_cons (by decide) _)
        rw [readItems?, item]
        have others := read k rest (by omega)
        simp [skipSpace_cons (c := ',') rfl, others]

theorem writeMembers_cons_cons (m e : String × Json) (others : List (String × Json)) :
    writeMembers (m :: e :: others) =
      writeString m.1 ++ ':' :: (write m.2 ++ ',' :: writeMembers (e :: others)) := rfl

theorem writeString_append (s : String) (rest : List Char) :
    writeString s ++ rest = '"' :: (s.toList.flatMap writeChar ++ '"' :: rest) := by
  simp [writeString]

theorem exists_members {members : List (String × Json)} (written : members ≠ [])
    (each : ∀ m ∈ members, Restores (write m.2) m.2) :
    (∃ r, writeMembers members = '"' :: r) ∧
    ∃ trees, Tree.membersToJson? trees = some members ∧
      ∀ fuel rest, 2 * (writeMembers members).length ≤ fuel →
        readMembers? (fuel + 1) (writeMembers members ++ '}' :: rest) = some (trees, rest) := by
  induction members with
  | nil => exact absurd rfl written
  | cons m more ih =>
    obtain ⟨key, v⟩ := m
    obtain ⟨t, reads, value⟩ : Restores (write v) v := each _ List.mem_cons_self
    have positive := reads.length_pos
    cases more with
    | nil =>
      refine ⟨⟨_, rfl⟩, [(Piece.ofText key, t)],
        by simp [Tree.membersToJson?, text?_ofText, value], ?_⟩
      intro fuel rest enough
      rw [writeMembers, List.length_append, List.length_cons] at enough
      obtain ⟨k, rfl⟩ : ∃ k, fuel = k + 1 := ⟨fuel - 1, by omega⟩
      have member := reads.read k ('}' :: rest) (by omega) (ends_cons (by decide) rest)
      rw [writeMembers, List.append_assoc, List.cons_append, writeString_append, readMembers?,
        skipSpace_cons rfl]
      simp [readPieces?_written, skipSpace_cons (c := ':') rfl, skipSpace_cons (c := '}') rfl,
        member, Piece.ofText]
    | cons e others =>
      obtain ⟨_, trees, values, read⟩ := ih (List.cons_ne_nil _ _)
        fun u hu => each u (List.mem_cons_of_mem _ hu)
      refine ⟨⟨_, rfl⟩, (Piece.ofText key, t) :: trees,
        by simp [Tree.membersToJson?, text?_ofText, value, values], ?_⟩
      intro fuel rest enough
      rw [writeMembers_cons_cons] at enough ⊢
      simp only [List.length_append, List.length_cons] at enough
      obtain ⟨k, rfl⟩ : ∃ k, fuel = k + 1 := ⟨fuel - 1, by omega⟩
      have member := reads.read k (',' :: (writeMembers (e :: others) ++ '}' :: rest)) (by omega)
        (ends_cons (by decide) _)
      have others := read k rest (by omega)
      rw [List.append_assoc, List.cons_append, List.append_assoc, List.cons_append,
        writeString_append, readMembers?, skipSpace_cons rfl]
      simp [readPieces?_written, skipSpace_cons (c := ':') rfl, skipSpace_cons (c := ',') rfl,
        member, others, Piece.ofText]

theorem restores_array {items : List Json} (each : ∀ v ∈ items, Restores (write v) v) :
    Restores (write (.array items)) (.array items) := by
  by_cases written : items = []
  · subst written
    exact ⟨.array [], ⟨⟨'[', _, rfl, rfl, by decide⟩, fun _ _ _ _ => rfl⟩, rfl⟩
  · obtain ⟨⟨c, r, hs, visible, unclosed⟩, trees, values, read⟩ := exists_items written each
    refine ⟨.array trees, ⟨⟨'[', _, rfl, rfl, by decide⟩, ?_⟩, by simp [Tree.toJson?, values]⟩
    intro fuel rest enough _
    have text : write (.array items) ++ rest = '[' :: (writeItems items ++ ']' :: rest) := by
      simp [write]
    rw [write, List.length_cons, List.length_append] at enough
    obtain ⟨k, rfl⟩ : ∃ k, fuel = k + 1 := ⟨fuel - 1, by omega⟩
    have items := read k rest (by omega)
    rw [text, readValue?, skipSpace_cons rfl]
    rw [hs, List.cons_append] at items ⊢
    simp only [skipSpace_cons visible]
    split
    next he => exact absurd (List.cons.inj he).1 unclosed
    next => simp [items]

/-- An object whose members are restored one by one, in their order. -/
theorem exists_object {members : List (String × Json)}
    (each : ∀ m ∈ members, Restores (write m.2) m.2) :
    ∃ trees, Reads (write (.object members)) (.object trees) ∧
      Tree.membersToJson? trees = some members := by
  by_cases written : members = []
  · subst written
    exact ⟨[], ⟨⟨'{', _, rfl, rfl, by decide⟩, fun _ _ _ _ => rfl⟩, rfl⟩
  · obtain ⟨⟨r, hs⟩, trees, values, read⟩ := exists_members written each
    refine ⟨trees, ⟨⟨'{', _, rfl, rfl, by decide⟩, ?_⟩, values⟩
    intro fuel rest enough _
    have text : write (.object members) ++ rest = '{' :: (writeMembers members ++ '}' :: rest) := by
      simp [write]
    rw [write, List.length_cons, List.length_append] at enough
    obtain ⟨k, rfl⟩ : ∃ k, fuel = k + 1 := ⟨fuel - 1, by omega⟩
    have members := read k rest (by omega)
    rw [text, readValue?, skipSpace_cons rfl]
    rw [hs, List.cons_append] at members ⊢
    simp [skipSpace_cons (c := '"') rfl, members]

theorem objectOf_eq_self {members : List (String × Json)}
    (sorted : members.Pairwise fun a b => a.1 < b.1) : objectOf members = .object members := by
  rw [objectOf, KeyMap.ofList_entries ⟨members, sorted⟩]

/-- Every exact value is restored from its text. -/
theorem Exact.restores {v : Json} (h : Exact v) : Restores (write v) v := by
  induction h with
  | null => exact ⟨.null, reads_null, rfl⟩
  | bool b => exact ⟨.bool b, reads_bool b, rfl⟩
  | integer low high => exact ⟨_, reads_integer _, value?_integer low high⟩
  | string s => exact ⟨_, reads_string s, by simp [Tree.toJson?, text?_ofText]⟩
  | array _ ih => exact restores_array ih
  | object sorted _ ih =>
    obtain ⟨trees, reads, values⟩ := exists_object ih
    refine ⟨.object trees, reads, ?_⟩
    rw [Tree.toJson?, values, Option.map_some, objectOf_eq_self sorted]

theorem Tree.read?_of_reads {s : List Char} {t : Tree} (h : Reads s t) :
    Tree.read? (String.ofList s) = some t := by
  have whole := h.read (2 * s.length + 1) [] (by omega) ends_nil
  rw [List.append_nil] at whole
  rw [Tree.read?, String.toList_ofList, whole]
  rfl

end Listing.Json
