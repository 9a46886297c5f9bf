import Listing.Proofs.Text.Parts
import Listing.Proofs.Text.Utf8
import Listing.Text.FormPairs

/-!
# Reading back form-encoded pairs

Every list of pairs is read back from its written form, whatever the texts hold. A part of
a pair comes first: its bytes return one character at a time. Then the separators, which
no written part contains, cut the text where the writer joined it.
-/

namespace Listing.Text

namespace Percent

theorem unescape_cons {b : UInt8} (h : b ≠ 0x25) (r : List UInt8) :
    unescape (b :: r) = b :: unescape r := by
  rw [unescape.eq_def]
  simp [h]

theorem hexDigit_toNat_lt {n : Nat} (h : n < 16) : (hexDigit n).toNat < 0x80 := by
  interval_cases n <;> decide

theorem hexValue?_hexDigit {n : Nat} (h : n < 16) :
    hexValue? (UInt8.ofNat (hexDigit n).toNat) = some n := by
  interval_cases n <;> rfl

theorem hexDigit_isAlphanum {n : Nat} (h : n < 16) : (hexDigit n).isAlphanum = true := by
  interval_cases n <;> decide

end Percent

namespace Utf8

theorem encode_append (s t : List Char) : encode (s ++ t) = encode s ++ encode t :=
  List.flatMap_append

theorem encode_cons_of_lt {c : Char} (h : c.toNat < 0x80) (s : List Char) :
    encode (c :: s) = UInt8.ofNat c.toNat :: encode s := by
  have size : c.val.toNat = c.toNat := rfl
  have one : c.toNat ≤ 0x7F := by omega
  simp [encode, String.utf8EncodeChar, size, one]

/-- Bytes of characters below U+0080 differ as the characters do. -/
theorem ofNat_toNat_ne {c d : Char} (hc : c.toNat < 0x80) (hd : d.toNat < 0x80) (h : c ≠ d) :
    UInt8.ofNat c.toNat ≠ UInt8.ofNat d.toNat := by
  intro he
  have hn := congrArg UInt8.toNat he
  simp only [UInt8.toNat_ofNat'] at hn
  refine h (Char.toNat_inj.mp ?_)
  omega

theorem mem_encode_of_lt {s : List Char} (h : ∀ c ∈ s, c.toNat < 0x80) {b : UInt8}
    (hb : b ∈ encode s) : ∃ c ∈ s, b = UInt8.ofNat c.toNat := by
  induction s with
  | nil => simp [encode] at hb
  | cons c r ih =>
    rw [encode_cons_of_lt (h c List.mem_cons_self)] at hb
    rcases List.mem_cons.mp hb with rfl | hb
    · exact ⟨c, List.mem_cons_self, rfl⟩
    · obtain ⟨d, hd, rfl⟩ := ih (fun e he => h e (List.mem_cons_of_mem c he)) hb
      exact ⟨d, List.mem_cons_of_mem c hd, rfl⟩

end Utf8

namespace FormPairs

theorem isPlain_iff {c : Char} : isPlain c = true ↔
    c.isAlphanum = true ∨ c = '*' ∨ c = '-' ∨ c = '.' ∨ c = '_' := by
  simp [isPlain, or_assoc]

theorem toNat_of_isAlphanum {c : Char} (h : c.isAlphanum = true) :
    (65 ≤ c.toNat ∧ c.toNat ≤ 90) ∨ (97 ≤ c.toNat ∧ c.toNat ≤ 122) ∨
      (48 ≤ c.toNat ∧ c.toNat ≤ 57) := by
  rcases (Bool.or_eq_true _ _).mp h with letter | digit
  · rcases (Bool.or_eq_true _ _).mp letter with upper | lower
    · exact Or.inl (of_decide_eq_true upper)
    · obtain ⟨low, high⟩ := (Bool.and_eq_true _ _).mp lower
      exact Or.inr (Or.inl ⟨of_decide_eq_true low, of_decide_eq_true high⟩)
  · exact Or.inr (Or.inr (Char.isDigit_iff_toNat.mp digit))

/-- The characters of written names and values. -/
def IsWritten (c : Char) : Prop := isPlain c = true ∨ c = '+' ∨ c = '%'

theorem IsWritten.lt {c : Char} (h : IsWritten c) : c.toNat < 0x80 := by
  rcases h with h | rfl | rfl
  · rcases isPlain_iff.mp h with h | rfl | rfl | rfl | rfl
    · have := toNat_of_isAlphanum h
      omega
    all_goals decide
  · decide
  · decide

/-- Characters with a meaning of their own stand only where the writer put them. -/
theorem IsWritten.ne {c d : Char} (h : IsWritten c) (hd : d ∈ ['&', '=', '?']) : c ≠ d := by
  rintro rfl
  simp only [List.mem_cons, List.not_mem_nil, or_false] at hd
  rcases hd with rfl | rfl | rfl <;> exact absurd h (by unfold IsWritten; decide)

theorem isWritten_escape (b : UInt8) : ∀ c ∈ Percent.escape b, IsWritten c := by
  have bound : b.toNat < 256 := b.toNat_lt
  intro c hc
  simp only [Percent.escape, List.mem_cons, List.not_mem_nil, or_false] at hc
  rcases hc with rfl | rfl | rfl
  · exact Or.inr (Or.inr rfl)
  · exact Or.inl (isPlain_iff.mpr (Or.inl (Percent.hexDigit_isAlphanum (by omega))))
  · exact Or.inl (isPlain_iff.mpr (Or.inl (Percent.hexDigit_isAlphanum (by omega))))

theorem encode_cons (c : Char) (s : List Char) :
    encode (c :: s) = encode [c] ++ encode s := by
  simp [encode]

theorem encode_space : encode [' '] = ['+'] := rfl

theorem encode_plain {c : Char} (h : isPlain c = true) : encode [c] = [c] := by
  have hc : c ≠ ' ' := by rintro rfl; exact absurd h (by decide)
  simp [encode, Percent.encode, hc, h]

theorem encode_escaped {c : Char} (h : isPlain c = false) (hc : c ≠ ' ') :
    encode [c] = (String.utf8EncodeChar c).flatMap Percent.escape := by
  simp [encode, Percent.encode, hc, h]

theorem isWritten_of_mem_encode {s : List Char} : ∀ c ∈ encode s, IsWritten c := by
  induction s with
  | nil => simp [encode]
  | cons d r ih =>
    intro c hc
    rw [encode_cons] at hc
    rcases List.mem_append.mp hc with hc | hc
    · by_cases space : d = ' '
      · subst space
        rw [encode_space] at hc
        exact Or.inr (Or.inl (List.mem_singleton.mp hc))
      · cases plain : isPlain d with
        | true =>
          rw [encode_plain plain] at hc
          exact Or.inl (List.mem_singleton.mp hc ▸ plain)
        | false =>
          rw [encode_escaped plain space] at hc
          obtain ⟨b, _, hb⟩ := List.mem_flatMap.mp hc
          exact isWritten_escape b c hb
    · exact ih c hc

/-- What a written part stands for, as bytes. -/
def meaning (s : List UInt8) : List UInt8 :=
  Percent.unescape (s.map fun b => if b = 0x2B then 0x20 else b)

theorem decode_eq_meaning (s : List UInt8) :
    decode s = String.ofList (Utf8.decode (meaning s)) := rfl

theorem meaning_cons {b : UInt8} (plus : b ≠ 0x2B) (percent : b ≠ 0x25) (r : List UInt8) :
    meaning (b :: r) = b :: meaning r := by
  rw [meaning, List.map_cons, if_neg plus, Percent.unescape_cons percent]
  rfl

theorem meaning_plus (r : List UInt8) : meaning (0x2B :: r) = 0x20 :: meaning r := by
  rw [meaning, List.map_cons, if_pos rfl, Percent.unescape_cons (by decide)]
  rfl

/-- The digits of an escape are no plus signs, so the escape is still whole when it is undone. -/
theorem meaning_escape (b : UInt8) (r : List UInt8) :
    meaning (Utf8.encode (Percent.escape b) ++ r) = b :: meaning r := by
  have bound : b.toNat < 256 := b.toNat_lt
  have high : b.toNat / 16 < 16 := by omega
  have low : b.toNat % 16 < 16 := by omega
  have digit {n : Nat} (hn : n < 16) : UInt8.ofNat (Percent.hexDigit n).toNat ≠ 0x2B := by
    have ne : Percent.hexDigit n ≠ '+' := by
      intro he
      exact absurd (he ▸ Percent.hexDigit_isAlphanum hn) (by decide)
    exact Utf8.ofNat_toNat_ne (Percent.hexDigit_toNat_lt hn) (by decide) ne
  have value : UInt8.ofNat (b.toNat / 16 * 16 + b.toNat % 16) = b := by
    rw [Nat.div_add_mod', UInt8.ofNat_toNat]
  have bytes : Utf8.encode (Percent.escape b) = [0x25,
      UInt8.ofNat (Percent.hexDigit (b.toNat / 16)).toNat,
      UInt8.ofNat (Percent.hexDigit (b.toNat % 16)).toNat] := by
    rw [Percent.escape, Utf8.encode_cons_of_lt (by decide),
      Utf8.encode_cons_of_lt (Percent.hexDigit_toNat_lt high),
      Utf8.encode_cons_of_lt (Percent.hexDigit_toNat_lt low)]
    rfl
  rw [bytes, meaning]
  simp only [List.cons_append, List.nil_append, List.map_cons, if_neg (digit high),
    if_neg (digit low), if_neg (show (0x25 : UInt8) ≠ 0x2B by decide)]
  rw [Percent.unescape, if_pos rfl]
  simp only [Percent.hexValue?_hexDigit high, Percent.hexValue?_hexDigit low, value]
  rfl

theorem meaning_escapes (bs r : List UInt8) :
    meaning (Utf8.encode (bs.flatMap Percent.escape) ++ r) = bs ++ meaning r := by
  induction bs with
  | nil => rfl
  | cons b rest ih =>
    rw [List.flatMap_cons, Utf8.encode_append, List.append_assoc, meaning_escape, ih]
    rfl

/-- A written character means the bytes of the character. -/
theorem meaning_encode_singleton (c : Char) (r : List UInt8) :
    meaning (Utf8.encode (encode [c]) ++ r) = String.utf8EncodeChar c ++ meaning r := by
  by_cases space : c = ' '
  · subst space
    exact meaning_plus r
  · cases plain : isPlain c with
    | true =>
      have lt : c.toNat < 0x80 := IsWritten.lt (Or.inl plain)
      have plus : c ≠ '+' := by rintro rfl; exact absurd plain (by decide)
      have percent : c ≠ '%' := by rintro rfl; exact absurd plain (by decide)
      have bytes : String.utf8EncodeChar c = [UInt8.ofNat c.toNat] := by
        simpa [Utf8.encode] using Utf8.encode_cons_of_lt lt []
      rw [encode_plain plain, Utf8.encode_cons_of_lt lt, bytes]
      exact meaning_cons (Utf8.ofNat_toNat_ne lt (by decide) plus)
        (Utf8.ofNat_toNat_ne lt (by decide) percent) r
    | false =>
      rw [encode_escaped plain space]
      exact meaning_escapes _ r

theorem meaning_encode (s : List Char) : meaning (Utf8.encode (encode s)) = Utf8.encode s := by
  induction s with
  | nil => rfl
  | cons c r ih =>
    rw [encode_cons, Utf8.encode_append, meaning_encode_singleton, ih]
    rfl

/-- A written name or value is read as it was. -/
theorem decode_encode (s : String) : decode (Utf8.encode (encode s.toList)) = s := by
  rw [decode_eq_meaning, meaning_encode, Utf8.decode_encode, String.ofList_toList]

theorem encode_intercalate (parts : List (List Char)) :
    Utf8.encode (['&'].intercalate parts) = [0x26].intercalate (parts.map Utf8.encode) := by
  induction parts with
  | nil => rfl
  | cons part rest ih =>
    cases rest with
    | nil => simp
    | cons next others =>
      simp only [List.map_cons] at ih ⊢
      rw [List.intercalate_cons_cons, List.intercalate_cons_cons, Utf8.encode_append,
        Utf8.encode_append, ih]
      rfl

/-- The bytes of a written part are none of the separators. -/
theorem ne_of_mem_written {s : List Char} {b : UInt8} (hb : b ∈ Utf8.encode (encode s))
    {d : Char} (hd : d ∈ ['&', '=', '?']) : b ≠ UInt8.ofNat d.toNat := by
  obtain ⟨c, hc, rfl⟩ :=
    Utf8.mem_encode_of_lt (fun c hc => (isWritten_of_mem_encode c hc).lt) hb
  have written := isWritten_of_mem_encode c hc
  have lt : d.toNat < 0x80 := by
    simp only [List.mem_cons, List.not_mem_nil, or_false] at hd
    rcases hd with rfl | rfl | rfl <;> decide
  exact Utf8.ofNat_toNat_ne written.lt lt (written.ne hd)

theorem bytes_encodePair (p : String × String) :
    Utf8.encode (encodePair p) =
      Utf8.encode (encode p.1.toList) ++ 0x3D :: Utf8.encode (encode p.2.toList) := by
  rw [encodePair, Utf8.encode_append]
  rfl

theorem decodePair_encodePair (p : String × String) :
    decodePair (Utf8.encode (encodePair p)) = p := by
  have name : ∀ b ∈ Utf8.encode (encode p.1.toList), decide (b ≠ 0x3D) = true :=
    fun b hb => decide_eq_true (ne_of_mem_written (d := '=') hb (by simp))
  have stop : decide ((0x3D : UInt8) ≠ 0x3D) = false := rfl
  rw [decodePair, bytes_encodePair, List.takeWhile_append_of_pos name,
    List.dropWhile_append_of_pos name, List.takeWhile_cons, List.dropWhile_cons, stop]
  simp [decode_encode]

theorem ampersand_notMem_encodePair (p : String × String) :
    (0x26 : UInt8) ∉ Utf8.encode (encodePair p) := by
  rw [bytes_encodePair]
  intro hmem
  rcases List.mem_append.mp hmem with hb | hb
  · exact ne_of_mem_written (d := '&') hb (by simp) rfl
  · rcases List.mem_cons.mp hb with hb | hb
    · exact absurd hb (by decide)
    · exact ne_of_mem_written (d := '&') hb (by simp) rfl

/-- All pairs are read as they were written. -/
theorem read_write (pairs : List (String × String)) : read (write pairs) = pairs := by
  rw [read, write, String.toList_ofList, encode_intercalate]
  cases pairs with
  | nil => rfl
  | cons p rest =>
    have clean : ∀ part ∈ ((p :: rest).map encodePair).map Utf8.encode,
        (0x26 : UInt8) ∉ part := by
      intro part hpart
      rw [List.map_map] at hpart
      obtain ⟨q, _, rfl⟩ := List.mem_map.mp hpart
      exact ampersand_notMem_encodePair q
    have full : ∀ part ∈ ((p :: rest).map encodePair).map Utf8.encode,
        decide (part ≠ []) = true := by
      intro part hpart
      rw [List.map_map] at hpart
      obtain ⟨q, _, rfl⟩ := List.mem_map.mp hpart
      simp [bytes_encodePair]
    rw [List.splitOn_intercalate _ clean (by simp), List.filter_eq_self.mpr full,
      List.map_map, List.map_map]
    have same : (decodePair ∘ Utf8.encode) ∘ encodePair = id := by
      funext q
      exact decodePair_encodePair q
    rw [same, List.map_id]

/-- What is written never starts with a question mark. -/
theorem head?_write_ne (pairs : List (String × String)) :
    (write pairs).toList.head? ≠ some '?' := by
  rw [write, String.toList_ofList]
  cases pairs with
  | nil => simp
  | cons p rest =>
    have first (t : List Char) : (encodePair p ++ t).head? ≠ some '?' := by
      rw [encodePair, List.append_assoc]
      cases he : encode p.1.toList with
      | nil => simp
      | cons c r =>
        have hc : c ∈ encode p.1.toList := he ▸ List.mem_cons_self
        simpa using (isWritten_of_mem_encode c hc).ne (d := '?') (by simp)
    cases rest with
    | nil => simpa using first []
    | cons q others =>
      rw [List.map_cons, List.map_cons, List.intercalate_cons_cons, List.append_assoc]
      exact first _

end FormPairs

end Listing.Text
