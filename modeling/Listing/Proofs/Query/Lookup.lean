import Listing.Proofs.Query.Rewriting

/-!
# Reading back one field

A scalar is read back under its own key as its text, whatever else the fields hold: keys that
cannot be taken apart put no pair under another key.
-/

namespace Listing

open Text

/-- Where a pair of a plain key belongs: under the key, or under one with brackets. -/
theorem FieldValue.base_of_mem_pairs_of_plain {format : ArrayFormat} {key : String}
    {value : FieldValue} (plain : KeyShape.of key = .plain key) {p : String × String}
    (hp : p ∈ value.pairs format key) :
    (KeyShape.of p.1).base = key ∨ '[' ∈ (KeyShape.of p.1).base.toList := by
  have bracketed (inner : List Char) (hi : '[' ∉ inner)
      (text : p.1 = String.ofList (key.toList ++ '[' :: (inner ++ [']']))) :
      (KeyShape.of p.1).base = key ∨ '[' ∈ (KeyShape.of p.1).base.toList := by
    rw [text]
    by_cases named : key.toList = []
    · right
      rw [KeyShape.of_bracketed hi, if_pos named]
      simp [KeyShape.base]
    · rcases KeyShape.base_of_bracketed named hi with base | same
      · left
        rw [base, String.ofList_toList]
      · right
        rw [same]
        simp [KeyShape.base]
  by_cases bare : value.Bare format
  · left
    rw [fst_of_bare bare hp, plain]
    rfl
  · cases value with
    | scalar s => exact absurd trivial bare
    | list items =>
      cases format with
      | indices =>
        rw [pairs_indices] at hp
        obtain ⟨e, _, rfl⟩ := List.mem_map.mp hp
        refine bracketed (Digits.write e.2) ?_ ?_
        · intro hmem
          exact absurd (Digits.isDigit_of_mem_write hmem) (by decide)
        · rw [← String.toList_inj]
          simp [toString, Digits.write]
      | brackets =>
        rw [pairs_brackets] at hp
        obtain ⟨item, _, rfl⟩ := List.mem_map.mp hp
        refine bracketed [] List.not_mem_nil ?_
        rw [← String.toList_inj]
        simp [toString]
      | repeated => exact absurd (Or.inl rfl) bare
      | comma => exact absurd (Or.inr rfl) bare

namespace Fields

variable {fields : Fields} {format : ArrayFormat} {key : String}

/-- Among plain keys a scalar without commas comes back as its text. -/
theorem get?_ofQuery_toLocation {s : Scalar}
    (plain : ∀ k, fields.contains k = true → KeyShape.of k = .plain k)
    (found : fields.get? key = some (.scalar s)) (named : key ≠ "") (bare : '[' ∉ key.toList)
    (whole : ',' ∉ s.queryText.toList) :
    (ofQuery (fields.toLocation format) format).get? key = some (.text s.queryText) := by
  have own : KeyShape.of key = .plain key := by
    apply plain
    rw [KeyMap.contains, found]
    rfl
  have apart : ∀ e ∈ fields.entries, e.1 ≠ key → pairsAt key (e.2.pairs format e.1) = [] := by
    intro e he hne
    have here := KeyMap.get?_eq_some_iff_mem.mpr he
    apply pairsAt_eq_nil
    intro p hp hbase
    have plain := plain e.1 (by rw [KeyMap.contains, here]; rfl)
    rcases FieldValue.base_of_mem_pairs_of_plain plain hp with base | brackets
    · exact hne (base.symm.trans hbase)
    · exact bare (hbase ▸ brackets)
  have only : pairsAt key (fields.pairs format) = [(key, s.queryText)] := by
    have there : fields.entries.lookup key = some (.scalar s) := found
    rw [pairs, pairsAt_flatMap_of_apart fields.sorted apart, there, Option.map_some,
      Option.getD_some]
    apply pairsAt_eq_self
    rintro p hp
    obtain rfl := List.mem_singleton.mp hp
    refine ⟨named, ?_⟩
    rw [own]
    rfl
  have alone : ¬Gathered.Several format s.queryText := fun several => whole several.2
  rw [ofQuery_toLocation, ofQuery_toQuery, get?_ofPairs, only, if_neg (List.cons_ne_nil _ _),
    Gathered.value_singleton own, if_neg alone]

end Fields

end Listing
