import Listing.Proofs.Query.Rewriting

/-!
# What is left of fields that were written

The wire form of fields is their normal form for writing: it is written as they are, and
nothing gets lost from it. What was read from a query is in this form already where a list of
one item can be told from the item, so such fields come back from their own query.
-/

namespace Listing

open Text

namespace FieldValue

variable {format : ArrayFormat} {key : String}

/-- Items that are texts are kept as they are. -/
theorem texts_map_text {α : Type} (f : α → String) (l : List α) :
    texts (l.map fun a => .text (f a)) = l.map fun a => .text (f a) := by
  rw [texts, List.map_map]
  rfl

/-- Of a value nothing is left, or its one text, or the list of its texts. -/
theorem wireForm?_cases (format : ArrayFormat) (value : FieldValue) :
    value = .list [] ∨
    (∃ s, value = .scalar s ∨
      value = .list [s] ∧ (format = .repeated ∨ format = .comma)) ∨
    ∃ items, value = .list items ∧ items ≠ [] ∧
      (1 < items.length ∨ format.collapsesSingletons = false) := by
  cases value with
  | scalar s => exact Or.inr (Or.inl ⟨s, Or.inl rfl⟩)
  | list items =>
    match items with
    | [] => exact Or.inl rfl
    | [s] =>
      cases format with
      | indices => exact Or.inr (Or.inr ⟨[s], rfl, List.cons_ne_nil _ _, Or.inr rfl⟩)
      | brackets => exact Or.inr (Or.inr ⟨[s], rfl, List.cons_ne_nil _ _, Or.inr rfl⟩)
      | repeated => exact Or.inr (Or.inl ⟨s, Or.inr ⟨rfl, Or.inl rfl⟩⟩)
      | comma => exact Or.inr (Or.inl ⟨s, Or.inr ⟨rfl, Or.inr rfl⟩⟩)
    | s :: t :: rest =>
      have long : 1 < (s :: t :: rest).length := by simp
      exact Or.inr (Or.inr ⟨_, rfl, List.cons_ne_nil _ _, Or.inl long⟩)

/-- The wire form of a value is written as the value. -/
theorem pairs_wireForm? (value : FieldValue) :
    ((value.wireForm? format).map fun wire => wire.pairs format key).getD [] =
      value.pairs format key := by
  rcases wireForm?_cases format value with rfl | ⟨s, rfl | ⟨rfl, bare⟩⟩ | ⟨items, rfl, full, list⟩
  · rfl
  · rfl
  · rw [wireForm?_lone bare, pairs_lone bare]
    rfl
  · rw [wireForm?_list full list, Option.map_some, Option.getD_some, pairs_texts]

/-- Nothing gets lost from a wire form. -/
theorem wireForm?_wireForm? (value : FieldValue) :
    (value.wireForm? format).bind (wireForm? format) = value.wireForm? format := by
  rcases wireForm?_cases format value with rfl | ⟨s, rfl | ⟨rfl, bare⟩⟩ | ⟨items, rfl, full, list⟩
  · rfl
  · rfl
  · rw [wireForm?_lone bare]
    rfl
  · have full' : texts items ≠ [] := by simpa [texts] using full
    have list' : 1 < (texts items).length ∨ format.collapsesSingletons = false := by
      simpa [texts] using list
    have again : texts (texts items) = texts items := texts_map_text Scalar.queryText items
    rw [wireForm?_list full list, Option.bind_some, wireForm?_list full' list', again]

/-- A value that was read is its own wire form where lists of one item are kept. -/
theorem wireForm?_value {g : Gathered} (read : g.items ≠ [])
    (kept : format.collapsesSingletons = false) : g.value.wireForm? format = some g.value := by
  have written := Gathered.value_ne_list_nil read
  unfold Gathered.value at written ⊢
  split at written
  next list =>
    rw [if_pos list]
    have full := fun none => written (congrArg FieldValue.list none)
    rw [wireForm?_list full (Or.inr kept), texts_map_text]
  next text =>
    rw [if_neg text]
    rfl

end FieldValue

namespace Fields

open FieldValue

variable {format : ArrayFormat}

theorem toQuery_wireForm (fields : Fields) :
    (fields.wireForm format).toQuery format = fields.toQuery format := by
  rw [toQuery_eq_iff, wireForm, pairs_filterMap, pairs]
  exact List.flatMap_congr fun e _ => pairs_wireForm? e.2

theorem wireForm_wireForm (fields : Fields) :
    (fields.wireForm format).wireForm format = fields.wireForm format := by
  apply KeyMap.ext_get?
  intro key
  simp only [wireForm, KeyMap.get?_filterMap, Option.bind_assoc, wireForm?_wireForm?]

/-- Fields that were read are their own wire form where lists of one item are kept. -/
theorem wireForm_ofPairs (pairs : List (String × String))
    (kept : format.collapsesSingletons = false) :
    (ofPairs format pairs).wireForm format = ofPairs format pairs := by
  apply KeyMap.ext_get?
  intro key
  rw [wireForm, KeyMap.get?_filterMap, get?_ofPairs]
  split
  next => rfl
  next some => exact wireForm?_value (Gathered.items_ofPairs_ne_nil some) kept

section

variable {fields : Fields}
  (bounded : ∀ key value, fields.get? key = some value →
    value.scalars.length ≤ Word.greatest)
  (kept : ∀ e ∈ fields.entries, e.2 ≠ .list [] → KeySurvives format e.1 e.2)

include bounded kept

/-- Fields whose keys and texts all survive are read as their wire form. -/
theorem ofPairs_pairs_eq_wireForm (texts : ∀ e ∈ fields.entries, e.2.TextsSurvive format) :
    ofPairs format (fields.pairs format) = fields.wireForm format := by
  apply KeyMap.ext_get?
  intro key
  rw [get?_ofPairs_of_keySurvives bounded kept, wireForm, KeyMap.get?_filterMap]
  cases found : fields.get? key with
  | none => rfl
  | some value =>
    have here := KeyMap.get?_eq_some_iff_mem.mp found
    by_cases empty : value = .list []
    · subst empty
      rfl
    · rw [Option.bind_some, Option.bind_some, if_neg empty]
      exact (value_pairs_iff (kept _ here empty) (bounded _ _ found) empty).mpr (texts _ here)

/-- In the comma format a text with a comma comes back in parts. -/
theorem ofPairs_pairs_ne_wireForm (comma : format = .comma) {key : String} {value : FieldValue}
    (found : fields.get? key = some value) {s : Scalar} (hs : s ∈ value.scalars)
    (cut : ',' ∈ s.queryText.toList) :
    ofPairs format (fields.pairs format) ≠ fields.wireForm format := by
  intro same
  have here := KeyMap.get?_eq_some_iff_mem.mp found
  have written : value ≠ .list [] := by
    rintro rfl
    exact absurd hs List.not_mem_nil
  have answer := congrArg (KeyMap.get? · key) same
  simp only [get?_ofPairs_of_keySurvives bounded kept, wireForm, KeyMap.get?_filterMap, found,
    Option.bind_some, if_neg written] at answer
  have whole := (value_pairs_iff (kept _ here written) (bounded _ _ found) written).mp answer
  exact whole comma s hs cut

end

/-- Where items are numbered or in brackets, fields that were read from a query come back
from their own query. The brackets that a key has kept are no matter, since only lists stand
under such a key and their items end it in brackets of their own. A query of more bytes than
a machine word can number would be too long to be a text. -/
theorem ofQuery_toQuery_ofQuery (query : String) {format : ArrayFormat}
    (numbered : format = .indices ∨ format = .brackets)
    (fits : query.utf8ByteSize ≤ Word.greatest) :
    ofQuery ((ofQuery query format).toQuery format) format = ofQuery query format := by
  have notBare : ¬(format = .repeated ∨ format = .comma) := by
    rcases numbered with rfl | rfl <;> decide
  have kept : format.collapsesSingletons = false := by
    rcases numbered with rfl | rfl <;> rfl
  have whole : (ofQuery query format).KeysWhole format := fun bare => absurd bare notBare
  rw [ofQuery_toQuery, ofPairs_pairs_eq_wireForm]
  · exact wireForm_ofPairs _ kept
  · intro key value found
    exact (length_scalars_ofQuery_le found).trans fits
  · intro e he _
    exact keySurvives_of_get?_ofPairs whole (KeyMap.get?_eq_some_iff_mem.mpr he)
  · intro e _ comma
    exact absurd (Or.inr comma) notBare

/-- Brackets without partners, in each other and around what is no number, repeated keys and a
broken escape are read, written and read alike. -/
theorem ofQuery_toQuery_ofQuery_of_brackets :
    let query := "?m[0][1]=x&m[0][]=y&a[]]=%zz&[2]=1&t[][]=&t[]=%FF&t=u,v&=lost"
    query.utf8ByteSize ≤ Word.greatest ∧
    ofQuery ((ofQuery query .indices).toQuery .indices) .indices = ofQuery query .indices ∧
    ofQuery ((ofQuery query .brackets).toQuery .brackets) .brackets = ofQuery query .brackets := by
  intro query
  have fits : query.utf8ByteSize ≤ Word.greatest := by decide
  exact ⟨fits, ofQuery_toQuery_ofQuery query (Or.inl rfl) fits,
    ofQuery_toQuery_ofQuery query (Or.inr rfl) fits⟩

/-- The wire form is written as the fields are and is its own wire form. Where all keys
survive, fields that were written are read and written alike once more, also if a comma in a
text keeps them from being read as their wire form. -/
theorem wireForm_is_normal_form (fields : Fields) (format : ArrayFormat) :
    (fields.wireForm format).toQuery format = fields.toQuery format ∧
    (fields.wireForm format).wireForm format = fields.wireForm format ∧
    ((∀ key value, fields.get? key = some value → value.scalars.length ≤ Word.greatest) →
      (∀ key value, fields.get? key = some value → value ≠ .list [] →
        KeySurvives format key value) →
      (ofQuery (fields.toQuery format) format).toQuery format = fields.toQuery format ∧
      (format = .comma →
        (∃ key value, fields.get? key = some value ∧
          ∃ s ∈ value.scalars, ',' ∈ s.queryText.toList) →
        ofQuery (fields.toQuery format) format ≠ fields.wireForm format)) := by
  refine ⟨toQuery_wireForm fields, wireForm_wireForm fields, ?_⟩
  intro bounded survives
  have kept : ∀ e ∈ fields.entries, e.2 ≠ .list [] → KeySurvives format e.1 e.2 :=
    fun e he => survives e.1 e.2 (KeyMap.get?_eq_some_iff_mem.mpr he)
  rw [ofQuery_toQuery, toQuery_eq_iff]
  constructor
  · exact pairs_ofPairs_of_keySurvives bounded kept
  · rintro comma ⟨key, value, found, s, hs, cut⟩
    exact ofPairs_pairs_ne_wireForm bounded kept comma found hs cut

/-- Texts that begin and end with a comma and an empty one between them are joined alike again,
and a list that was not written may have any key. -/
theorem wireForm_is_normal_form_with_commas :
    let fields : Fields :=
      ((∅ : Fields).insert "tags" (.list [.text "a,", .null, .text ",b"])).insert "" (.list [])
    (∀ key value, fields.get? key = some value → value.scalars.length ≤ Word.greatest) ∧
    (∀ key value, fields.get? key = some value → value ≠ .list [] →
      KeySurvives .comma key value) ∧
    (ofQuery (fields.toQuery .comma) .comma).toQuery .comma = fields.toQuery .comma ∧
    ofQuery (fields.toQuery .comma) .comma ≠ fields.wireForm .comma := by
  intro fields
  have only {key : String} {value : FieldValue} (found : fields.get? key = some value) :
      value = .list [] ∨ key = "tags" ∧ value = .list [.text "a,", .null, .text ",b"] := by
    rw [KeyMap.get?_insert, KeyMap.get?_insert] at found
    split at found
    · exact Or.inl (Option.some_inj.mp found).symm
    · split at found
      next hk => exact Or.inr ⟨hk, (Option.some_inj.mp found).symm⟩
      next => cases found
  have bounded : ∀ key value, fields.get? key = some value →
      value.scalars.length ≤ Word.greatest := by
    intro key value found
    rcases only found with rfl | ⟨_, rfl⟩ <;> decide
  have survives : ∀ key value, fields.get? key = some value → value ≠ .list [] →
      KeySurvives .comma key value := by
    intro key value found written
    rcases only found with rfl | ⟨rfl, _⟩
    · exact absurd rfl written
    · exact ⟨by decide, fun _ => by decide⟩
  have here : fields.get? "tags" = some (.list [.text "a,", .null, .text ",b"]) := by
    rw [KeyMap.get?_insert, KeyMap.get?_insert, if_neg (by decide), if_pos rfl]
  obtain ⟨_, _, again⟩ := wireForm_is_normal_form fields .comma
  obtain ⟨written, cut⟩ := again bounded survives
  refine ⟨bounded, survives, written, cut rfl ⟨"tags", _, here, .text "a,", ?_, by decide⟩⟩
  exact List.mem_cons_self

end Fields

end Listing
