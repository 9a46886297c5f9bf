import Listing.Proofs.Query.Extent
import Listing.Proofs.Query.RoundTrip

/-!
# Queries that are read and written again

A query that was written from fields may be read and written once more. It stays the same
where all keys survive. Formats that number or bracket the items of a list keep every key
that was read from a query; the bare formats lose the last brackets of a key each time.
-/

namespace Listing

open Text

namespace KeyShape

theorem eq_of_plain {key k : String} (h : of key = .plain k) : k = key := by
  by_cases plain : of key = .plain key
  · rw [plain] at h
    exact (KeyShape.plain.inj h).symm
  · obtain ⟨base, inner, hb, hi, rfl⟩ := exists_brackets_of_ne_plain plain
    rw [of_bracketed hi, if_neg hb] at h plain
    by_cases empty : inner = []
    · rw [if_pos empty] at h
      cases h
    · rw [if_neg empty] at h plain
      cases digits : Digits.readWord? 10 inner with
      | none => exact False.elim (plain (by rw [digits]; rfl))
      | some index =>
        rw [digits] at h
        cases h

/-- A key whose value is no item of a list is its own base. -/
theorem of_base_of_not_isItem {key : String} (h : (of key).isItem = false) :
    of (of key).base = .plain (of key).base := by
  cases shape : of key with
  | plain k =>
    have same := eq_of_plain shape
    subst same
    exact shape
  | appended base => rw [shape] at h; cases h
  | indexed base index => rw [shape] at h; cases h

end KeyShape

namespace Gathered

theorem itemsOf_ne_nil (format : ArrayFormat) (p : String × String) : itemsOf format p ≠ [] := by
  unfold itemsOf
  split
  · simp
  · exact List.cons_ne_nil _ _

theorem items_ofPairs_ne_nil {format : ArrayFormat} {pairs : List (String × String)}
    (h : pairs ≠ []) : (ofPairs format pairs).items ≠ [] := by
  obtain ⟨p, rest, rfl⟩ := List.exists_cons_of_ne_nil h
  intro none
  exact itemsOf_ne_nil format p (List.append_eq_nil_iff.mp none).1

theorem value_ne_list_nil {g : Gathered} (h : g.items ≠ []) : g.value ≠ .list [] := by
  unfold value
  split
  · intro empty
    have none := List.map_eq_nil_iff.mp (FieldValue.list.inj empty)
    have length := congrArg List.length none
    rw [List.length_mergeSort] at length
    exact h (List.length_eq_zero_iff.mp length)
  · intro scalar
    cases scalar

/-- A value that is read as a scalar comes from no item of a list. -/
theorem isItem_of_value_scalar {format : ArrayFormat} {pairs : List (String × String)}
    {s : Scalar} (h : (ofPairs format pairs).value = .scalar s) {p : String × String}
    (hp : p ∈ pairs) : (KeyShape.of p.1).isItem = false := by
  unfold value at h
  split at h
  next => cases h
  next single =>
    have listed : pairs.any (isListed format) = false := by
      rw [← Bool.not_eq_true]
      intro some
      exact single (by simp [ofPairs, some])
    have here := List.any_eq_false.mp listed p hp
    simp only [isListed, Bool.or_eq_true, not_or, Bool.not_eq_true] at here
    exact here.2

end Gathered

namespace FieldValue

variable {format : ArrayFormat} {key : String}

theorem bare_of_format (h : format = .repeated ∨ format = .comma) (value : FieldValue) :
    value.Bare format := by
  cases value with
  | scalar s => trivial
  | list items => exact h

/-- Writing does not tell an item from its text. -/
theorem pairs_texts (items : List Scalar) :
    pairs format key (.list (texts items)) = pairs format key (.list items) := by
  have same : Scalar.queryText ∘ (fun item : Scalar => .text item.queryText) =
      Scalar.queryText := rfl
  cases items with
  | nil => rfl
  | cons item rest =>
    cases format with
    | indices =>
      rw [pairs_indices, pairs_indices, texts, List.zipIdx_map, List.map_map]
      rfl
    | brackets =>
      rw [pairs_brackets, pairs_brackets, texts, List.map_map]
      rfl
    | repeated =>
      rw [pairs_repeated, pairs_repeated, texts, List.map_map]
      rfl
    | comma =>
      rw [pairs_comma (List.cons_ne_nil _ _), pairs_comma (by simp [texts]), texts, List.map_map,
        same]

theorem pairs_value_scalar (plain : KeyShape.of key = .plain key) (text : String) :
    ((Gathered.ofPairs format [(key, text)]).value).pairs format key = [(key, text)] := by
  rw [Gathered.value_singleton plain]
  by_cases several : Gathered.Several format text
  · obtain rfl : format = .comma := several.1
    have parts : (text.toList.splitOn ',').map (fun part => Scalar.text (String.ofList part)) ≠
        [] := by
      simp
    have joined : ",".intercalate (((text.toList.splitOn ',').map fun part =>
        Scalar.text (String.ofList part)).map Scalar.queryText) = text := by
      have same : (String.toList ∘ Scalar.queryText) ∘
          (fun part => Scalar.text (String.ofList part)) = id := by
        funext part
        exact String.toList_ofList
      rw [← String.toList_inj, String.toList_intercalate, List.map_map, List.map_map, same,
        List.map_id]
      exact List.intercalate_splitOn ','
    rw [if_pos several, pairs_comma parts, joined]
  · rw [if_neg several]
    rfl

/-- A surviving key and what is read under it are written as before. -/
theorem pairs_value_pairs {value : FieldValue} (kept : KeySurvives format key value)
    (bounded : value.scalars.length ≤ Word.greatest) (written : value ≠ .list []) :
    ((Gathered.ofPairs format (value.pairs format key)).value).pairs format key =
      value.pairs format key := by
  cases value with
  | scalar s => exact pairs_value_scalar (kept.plain trivial) s.queryText
  | list items =>
    have full : items ≠ [] := by
      rintro rfl
      exact written rfl
    cases format with
    | indices => rw [value_indices kept.named full bounded, pairs_texts]
    | brackets => rw [value_brackets kept.named full, pairs_texts]
    | comma =>
      rw [pairs_comma full]
      exact pairs_value_scalar (kept.plain (Or.inr rfl)) _
    | repeated =>
      have plain := kept.plain (Or.inl rfl)
      by_cases long : 1 < items.length
      · rw [value_repeated plain long, pairs_texts]
      · obtain ⟨s, rfl⟩ := List.length_eq_one_iff.mp
          (Nat.le_antisymm (Nat.not_lt.mp long) (List.length_pos_of_ne_nil full))
        exact pairs_value_scalar plain s.queryText

end FieldValue

namespace Fields

open FieldValue

variable {fields : Fields} {format : ArrayFormat}

/-- Fields are written alike exactly if their pairs are. -/
theorem toQuery_eq_iff {a b : Fields} :
    a.toQuery format = b.toQuery format ↔ a.pairs format = b.pairs format := by
  constructor
  · intro same
    have read := congrArg FormPairs.read same
    rwa [toQuery, toQuery, FormPairs.read_write, FormPairs.read_write] at read
  · exact fun same => congrArg FormPairs.write same

theorem pairs_filterMap (change : String → FieldValue → Option FieldValue) :
    pairs (fields.filterMap change) format = fields.entries.flatMap fun e =>
      ((change e.1 e.2).map fun value => value.pairs format e.1).getD [] := by
  have entries : (fields.filterMap change).entries =
      fields.entries.flatMap fun e => ((change e.1 e.2).map (e.1, ·)).toList :=
    List.filterMap_eq_flatMap_toList _ _
  rw [pairs, entries, List.flatMap_assoc]
  refine List.flatMap_congr fun e _ => ?_
  cases change e.1 e.2 with
  | none => rfl
  | some value => simp

/-- Where all keys survive, what is read is written as it was. -/
theorem pairs_ofPairs_of_keySurvives
    (bounded : ∀ key value, fields.get? key = some value → value.scalars.length ≤ Word.greatest)
    (kept : ∀ e ∈ fields.entries, e.2 ≠ .list [] → KeySurvives format e.1 e.2) :
    (ofPairs format (fields.pairs format)).pairs format = fields.pairs format := by
  have read : ofPairs format (fields.pairs format) = fields.filterMap fun key value =>
      if value = .list [] then none
      else some (Gathered.ofPairs format (value.pairs format key)).value := by
    refine KeyMap.ext_get? fun key => ?_
    rw [get?_ofPairs_of_keySurvives bounded kept, KeyMap.get?_filterMap]
  rw [read, pairs_filterMap, pairs]
  refine List.flatMap_congr fun e he => ?_
  by_cases empty : e.2 = .list []
  · rw [if_pos empty, empty]
    rfl
  · rw [if_neg empty, Option.map_some, Option.getD_some]
    exact pairs_value_pairs (kept e he empty)
      (bounded _ _ (KeyMap.get?_eq_some_iff_mem.mpr he)) empty

/-- In a bare format a key that is taken apart comes back only from a longer one, which is
taken apart, too. -/
theorem exists_longer_of_pairs_eq (bare : format = .repeated ∨ format = .comma)
    (same : (ofPairs format (fields.pairs format)).pairs format = fields.pairs format)
    {e : String × FieldValue} (he : e ∈ fields.entries) (written : e.2 ≠ .list [])
    (lost : KeyShape.of e.1 ≠ .plain e.1) :
    ∃ e' ∈ fields.entries, (e'.2 ≠ .list [] ∧ KeyShape.of e'.1 ≠ .plain e'.1) ∧
      e.1.length < e'.1.length := by
  have full : e.2.pairs format e.1 ≠ [] := pairs_ne_nil written
  obtain ⟨p, hp⟩ := List.exists_mem_of_ne_nil _ full
  have here : p ∈ fields.pairs format := List.mem_flatMap.mpr ⟨e, he, hp⟩
  rw [← same] at here
  obtain ⟨r, hr, hpr⟩ := List.mem_flatMap.mp here
  have key : r.1 = e.1 :=
    (fst_of_bare (bare_of_format bare _) hpr).symm.trans (fst_of_bare (bare_of_format bare _) hp)
  have read := KeyMap.get?_eq_some_iff_mem.mpr hr
  rw [get?_ofPairs, key] at read
  have some : pairsAt e.1 (fields.pairs format) ≠ [] := by
    intro none
    rw [if_pos none] at read
    cases read
  obtain ⟨q, hq⟩ := List.exists_mem_of_ne_nil _ some
  obtain ⟨hmem, hbase⟩ := List.mem_filter.mp hq
  obtain ⟨_, hbase⟩ := of_decide_eq_true hbase
  obtain ⟨e', he', hq'⟩ := List.mem_flatMap.mp hmem
  rw [fst_of_bare (bare_of_format bare _) hq'] at hbase
  have lost' : KeyShape.of e'.1 ≠ .plain e'.1 := by
    intro plain
    rw [plain] at hbase
    rw [← hbase] at lost
    exact lost plain
  exact ⟨e', he', ⟨ne_of_mem_pairs hq', lost'⟩, hbase ▸ (KeyShape.base_of_ne_plain lost').2⟩

theorem plain_of_pairs_eq (bare : format = .repeated ∨ format = .comma)
    (same : (ofPairs format (fields.pairs format)).pairs format = fields.pairs format) :
    ∀ e ∈ fields.entries, e.2 ≠ .list [] → KeyShape.of e.1 = .plain e.1 := by
  have none_lost : ∀ e ∈ fields.entries,
      ¬(e.2 ≠ .list [] ∧ KeyShape.of e.1 ≠ .plain e.1) := by
    refine not_of_climb (fun e => e.1.length) ?_
    rintro e he ⟨written, lost⟩
    exact exists_longer_of_pairs_eq bare same he written lost
  intro e he written
  exact not_not.mp fun lost => none_lost e he ⟨written, lost⟩

theorem ne_list_nil_of_get?_ofPairs {pairs : List (String × String)} {key : String}
    {value : FieldValue} (found : (ofPairs format pairs).get? key = some value) :
    value ≠ .list [] := by
  rw [get?_ofPairs] at found
  split at found
  next => cases found
  next some =>
    cases found
    exact Gathered.value_ne_list_nil (Gathered.items_ofPairs_ne_nil some)

/-- Keys are whole that a bare format does not take apart. The other formats end the key of
every item in brackets of its own, so they take no brackets from the key itself. -/
def KeysWhole (format : ArrayFormat) (fields : Fields) : Prop :=
  format = .repeated ∨ format = .comma →
    ∀ key value, fields.get? key = some value → KeyShape.of key = .plain key

/-- A key that was read survives if it is whole. Nothing has to be known about a scalar: it
is read only under a key that cannot be taken apart. -/
theorem keySurvives_of_get?_ofPairs {pairs : List (String × String)} {key : String}
    {value : FieldValue} (whole : KeysWhole format (ofPairs format pairs))
    (found : (ofPairs format pairs).get? key = some value) : KeySurvives format key value := by
  have plain := fun bare => whole bare key value found
  rw [get?_ofPairs] at found
  split at found
  next => cases found
  next some =>
    obtain ⟨p, hp⟩ := List.exists_mem_of_ne_nil _ some
    obtain ⟨_, at_key⟩ := List.mem_filter.mp hp
    obtain ⟨named, hbase⟩ := of_decide_eq_true at_key
    refine ⟨hbase ▸ KeyShape.base_ne_empty named, fun bare => ?_⟩
    cases value with
    | list items => exact plain bare
    | scalar s =>
      have item := Gathered.isItem_of_value_scalar (Option.some_inj.mp found) hp
      exact hbase ▸ KeyShape.of_base_of_not_isItem item

/-- A query that was read and written is written alike the next time exactly if its keys are
whole. -/
theorem toQuery_ofQuery_toQuery_iff (query : String) (format : ArrayFormat)
    (fits : query.utf8ByteSize ≤ Word.greatest) :
    (ofQuery ((ofQuery query format).toQuery format) format).toQuery format =
        (ofQuery query format).toQuery format ↔
      (ofQuery query format).KeysWhole format := by
  rw [ofQuery_toQuery, toQuery_eq_iff]
  constructor
  · intro same bare key value found
    exact plain_of_pairs_eq bare same (key, value) (KeyMap.get?_eq_some_iff_mem.mp found)
      (ne_list_nil_of_get?_ofPairs found)
  · intro whole
    refine pairs_ofPairs_of_keySurvives ?_ ?_
    · intro key value found
      exact (length_scalars_ofQuery_le found).trans fits
    · intro e he _
      exact keySurvives_of_get?_ofPairs whole (KeyMap.get?_eq_some_iff_mem.mpr he)

theorem toList_questionMark_append (query : String) :
    ("?" ++ query).toList = '?' :: query.toList := by
  simp

theorem toLocation_eq_iff {a b : Fields} :
    a.toLocation format = b.toLocation format ↔ a.toQuery format = b.toQuery format := by
  constructor
  · intro same
    have texts := congrArg String.toList same
    unfold toLocation at texts
    by_cases ha : a.toQuery format = ""
    · by_cases hb : b.toQuery format = ""
      · rw [ha, hb]
      · rw [if_pos ha, if_neg hb, toList_questionMark_append] at texts
        cases texts
    · by_cases hb : b.toQuery format = ""
      · rw [if_neg ha, if_pos hb, toList_questionMark_append] at texts
        cases texts
      · rw [if_neg ha, if_neg hb, toList_questionMark_append, toList_questionMark_append] at texts
        exact String.toList_inj.mp (List.cons.inj texts).2
  · intro same
    rw [toLocation, toLocation, same]

/-- The question mark of a location does not count when it is read. -/
theorem ofQuery_toLocation (fields : Fields) (format : ArrayFormat) :
    ofQuery (fields.toLocation format) format = ofQuery (fields.toQuery format) format := by
  rw [toLocation]
  by_cases empty : fields.toQuery format = ""
  · rw [if_pos empty, empty]
  · rw [if_neg empty, ofQuery_toQuery, ofQuery, toList_questionMark_append]
    change ofPairs format (FormPairs.read (String.ofList (fields.toQuery format).toList)) = _
    rw [String.ofList_toList, toQuery, FormPairs.read_write]
    rfl

end Fields

end Listing
