import Listing.Proofs.Query.Gathering

/-!
# The pairs of one field

When the pairs that were written for a field are read as this field, and as what. A key
that is written bare has to be plain, and in the comma format no text may hold a comma.
-/

namespace Listing

open Text

/-- A value without commas of its own that stands alone under a plain key is a text. -/
theorem Gathered.value_singleton {format : ArrayFormat} {key : String}
    (plain : KeyShape.of key = .plain key) (value : String) :
    (ofPairs format [(key, value)]).value =
      if Several format value then
        .list ((value.toList.splitOn ',').map fun part => .text (String.ofList part))
      else .text value := by
  by_cases several : Several format value
  · have items : itemsOf format (key, value) =
        (value.toList.splitOn ',').map fun part => (none, String.ofList part) := by
      simp [itemsOf, several, plain, KeyShape.index?]
    rw [if_pos several, value_of_pairwise]
    · simp [ofPairs, items, isListed, several, Function.comp_def]
    · simp only [ofPairs, List.flatMap_cons, List.flatMap_nil, List.append_nil, items,
        List.pairwise_map]
      exact List.pairwise_of_forall fun _ _ => Nat.le_refl _
  · have alone : ofPairs format [(key, value)] = ⟨[(none, value)], false⟩ := by
      simp [ofPairs, itemsOf, isListed, several, plain, KeyShape.index?, KeyShape.isItem]
    rw [if_neg several, alone]
    rfl

/-- Whole values that come in the order of their places are the items of a list. -/
theorem Gathered.value_items {format : ArrayFormat} {pairs : List (String × String)}
    (whole : ∀ p ∈ pairs, ¬Several format p.2)
    (sorted : pairs.Pairwise fun p q =>
      place ((KeyShape.of p.1).index?, p.2) ≤ place ((KeyShape.of q.1).index?, q.2))
    (list : 1 < pairs.length ∨ ∃ p ∈ pairs, (KeyShape.of p.1).isItem = true) :
    (ofPairs format pairs).value = .list (pairs.map fun p => .text p.2) := by
  have items : pairs.flatMap (itemsOf format) =
      pairs.map fun p => ((KeyShape.of p.1).index?, p.2) := by
    rw [List.map_eq_flatMap]
    refine List.flatMap_congr fun p hp => ?_
    rw [itemsOf, if_neg (whole p hp)]
  have isList : (pairs.any (isListed format) || decide (1 < pairs.length)) = true := by
    rcases list with long | ⟨p, hp, item⟩
    · simp [long]
    · have some : pairs.any (isListed format) = true :=
        List.any_eq_true.mpr ⟨p, hp, by simp [isListed, item]⟩
      simp [some]
  have same : ofPairs format pairs =
      ⟨pairs.map fun p => ((KeyShape.of p.1).index?, p.2), pairs.any (isListed format)⟩ := by
    rw [ofPairs, items]
  have ordered : (ofPairs format pairs).items.Pairwise fun a b => place a ≤ place b := by
    rw [same]
    exact List.pairwise_map.mpr sorted
  rw [value_of_pairwise ordered, same]
  simp only [List.length_map, isList, if_true, List.map_map]
  rfl

namespace FieldValue

/-- The single values that a value holds. -/
def scalars : FieldValue → List Scalar
  | .scalar s => [s]
  | .list items => items

/-- The value is written under its key as it is, without brackets. -/
def Bare (format : ArrayFormat) : FieldValue → Prop
  | .scalar _ => True
  | .list _ => format = .repeated ∨ format = .comma

/-- The key under which a value is written comes back as its key. -/
structure KeySurvives (format : ArrayFormat) (key : String) (value : FieldValue) : Prop where
  named : key ≠ ""
  plain : value.Bare format → KeyShape.of key = .plain key

/-- In the comma format the texts of a value hold no commas. -/
def TextsSurvive (format : ArrayFormat) (value : FieldValue) : Prop :=
  format = .comma → ∀ s ∈ value.scalars, ',' ∉ s.queryText.toList

variable {format : ArrayFormat} {key : String}

theorem fst_of_bare {value : FieldValue} (bare : value.Bare format) {p : String × String}
    (hp : p ∈ value.pairs format key) : p.1 = key := by
  cases value with
  | scalar s => rw [List.mem_singleton.mp hp]
  | list items =>
    cases items with
    | nil => exact absurd hp List.not_mem_nil
    | cons item rest =>
      rcases bare with rfl | rfl
      · obtain ⟨_, _, rfl⟩ := List.mem_map.mp hp
        rfl
      · rw [List.mem_singleton.mp hp]

theorem pairs_indices (items : List Scalar) :
    pairs .indices key (.list items) =
      items.zipIdx.map fun e => (s!"{key}[{e.2}]", e.1.queryText) := by
  cases items <;> rfl

theorem pairs_brackets (items : List Scalar) :
    pairs .brackets key (.list items) = items.map fun item => (s!"{key}[]", item.queryText) := by
  cases items <;> rfl

theorem pairs_repeated (items : List Scalar) :
    pairs .repeated key (.list items) = items.map fun item => (key, item.queryText) := by
  cases items <;> rfl

theorem pairs_comma {items : List Scalar} (written : items ≠ []) :
    pairs .comma key (.list items) = [(key, ",".intercalate (items.map Scalar.queryText))] := by
  cases items with
  | nil => exact absurd rfl written
  | cons item rest => rfl

theorem pairs_ne_nil {value : FieldValue} (h : value ≠ .list []) :
    value.pairs format key ≠ [] := by
  cases value with
  | scalar s => exact List.cons_ne_nil _ _
  | list items =>
    cases items with
    | nil => exact absurd rfl h
    | cons item rest => cases format <;> exact List.cons_ne_nil _ _

/-- All pairs of a surviving key are gathered under it. -/
theorem base_of_mem_pairs {value : FieldValue} (kept : KeySurvives format key value)
    (bounded : value.scalars.length ≤ Word.greatest) {p : String × String}
    (hp : p ∈ value.pairs format key) : (KeyShape.of p.1).base = key := by
  by_cases bare : value.Bare format
  · rw [fst_of_bare bare hp, kept.plain bare]
    rfl
  · cases value with
    | scalar s => exact absurd trivial bare
    | list items =>
      cases format with
      | indices =>
        rw [pairs_indices] at hp
        obtain ⟨e, he, rfl⟩ := List.mem_map.mp hp
        have index := List.snd_lt_of_mem_zipIdx he
        have fits : e.2 < UInt64.size := by
          simp only [scalars, Word.greatest] at bounded
          omega
        rw [KeyShape.of_indexed kept.named fits]
        rfl
      | brackets =>
        rw [pairs_brackets] at hp
        obtain ⟨item, _, rfl⟩ := List.mem_map.mp hp
        rw [KeyShape.of_appended kept.named]
        rfl
      | repeated => exact absurd (Or.inl rfl) bare
      | comma => exact absurd (Or.inr rfl) bare

/-- The items of a list as texts. -/
def texts (items : List Scalar) : List Scalar := items.map fun item => .text item.queryText

theorem wireForm?_list {items : List Scalar} (written : items ≠ [])
    (list : 1 < items.length ∨ format.collapsesSingletons = false) :
    wireForm? format (.list items) = some (.list (texts items)) := by
  cases items with
  | nil => exact absurd rfl written
  | cons item rest =>
    cases rest with
    | nil =>
      have apart := list.resolve_left (Nat.lt_irrefl 1)
      simp [wireForm?, apart, texts]
    | cons next others => rfl

theorem value_indices (named : key ≠ "") {items : List Scalar} (written : items ≠ [])
    (bounded : items.length ≤ Word.greatest) :
    (Gathered.ofPairs .indices (pairs .indices key (.list items))).value =
      .list (texts items) := by
  have shape {i : Nat} (hi : i < items.length) :
      KeyShape.of s!"{key}[{i}]" = .indexed key (UInt64.ofNat i) := by
    simp only [Word.greatest] at bounded
    exact KeyShape.of_indexed named (by omega)
  have place {i : Nat} (hi : i < items.length) (value : String) :
      Gathered.place ((KeyShape.of s!"{key}[{i}]").index?, value) = i := by
    simp only [Word.greatest] at bounded
    rw [shape hi]
    exact UInt64.toNat_ofNat_of_lt' (by omega)
  rw [pairs_indices, Gathered.value_items]
  · rw [List.map_map]
    have forget : (fun p : String × String => Scalar.text p.2) ∘
        (fun e : Scalar × Nat => (s!"{key}[{e.2}]", e.1.queryText)) =
        (fun item => .text item.queryText) ∘ Prod.fst := rfl
    rw [forget, ← List.map_map, List.zipIdx_map_fst]
    rfl
  · exact fun p _ several => absurd several.1 (by decide)
  · rw [List.pairwise_map, List.pairwise_iff_getElem]
    intro i j hi hj hij
    rw [List.length_zipIdx] at hi hj
    simp only [List.getElem_zipIdx, Nat.zero_add]
    rw [place hi, place hj]
    exact Nat.le_of_lt hij
  · obtain ⟨item, rest, rfl⟩ := List.exists_cons_of_ne_nil written
    refine Or.inr ⟨_, List.mem_map_of_mem (List.mem_cons_self), ?_⟩
    rw [shape (Nat.succ_pos _)]
    rfl

theorem value_brackets (named : key ≠ "") {items : List Scalar} (written : items ≠ []) :
    (Gathered.ofPairs .brackets (pairs .brackets key (.list items))).value =
      .list (texts items) := by
  rw [pairs_brackets, Gathered.value_items]
  · rw [List.map_map]
    rfl
  · exact fun p _ several => absurd several.1 (by decide)
  · rw [List.pairwise_map]
    refine List.pairwise_of_forall fun a b => ?_
    rw [KeyShape.of_appended named]
    exact Nat.le_refl _
  · obtain ⟨item, rest, rfl⟩ := List.exists_cons_of_ne_nil written
    refine Or.inr ⟨_, List.mem_map_of_mem (List.mem_cons_self), ?_⟩
    rw [KeyShape.of_appended named]
    rfl

theorem value_repeated (plain : KeyShape.of key = .plain key) {items : List Scalar}
    (several : 1 < items.length) :
    (Gathered.ofPairs .repeated (pairs .repeated key (.list items))).value =
      .list (texts items) := by
  rw [pairs_repeated, Gathered.value_items]
  · rw [List.map_map]
    rfl
  · exact fun p _ several => absurd several.1 (by decide)
  · rw [List.pairwise_map]
    refine List.pairwise_of_forall fun a b => ?_
    rw [plain]
    exact Nat.le_refl _
  · rw [List.length_map]
    exact Or.inl several

/-- Items that were joined by commas are told apart exactly if none of them holds a comma. -/
theorem value_comma_iff (plain : KeyShape.of key = .plain key) {items : List Scalar}
    (long : 1 < items.length) :
    (Gathered.ofPairs .comma (pairs .comma key (.list items))).value = .list (texts items) ↔
      ∀ s ∈ items, ',' ∉ s.queryText.toList := by
  have written : items ≠ [] := by
    rintro rfl
    exact absurd long (by decide)
  have joined : (",".intercalate (items.map Scalar.queryText)).toList =
      [','].intercalate (items.map fun s => s.queryText.toList) := by
    rw [String.toList_intercalate, List.map_map]
    rfl
  have several : Gathered.Several .comma (",".intercalate (items.map Scalar.queryText)) := by
    refine ⟨rfl, ?_⟩
    rw [joined]
    match items, long with
    | first :: second :: rest, _ =>
      rw [List.map_cons, List.map_cons, List.intercalate_cons_cons]
      simp
  have asTexts : texts items = (items.map fun s => s.queryText.toList).map
      fun part => .text (String.ofList part) := by
    simp [texts]
  have distinct {a b : List Char}
      (h : Scalar.text (String.ofList a) = Scalar.text (String.ofList b)) : a = b :=
    String.ofList_injective (Scalar.text.inj h)
  rw [pairs_comma written, Gathered.value_singleton plain, if_pos several, joined, asTexts,
    FieldValue.list.injEq, List.map_inj_right fun _ _ => distinct,
    splitOn_intercalate_eq_iff (by simpa using written), List.forall_mem_map]

/-- A scalar is read back as its text exactly if no comma in the text cuts it. -/
theorem value_scalar_iff (plain : KeyShape.of key = .plain key) (s : Scalar) :
    some (Gathered.ofPairs format (pairs format key (.scalar s))).value =
        wireForm? format (.scalar s) ↔
      (format = .comma → ',' ∉ s.queryText.toList) := by
  rw [pairs, wireForm?, Option.some_inj, Gathered.value_singleton plain]
  by_cases several : Gathered.Several format s.queryText
  · rw [if_pos several]
    constructor
    · intro h
      cases h
    · exact fun clean => absurd several.2 (clean several.1)
  · rw [if_neg several]
    constructor
    · exact fun _ comma hmem => several ⟨comma, hmem⟩
    · exact fun _ => rfl

/-- A list of one item that is written bare cannot be told from the item. -/
theorem pairs_lone (bare : format = .repeated ∨ format = .comma) (s : Scalar) :
    pairs format key (.list [s]) = pairs format key (.scalar s) := by
  rcases bare with rfl | rfl
  · rfl
  · rw [pairs_comma (List.cons_ne_nil s []), List.map_singleton, String.intercalate_singleton]
    rfl

theorem wireForm?_lone (bare : format = .repeated ∨ format = .comma) (s : Scalar) :
    wireForm? format (.list [s]) = wireForm? format (.scalar s) := by
  rcases bare with rfl | rfl <;> rfl

/-- What was written under a surviving key is read as what is left of the value exactly if
the texts survive, too. -/
theorem value_pairs_iff {value : FieldValue} (kept : KeySurvives format key value)
    (bounded : value.scalars.length ≤ Word.greatest) (written : value ≠ .list []) :
    some (Gathered.ofPairs format (value.pairs format key)).value = value.wireForm? format ↔
      value.TextsSurvive format := by
  cases value with
  | scalar s =>
    rw [value_scalar_iff (kept.plain trivial)]
    simp [TextsSurvive, scalars]
  | list items =>
    have full : items ≠ [] := by
      rintro rfl
      exact written rfl
    by_cases bare : format = .repeated ∨ format = .comma
    · have plain := kept.plain bare
      by_cases long : 1 < items.length
      · rw [wireForm?_list full (Or.inl long), Option.some_inj]
        rcases bare with rfl | rfl
        · simp [value_repeated plain long, TextsSurvive]
        · simp [value_comma_iff plain long, TextsSurvive, scalars]
      · obtain ⟨s, rfl⟩ := List.length_eq_one_iff.mp
          (Nat.le_antisymm (Nat.not_lt.mp long) (List.length_pos_of_ne_nil full))
        rw [pairs_lone bare, wireForm?_lone bare, value_scalar_iff plain]
        simp [TextsSurvive, scalars]
    · cases format with
      | indices =>
        rw [value_indices kept.named full bounded, wireForm?_list full (Or.inr rfl)]
        simp [TextsSurvive]
      | brackets =>
        rw [value_brackets kept.named full, wireForm?_list full (Or.inr rfl)]
        simp [TextsSurvive]
      | repeated => exact absurd (Or.inl rfl) bare
      | comma => exact absurd (Or.inr rfl) bare

end FieldValue

end Listing
