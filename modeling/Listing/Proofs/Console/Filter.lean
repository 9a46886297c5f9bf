import Listing.Console.Filter
import Listing.Proofs.Query.Pairs
import Mathlib.Data.List.Pairwise

/-!
# Filters as a query

A filter reads as a key and a value, and filters together mean what the query of their pairs
means. Both sides are the same function of the values of each key: the console promotes a text
to a list when its key comes again, and reading a query counts what it gathered.
-/

namespace Listing

open Text

namespace FieldValue

/-- What the values of one key are together. -/
def ofTexts? : List String → Option FieldValue
  | [] => none
  | [value] => some (.text value)
  | values => some (.list (values.map .text))

/-- One more value next to what a key has. -/
def withText (held : Option FieldValue) (value : String) : FieldValue :=
  match held with
  | some (.scalar first) => .list [first, .text value]
  | some (.list items) => .list (items ++ [.text value])
  | none => .text value

/-- One more value makes a text a list, and a list longer. -/
theorem ofTexts?_append (values : List String) (value : String) :
    ofTexts? (values ++ [value]) = some (withText (ofTexts? values) value) := by
  cases values with
  | nil => rfl
  | cons first rest =>
    cases rest with
    | nil => rfl
    | cons second others => simp [ofTexts?, withText]

end FieldValue

namespace Filter

/-- A key that can be given on a command line and stands for itself in a query. -/
structure Usable (key : String) : Prop where
  named : key ≠ ""
  unsplit : '=' ∉ key.toList
  trimmed : trim key = key
  plain : KeyShape.of key = .plain key

/-- The filter as it is given. -/
def raw (f : Filter) : String := f.key ++ "=" ++ f.value

def pair (f : Filter) : String × String := (f.key, f.value)

/-- The values of one key, in their order. -/
def valuesAt (key : String) (filters : List Filter) : List String :=
  (filters.filter (·.key = key)).map (·.value)

theorem read_raw {f : Filter} (usable : Usable f.key) : read f.raw = .ok f := by
  have given : f.raw.toList = f.key.toList ++ '=' :: f.value.toList := by
    simp [raw]
  have before : ∀ c ∈ f.key.toList, decide (c ≠ '=') = true := by
    intro c hc
    apply decide_eq_true
    rintro rfl
    exact usable.unsplit hc
  have stop : decide ('=' ≠ '=') = false := rfl
  have key : String.ofList (trimmed f.key.toList) = f.key := usable.trimmed
  have named : trimmed f.key.toList ≠ [] := by
    intro empty
    rw [empty] at key
    exact usable.named key.symm
  rw [read, given, List.takeWhile_append_of_pos before, List.dropWhile_append_of_pos before,
    List.takeWhile_cons, List.dropWhile_cons, stop]
  simp [named, key]

theorem valuesAt_append (key : String) (filters : List Filter) (f : Filter) :
    valuesAt key (filters ++ [f]) =
      valuesAt key filters ++ if f.key = key then [f.value] else [] := by
  by_cases same : f.key = key
  · simp [valuesAt, same]
  · simp [valuesAt, same]

theorem get?_add (fields : Fields) (f : Filter) (key : String) :
    (add fields f).get? key =
      if key = f.key then some (.withText (fields.get? f.key) f.value) else fields.get? key := by
  rw [add, KeyMap.get?_insert]
  cases fields.get? f.key with
  | none => rfl
  | some held => cases held <;> rfl

/-- What the console holds under a key is what the values of the key are together. -/
theorem get?_fields (filters : List Filter) (key : String) :
    (fields filters).get? key = FieldValue.ofTexts? (valuesAt key filters) := by
  induction filters using List.reverseRecOn with
  | nil => rfl
  | append_singleton filters f ih =>
    have step : fields (filters ++ [f]) = add (fields filters) f := by
      rw [fields, List.foldl_append]
      rfl
    rw [step, get?_add, valuesAt_append]
    by_cases same : key = f.key
    · subst same
      rw [if_pos rfl, if_pos rfl, FieldValue.ofTexts?_append, ih]
    · rw [if_neg same, if_neg (Ne.symm same), List.append_nil, ih]

/-- Plain keys gather the pairs of their own filters. -/
theorem pairsAt_pair {filters : List Filter} (usable : ∀ f ∈ filters, Usable f.key)
    (key : String) :
    pairsAt key (filters.map pair) = (filters.filter (·.key = key)).map pair := by
  rw [pairsAt, List.filter_map]
  apply congrArg (List.map pair)
  apply List.filter_congr
  intro f hf
  have own : (KeyShape.of f.key).base = f.key := by
    rw [(usable f hf).plain]
    rfl
  simp [pair, own, (usable f hf).named]

/-- Plain keys give their values no place, so what is gathered stays in order. -/
theorem value_ofPairs {filters : List Filter} (given : filters ≠ [])
    (plain : ∀ f ∈ filters, KeyShape.of f.key = .plain f.key) :
    FieldValue.ofTexts? (filters.map (·.value)) =
      (Gathered.ofPairs .repeated (filters.map pair)).value := by
  have whole (value : String) : ¬Gathered.Several .repeated value := fun several =>
    absurd several.1 (by decide)
  cases filters with
  | nil => exact absurd rfl given
  | cons f rest =>
    -- A pair that is alone is a text; from two on the count makes them a list.
    cases rest with
    | nil =>
      have alone : (Gathered.ofPairs .repeated [f.pair]).value = _ :=
        Gathered.value_singleton (plain f List.mem_cons_self) f.value
      rw [if_neg (whole f.value)] at alone
      exact congrArg some alone.symm
    | cons g others =>
      have unplaced : ∀ h ∈ f :: g :: others, (KeyShape.of h.key).index? = none := by
        intro h hh
        rw [plain h hh]
        rfl
      rw [Gathered.value_items]
      · simp [FieldValue.ofTexts?, pair]
      · exact fun p _ => whole p.2
      · rw [List.pairwise_map]
        apply List.pairwise_of_forall_mem_list
        intro h hh k hk
        rw [pair, pair, unplaced h hh, unplaced k hk]
        exact Nat.le_refl _
      · left
        simp

/-- What a query of usable keys holds under a key is the same. -/
theorem get?_ofPairs {filters : List Filter} (usable : ∀ f ∈ filters, Usable f.key)
    (key : String) :
    (Fields.ofPairs .repeated (filters.map pair)).get? key =
      FieldValue.ofTexts? (valuesAt key filters) := by
  rw [Fields.get?_ofPairs, pairsAt_pair usable, valuesAt]
  by_cases none : filters.filter (·.key = key) = []
  · rw [none]
    rfl
  · have written : (filters.filter (·.key = key)).map pair ≠ [] := by
      rwa [ne_eq, List.map_eq_nil_iff]
    rw [if_neg written, value_ofPairs none]
    exact fun f hf => (usable f (List.mem_filter.mp hf).1).plain

/-- Filters with usable keys are read as they were given, and are the query of their pairs. A
key that is given once has a text, and a key that is given more than once has the list of its
values in their order. -/
theorem fields_eq_ofQuery (filters : List Filter) (usable : ∀ f ∈ filters, Usable f.key) :
    (∀ f ∈ filters, read f.raw = .ok f) ∧
      fields filters = Fields.ofQuery (FormPairs.write (filters.map pair)) .repeated ∧
      (∀ key value, valuesAt key filters = [value] →
        (fields filters).get? key = some (.text value)) ∧
      ∀ key, 1 < (valuesAt key filters).length →
        (fields filters).get? key = some (.list ((valuesAt key filters).map .text)) := by
  refine ⟨fun f hf => read_raw (usable f hf), ?_, ?_, ?_⟩
  · rw [Fields.ofQuery_write]
    apply KeyMap.ext_get?
    intro key
    rw [get?_fields, get?_ofPairs usable]
  · intro key value once
    rw [get?_fields, once]
    rfl
  · intro key more
    rw [get?_fields]
    cases values : valuesAt key filters with
    | nil => simp [values] at more
    | cons first rest =>
      cases rest with
      | nil => simp [values] at more
      | cons second others => rfl

/-- A tag that is given twice, with a name between. -/
theorem fields_eq_ofQuery_of_tags :
    let filters : List Filter := [⟨"tag", "a"⟩, ⟨"name", "x=1&y"⟩, ⟨"tag", "b,c"⟩]
    (∀ f ∈ filters, Usable f.key) ∧
      fields filters = Fields.ofQuery "tag=a&name=x%3D1%26y&tag=b%2Cc" .repeated ∧
      (fields filters).get? "name" = some (.text "x=1&y") ∧
      (fields filters).get? "tag" = some (.list [.text "a", .text "b,c"]) := by
  intro filters
  have usable : ∀ f ∈ filters, Usable f.key := by
    intro f hf
    have key : f.key = "tag" ∨ f.key = "name" := by
      simp only [filters, List.mem_cons, List.not_mem_nil, or_false] at hf
      rcases hf with rfl | rfl | rfl
      · exact Or.inl rfl
      · exact Or.inr rfl
      · exact Or.inl rfl
    rcases key with key | key
    · rw [key]
      exact ⟨by decide, by decide, by decide, by decide⟩
    · rw [key]
      exact ⟨by decide, by decide, by decide, by decide⟩
  obtain ⟨_, query, once, more⟩ := fields_eq_ofQuery filters usable
  have written : FormPairs.write (filters.map pair) = "tag=a&name=x%3D1%26y&tag=b%2Cc" := by
    decide +kernel
  rw [written] at query
  exact ⟨usable, query, once "name" _ (by decide), more "tag" (by decide)⟩

end Filter

end Listing
