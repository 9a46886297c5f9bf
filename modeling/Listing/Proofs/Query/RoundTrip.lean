import Listing.Proofs.Query.Pairs

/-!
# Fields that survive their query

Fields are read from their own query as their wire form exactly if the key and the texts of
every field survive. No two keys make up for each other: the longest key that does not
survive would have to be made up for by a longer one.
-/

namespace Listing

/-- Where each bad element leads to a greater one there are no bad elements. -/
theorem not_of_climb {α : Type} {l : List α} {bad : α → Prop} (size : α → Nat)
    (climb : ∀ a ∈ l, bad a → ∃ b ∈ l, bad b ∧ size a < size b) : ∀ a ∈ l, ¬bad a := by
  intro a ha hbad
  have reach : ∀ n, ∃ b ∈ l, bad b ∧ n ≤ size b := by
    intro n
    induction n with
    | zero => exact ⟨a, ha, hbad, Nat.zero_le _⟩
    | succ n ih =>
      obtain ⟨b, hb, hbadb, hn⟩ := ih
      obtain ⟨c, hc, hbadc, hlt⟩ := climb b hb hbadb
      exact ⟨c, hc, hbadc, by omega⟩
  obtain ⟨b, hb, _, hn⟩ := reach (((l.map size).max?.getD 0) + 1)
  have top : size b ≤ (l.map size).max?.getD 0 :=
    List.le_max?_getD_of_mem (List.mem_map_of_mem hb)
  omega

namespace FieldValue

theorem wireForm?_ne_none {value : FieldValue} (written : value ≠ .list [])
    (format : ArrayFormat) : value.wireForm? format ≠ none := by
  cases value with
  | scalar s => simp [wireForm?]
  | list items =>
    cases items with
    | nil => exact absurd rfl written
    | cons item rest => cases rest <;> simp [wireForm?]

theorem ne_of_mem_pairs {format : ArrayFormat} {key : String} {value : FieldValue}
    {p : String × String} (hp : p ∈ value.pairs format key) : value ≠ .list [] := by
  rintro rfl
  exact absurd hp List.not_mem_nil

/-- Of a key with a name, only brackets that are taken for those of an item get lost. -/
theorem bare_of_not_keySurvives {format : ArrayFormat} {key : String} {value : FieldValue}
    (named : key ≠ "") (lost : ¬KeySurvives format key value) :
    value.Bare format ∧ KeyShape.of key ≠ .plain key := by
  by_cases bare : value.Bare format
  · exact ⟨bare, fun plain => lost ⟨named, fun _ => plain⟩⟩
  · exact False.elim (lost ⟨named, fun h => absurd h bare⟩)

end FieldValue

namespace Fields

open FieldValue

variable {fields : Fields} {format : ArrayFormat}

/-- Entries that put nothing under a key do not count for it. -/
theorem pairsAt_flatMap_of_apart {key : String} {l : List (String × FieldValue)}
    (sorted : l.Pairwise fun a b => a.1 < b.1)
    (apart : ∀ e ∈ l, e.1 ≠ key → pairsAt key (e.2.pairs format e.1) = []) :
    pairsAt key (l.flatMap fun e => e.2.pairs format e.1) =
      ((l.lookup key).map fun value => pairsAt key (value.pairs format key)).getD [] := by
  induction l with
  | nil => rfl
  | cons e rest ih =>
    obtain ⟨k, value⟩ := e
    obtain ⟨first, others⟩ := List.pairwise_cons.mp sorted
    rw [List.flatMap_cons, pairsAt_append, KeyMap.lookup_cons_eq_if,
      ih others fun e he => apart e (List.mem_cons_of_mem _ he)]
    by_cases hk : key = k
    · subst hk
      simp [KeyMap.lookup_of_forall_lt first]
    · simp [hk, apart _ List.mem_cons_self (Ne.symm hk)]

/-- Where every pair is gathered under its own key, a key gets the pairs of its field. -/
theorem pairsAt_flatMap {l : List (String × FieldValue)}
    (sorted : l.Pairwise fun a b => a.1 < b.1)
    (own : ∀ e ∈ l, ∀ p ∈ e.2.pairs format e.1, p.1 ≠ "" ∧ (KeyShape.of p.1).base = e.1)
    (key : String) :
    pairsAt key (l.flatMap fun e => e.2.pairs format e.1) =
      ((l.lookup key).map fun value => value.pairs format key).getD [] := by
  have apart : ∀ e ∈ l, e.1 ≠ key → pairsAt key (e.2.pairs format e.1) = [] := by
    intro e he hne
    exact pairsAt_eq_nil fun p hp base => hne ((own e he p hp).2.symm.trans base)
  rw [pairsAt_flatMap_of_apart sorted apart]
  cases found : l.lookup key with
  | none => rfl
  | some value =>
    have member := (KeyMap.lookup_eq_some_iff_mem sorted).mp found
    exact pairsAt_eq_self (own _ member)

/-- If the fields are read as their wire form, something was read under each of their keys. -/
theorem exists_pair_at (read : ofPairs format (fields.pairs format) = fields.wireForm format)
    {key : String} {value : FieldValue} (hv : fields.get? key = some value)
    (written : value ≠ .list []) :
    ∃ e ∈ fields.entries, ∃ p ∈ e.2.pairs format e.1,
      p.1 ≠ "" ∧ (KeyShape.of p.1).base = key := by
  have answer := congrArg (KeyMap.get? · key) read
  simp only [wireForm, KeyMap.get?_filterMap, hv, Option.bind_some, get?_ofPairs] at answer
  have some_pair : pairsAt key (fields.pairs format) ≠ [] := by
    intro none
    rw [if_pos none] at answer
    exact wireForm?_ne_none written format answer.symm
  obtain ⟨p, hp⟩ := List.exists_mem_of_ne_nil _ some_pair
  obtain ⟨hmem, hkey⟩ := List.mem_filter.mp hp
  obtain ⟨e, he, hpe⟩ := List.mem_flatMap.mp hmem
  exact ⟨e, he, p, hpe, of_decide_eq_true hkey⟩

theorem ne_empty_of_read (read : ofPairs format (fields.pairs format) = fields.wireForm format)
    {e : String × FieldValue} (he : e ∈ fields.entries) (written : e.2 ≠ .list []) :
    e.1 ≠ "" := by
  obtain ⟨_, _, p, _, named, hbase⟩ :=
    exists_pair_at read (KeyMap.get?_eq_some_iff_mem.mpr he) written
  exact hbase ▸ KeyShape.base_ne_empty named

section

variable (bounded : ∀ key value, fields.get? key = some value →
  value.scalars.length ≤ Word.greatest)

include bounded

/-- What was read under a key that did not survive came from a longer key, which did not
survive either. -/
theorem exists_longer_lost (read : ofPairs format (fields.pairs format) = fields.wireForm format)
    {e : String × FieldValue} (he : e ∈ fields.entries) (written : e.2 ≠ .list [])
    (lost : ¬KeySurvives format e.1 e.2) :
    ∃ e' ∈ fields.entries, (e'.2 ≠ .list [] ∧ ¬KeySurvives format e'.1 e'.2) ∧
      e.1.length < e'.1.length := by
  have answer : fields.get? e.1 = some e.2 := KeyMap.get?_eq_some_iff_mem.mpr he
  obtain ⟨e', he', p, hp, _, hbase⟩ := exists_pair_at read answer written
  have answer' : fields.get? e'.1 = some e'.2 := KeyMap.get?_eq_some_iff_mem.mpr he'
  have written' : e'.2 ≠ .list [] := ne_of_mem_pairs hp
  have lost' : ¬KeySurvives format e'.1 e'.2 := by
    intro kept
    have hkey : e'.1 = e.1 :=
      (base_of_mem_pairs kept (bounded _ _ answer') hp).symm.trans hbase
    have hvalue : e'.2 = e.2 := by
      rw [hkey, answer] at answer'
      exact (Option.some_inj.mp answer').symm
    exact lost (hkey ▸ hvalue ▸ kept)
  obtain ⟨bare, not_plain⟩ := bare_of_not_keySurvives (ne_empty_of_read read he' written') lost'
  rw [fst_of_bare bare hp] at hbase
  exact ⟨e', he', ⟨written', lost'⟩, hbase ▸ (KeyShape.base_of_ne_plain not_plain).2⟩

/-- If the fields are read as their wire form, all their keys survived. -/
theorem keySurvives_of_read
    (read : ofPairs format (fields.pairs format) = fields.wireForm format) :
    ∀ e ∈ fields.entries, e.2 ≠ .list [] → KeySurvives format e.1 e.2 := by
  have none_lost : ∀ e ∈ fields.entries,
      ¬(e.2 ≠ .list [] ∧ ¬KeySurvives format e.1 e.2) := by
    refine not_of_climb (fun e => e.1.length) ?_
    rintro e he ⟨written, lost⟩
    exact exists_longer_lost bounded read he written lost
  intro e he written
  exact not_not.mp fun lost => none_lost e he ⟨written, lost⟩

/-- What is read under the keys of fields whose keys survive. -/
theorem get?_ofPairs_of_keySurvives
    (kept : ∀ e ∈ fields.entries, e.2 ≠ .list [] → KeySurvives format e.1 e.2)
    (key : String) :
    (ofPairs format (fields.pairs format)).get? key = (fields.get? key).bind fun value =>
      if value = .list [] then none
      else some (Gathered.ofPairs format (value.pairs format key)).value := by
  have own : ∀ e ∈ fields.entries, ∀ p ∈ e.2.pairs format e.1,
      p.1 ≠ "" ∧ (KeyShape.of p.1).base = e.1 := by
    intro e he p hp
    have kept := kept e he (ne_of_mem_pairs hp)
    have hbase := base_of_mem_pairs kept
      (bounded _ _ (KeyMap.get?_eq_some_iff_mem.mpr he)) hp
    refine ⟨?_, hbase⟩
    intro hp
    rw [hp] at hbase
    exact kept.named hbase.symm
  have found : pairsAt key (fields.pairs format) =
      ((fields.get? key).map fun value => value.pairs format key).getD [] :=
    pairsAt_flatMap fields.sorted own key
  rw [get?_ofPairs, found]
  cases fields.get? key with
  | none => rfl
  | some value =>
    by_cases empty : value = .list []
    · subst empty
      rfl
    · rw [Option.map_some, Option.getD_some, if_neg (pairs_ne_nil empty), Option.bind_some,
        if_neg empty]

end

/-- The query of fields is read as their wire form exactly if the keys and the texts of all
fields but empty lists survive. -/
theorem ofQuery_toQuery_eq_wireForm_iff (fields : Fields) (format : ArrayFormat)
    (bounded : ∀ key value, fields.get? key = some value →
      value.scalars.length ≤ Word.greatest) :
    ofQuery (fields.toQuery format) format = fields.wireForm format ↔
      ∀ key value, fields.get? key = some value → value ≠ .list [] →
        KeySurvives format key value ∧ TextsSurvive format value := by
  rw [ofQuery_toQuery]
  constructor
  · intro read key value hv written
    have kept := keySurvives_of_read bounded read
    have survives := kept _ (KeyMap.get?_eq_some_iff_mem.mp hv) written
    have answer := get?_ofPairs_of_keySurvives bounded kept key
    rw [read, wireForm, KeyMap.get?_filterMap, hv, Option.bind_some, Option.bind_some,
      if_neg written] at answer
    exact ⟨survives, (value_pairs_iff survives (bounded key value hv) written).mp answer.symm⟩
  · intro survive
    have kept : ∀ e ∈ fields.entries, e.2 ≠ .list [] → KeySurvives format e.1 e.2 :=
      fun e he written => (survive _ _ (KeyMap.get?_eq_some_iff_mem.mpr he) written).1
    refine KeyMap.ext_get? fun key => ?_
    rw [get?_ofPairs_of_keySurvives bounded kept, wireForm, KeyMap.get?_filterMap]
    cases hv : fields.get? key with
    | none => rfl
    | some value =>
      rw [Option.bind_some, Option.bind_some]
      by_cases empty : value = .list []
      · subst empty
        rfl
      · obtain ⟨survives, texts⟩ := survive key value hv empty
        rw [if_neg empty]
        exact (value_pairs_iff survives (bounded key value hv) empty).mpr texts

/-- Tags with a comma come back from numbered keys, but not from between commas. -/
theorem ofQuery_toQuery_of_comma_in_tag :
    let fields : Fields := (∅ : Fields).insert "tags" (.list [.text "a,b", .text "c"])
    ofQuery (fields.toQuery .indices) .indices = fields.wireForm .indices ∧
      ofQuery (fields.toQuery .comma) .comma ≠ fields.wireForm .comma := by
  intro fields
  have only {key : String} {value : FieldValue} (h : fields.get? key = some value) :
      key = "tags" ∧ value = .list [.text "a,b", .text "c"] := by
    rw [KeyMap.get?_insert] at h
    by_cases hk : key = "tags"
    · rw [if_pos hk] at h
      exact ⟨hk, (Option.some_inj.mp h).symm⟩
    · rw [if_neg hk] at h
      exact absurd h (by simp)
  have bounded : ∀ key value, fields.get? key = some value →
      value.scalars.length ≤ Word.greatest := by
    intro key value h
    obtain ⟨rfl, rfl⟩ := only h
    decide
  constructor
  · refine (ofQuery_toQuery_eq_wireForm_iff fields .indices bounded).mpr ?_
    intro key value h _
    obtain ⟨rfl, rfl⟩ := only h
    exact ⟨⟨by decide, by rintro (h | h) <;> cases h⟩, fun h => by cases h⟩
  · intro same
    have here : fields.get? "tags" = some (.list [.text "a,b", .text "c"]) := by
      rw [KeyMap.get?_insert, if_pos rfl]
    obtain ⟨_, texts⟩ := (ofQuery_toQuery_eq_wireForm_iff fields .comma bounded).mp same
      "tags" _ here (by simp)
    exact texts rfl (.text "a,b") List.mem_cons_self (by decide)

end Fields

end Listing
