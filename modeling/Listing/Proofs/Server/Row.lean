import Listing.Column.Basic
import Listing.Proofs.Json.Tree
import Listing.Proofs.KeyMap
import Listing.Server.Row

/-!
# Typed rows and plain objects

A typed row holds the members of its object once each: those that it knows by name, and the rest
as they are. So it shows in every column what the plain object shows, where a known member that
is missing counts as an empty text.
-/

namespace Listing

namespace Json

/-- Members that are texts. -/
def texts (members : List (String × String)) : KeyMap Json :=
  KeyMap.ofList (members.map fun m => (m.1, .string m.2))

/-- An object with empty texts for those of the keys that it lacks. -/
def withDefaults (keys : List String) (value : Json) : Json :=
  match value with
  | .object members => .object ((texts (keys.map (·, ""))).merge (KeyMap.ofList members)).entries
  | value => value

theorem get?_object (members : KeyMap Json) (key : String) :
    (Json.object members.entries).get? key = members.get? key := rfl

theorem withDefaults_objectOf (keys : List String) (members : List (String × Json)) :
    (objectOf members).withDefaults keys =
      .object ((texts (keys.map (·, ""))).merge (KeyMap.ofList members)).entries := by
  rw [objectOf, withDefaults, KeyMap.ofList_entries]

/-- A text that is found is one of those that are there under the key. -/
theorem get?_texts (members : List (String × String)) (key : String) :
    (∃ text, (key, text) ∈ members ∧ (texts members).get? key = some (.string text)) ∨
      key ∉ members.map Prod.fst ∧ (texts members).get? key = none := by
  rw [texts, KeyMap.get?_ofList]
  cases last : ((members.map fun m => (m.1, Json.string m.2)).filter (·.1 = key)).getLast? with
  | none =>
    rw [List.getLast?_eq_none_iff, List.filter_eq_nil_iff] at last
    right
    refine ⟨?_, rfl⟩
    rintro listed
    obtain ⟨m, hm, rfl⟩ := List.mem_map.mp listed
    exact last _ (List.mem_map_of_mem hm) (decide_eq_true rfl)
  | some e =>
    have found := List.mem_of_getLast? last
    obtain ⟨made, same⟩ := List.mem_filter.mp found
    obtain ⟨⟨k, text⟩, hm, rfl⟩ := List.mem_map.mp made
    obtain rfl : k = key := of_decide_eq_true same
    exact Or.inl ⟨text, hm, rfl⟩

end Json

/-- The one member with a key is also the last one. -/
theorem get?_ofList_of_member? {members : List (String × Json)} {key : String}
    {found : Option Json} (h : Json.Tree.member? members key = some found) :
    (KeyMap.ofList members).get? key = found := by
  rw [KeyMap.get?_ofList]
  unfold Json.Tree.member? at h
  split at h
  next none =>
    rw [none]
    exact Option.some_inj.mp h
  next k value one =>
    rw [one]
    exact Option.some_inj.mp h
  next => cases h

/-- A member that is read as a text is one, or is made up if it is missing. -/
theorem of_textMember? {members : List (String × Json)} {key text : String}
    {default : Option String} (h : textMember? members key default = some text) :
    ((KeyMap.ofList members).get? key).or (default.map .string) = some (.string text) := by
  unfold textMember? at h
  split at h
  next s found =>
    rw [get?_ofList_of_member? found, Option.some_inj.mp h]
    rfl
  next found =>
    rw [get?_ofList_of_member? found, h]
    rfl
  next => cases h

theorem get?_otherMembers (known : List String) (members : List (String × Json)) (key : String) :
    (otherMembers known members).get? key =
      if key ∈ known then none else (KeyMap.ofList members).get? key := by
  rw [otherMembers, KeyMap.get?_ofList, KeyMap.get?_ofList, List.filter_filter]
  by_cases listed : key ∈ known
  · have nothing : members.filter (fun m => decide (m.1 = key) && !known.contains m.1) = [] := by
      rw [List.filter_eq_nil_iff]
      intro m _
      grind
    rw [if_pos listed, nothing]
    rfl
  · rw [if_neg listed]
    congr 2
    apply List.filter_congr
    intro m _
    grind

/-- What a typed row knows and the rest that it keeps are the members of its object, with those
known ones made up that may be missing. -/
theorem merge_otherMembers {members : List (String × Json)} {known : List (String × String)}
    {optional : List String}
    (each : ∀ m ∈ known, ((KeyMap.ofList members).get? m.1).or
      ((Json.texts (optional.map (·, ""))).get? m.1) = some (.string m.2))
    (within : ∀ key ∈ optional, key ∈ known.map Prod.fst) :
    (Json.texts (optional.map (·, ""))).merge (KeyMap.ofList members) =
      (otherMembers (known.map Prod.fst) members).merge (Json.texts known) := by
  refine KeyMap.ext_get? fun key => ?_
  rw [KeyMap.get?_merge, KeyMap.get?_merge, get?_otherMembers]
  rcases Json.get?_texts known key with ⟨text, hm, found⟩ | ⟨unknown, found⟩
  · rw [each _ hm, found, Option.some_or]
  · have required : (Json.texts (optional.map (·, ""))).get? key = none := by
      rcases Json.get?_texts (optional.map (·, "")) key with ⟨text, hm, _⟩ | ⟨_, missing⟩
      · obtain ⟨k, hk, he⟩ := List.mem_map.mp hm
        cases he
        exact absurd (within key hk) unknown
      · exact missing
    rw [found, required, if_neg unknown, Option.or_none, Option.none_or]

/-- A row and an object with the same members, each of which the row has once: among those that
it knows, which are texts, or in the rest. -/
structure Mirrors {α : Type} [Record α] (row : α) (known : List (String × String))
    (extra : KeyMap Json) (value : Json) : Prop where
  members : value = .object (extra.merge (Json.texts known)).entries
  apart : ∀ key ∈ known.map Prod.fst, extra.contains key = false
  cell : ∀ key, Record.cell row key = Record.cell value key
  rendered : ∀ columns, renderRow columns row = renderRow columns value

theorem readRow?_eq_some_iff {α : Type} [ServerRow α] {s : String} {row : α} :
    readRow? α s = some row ↔ ∃ t, Json.Tree.read? s = some t ∧
      t.depth ≤ Json.Tree.depthLimit ∧ ServerRow.ofTree? t = some row := by
  simp [readRow?, Option.bind_eq_some_iff]

/-- A text of a row that is made of members is also the text of the plain object. -/
theorem exists_members_of_readRow? {α : Type} [ServerRow α]
    {ofMembers? : List (String × Json) → Option α}
    (made : ∀ t : Json.Tree, ServerRow.ofTree? t = t.valueMembers?.bind ofMembers?) {s : String}
    {row : α} (h : readRow? α s = some row) :
    ∃ members, ofMembers? members = some row ∧ readRow? Json s = some (Json.objectOf members) := by
  obtain ⟨t, read, shallow, found⟩ := readRow?_eq_some_iff.mp h
  rw [made] at found
  obtain ⟨members, understood, found⟩ := Option.bind_eq_some_iff.mp found
  have plain := Json.Tree.toJson?_of_valueMembers? understood
  exact ⟨members, found, readRow?_eq_some_iff.mpr ⟨t, read, shallow, plain⟩⟩

/-- A typed row mirrors its object if its known members are read from there, the rest is all other
members, and it shows both. -/
theorem mirrors_objectOf {α : Type} [Record α] {row : α} {members : List (String × Json)}
    {known : List (String × String)} {optional : List String}
    (read : ∀ m ∈ known, ((KeyMap.ofList members).get? m.1).or
      ((Json.texts (optional.map (·, ""))).get? m.1) = some (.string m.2))
    (within : ∀ key ∈ optional, key ∈ known.map Prod.fst)
    (shown : ∀ m ∈ known, Record.cell row m.1 = some (.text m.2))
    (others : ∀ key ∉ known.map Prod.fst, Record.cell row key =
      ((otherMembers (known.map Prod.fst) members).get? key).map Scalar.ofCell) :
    Mirrors row known (otherMembers (known.map Prod.fst) members)
      ((Json.objectOf members).withDefaults optional) := by
  have whole : (Json.objectOf members).withDefaults optional =
      .object ((otherMembers (known.map Prod.fst) members).merge (Json.texts known)).entries := by
    rw [Json.withDefaults_objectOf, merge_otherMembers read within]
  have cells (key : String) : Record.cell row key =
      Record.cell ((Json.objectOf members).withDefaults optional) key := by
    change _ = (((Json.objectOf members).withDefaults optional).get? key).map Scalar.ofCell
    -- The rest has no known key, so one place of the row answers for each key.
    rw [whole, Json.get?_object, KeyMap.get?_merge]
    rcases Json.get?_texts known key with ⟨text, hm, found⟩ | ⟨unknown, found⟩
    · rw [shown _ hm, found]
      rfl
    · rw [others key unknown, found, Option.none_or]
  refine ⟨whole, ?_, cells, ?_⟩
  · intro key listed
    rw [KeyMap.contains, get?_otherMembers, if_pos listed]
    rfl
  · intro columns
    apply List.map_congr_left
    intro c _
    rw [cells]

namespace ProjectRow

def known (row : ProjectRow) : List (String × String) :=
  [("name", row.name), ("gitRemotePath", row.gitRemotePath), ("path", row.path)]

def optional : List String := ["gitRemotePath", "path"]

theorem mirrors_of_ofMembers? {members : List (String × Json)} {row : ProjectRow}
    (h : ofMembers? members = some row) :
    Mirrors row row.known row.extra ((Json.objectOf members).withDefaults optional) := by
  simp only [ofMembers?, bind, Option.bind_eq_some_iff] at h
  obtain ⟨name, hn, git, hg, path, hp, made⟩ := h
  cases made
  apply mirrors_objectOf
  · simp only [known, List.forall_mem_cons]
    refine ⟨of_textMember? hn, of_textMember? hg, of_textMember? hp, ?_⟩
    simp
  · simp [known, optional]
  · simp only [known, List.forall_mem_cons]
    refine ⟨rfl, rfl, rfl, ?_⟩
    simp
  · intro key unknown
    simp only [known, List.map_cons, List.map_nil, List.mem_cons, List.not_mem_nil,
      not_or] at unknown
    obtain ⟨hn, hg, hp, _⟩ := unknown
    change cell _ key = _
    rw [cell, if_neg hn, if_neg hg, if_neg hp]
    rfl

end ProjectRow

namespace TemplateRow

def known (row : TemplateRow) : List (String × String) :=
  [("name", row.name), ("gitRemotePath", row.gitRemotePath), ("path", row.path),
    ("statusText", row.statusText)]

def optional : List String := ["gitRemotePath", "path", "statusText"]

theorem mirrors_of_ofMembers? {members : List (String × Json)} {row : TemplateRow}
    (h : ofMembers? members = some row) :
    Mirrors row row.known row.extra ((Json.objectOf members).withDefaults optional) := by
  simp only [ofMembers?, bind, Option.bind_eq_some_iff] at h
  obtain ⟨name, hn, git, hg, path, hp, status, hs, made⟩ := h
  cases made
  apply mirrors_objectOf
  · simp only [known, List.forall_mem_cons]
    refine ⟨of_textMember? hn, of_textMember? hg, of_textMember? hp, of_textMember? hs, ?_⟩
    simp
  · simp [known, optional]
  · simp only [known, List.forall_mem_cons]
    refine ⟨rfl, rfl, rfl, rfl, ?_⟩
    simp
  · intro key unknown
    simp only [known, List.map_cons, List.map_nil, List.mem_cons, List.not_mem_nil,
      not_or] at unknown
    obtain ⟨hn, hg, hp, hs, _⟩ := unknown
    change cell _ key = _
    rw [cell, if_neg hn, if_neg hg, if_neg hp, if_neg hs]
    rfl

end TemplateRow

/-- Whatever text a typed row is read from is also the text of an object, and the row mirrors this
object with empty texts for what it lacks. -/
theorem typed_rows_mirror_objects :
    (∀ (s : String) (row : ProjectRow), readRow? ProjectRow s = some row →
      ∃ value, readRow? Json s = some value ∧
        Mirrors row row.known row.extra (value.withDefaults ProjectRow.optional)) ∧
    ∀ (s : String) (row : TemplateRow), readRow? TemplateRow s = some row →
      ∃ value, readRow? Json s = some value ∧
        Mirrors row row.known row.extra (value.withDefaults TemplateRow.optional) := by
  constructor
  · intro s row read
    obtain ⟨members, made, plain⟩ := exists_members_of_readRow? (fun _ => rfl) read
    exact ⟨_, plain, ProjectRow.mirrors_of_ofMembers? made⟩
  · intro s row read
    obtain ⟨members, made, plain⟩ := exists_members_of_readRow? (fun _ => rfl) read
    exact ⟨_, plain, TemplateRow.mirrors_of_ofMembers? made⟩

/-- A key in escapes, a member that comes twice and a name that a column of another kind has. -/
theorem typed_rows_mirror_objects_of_template :
    let text := "\x7b\"n\\u0061me\":\"vue\",\"id\":7,\"status_text\":[1],\"id\":8.5\x7d"
    ∃ row, readRow? TemplateRow text = some row ∧ ∃ value, readRow? Json text = some value ∧
      Mirrors row row.known row.extra (value.withDefaults TemplateRow.optional) := by
  intro text
  have read : (readRow? TemplateRow text).isSome = true := by decide +kernel
  obtain ⟨row, found⟩ := Option.isSome_iff_exists.mp read
  exact ⟨row, found, typed_rows_mirror_objects.2 text row found⟩

end Listing
