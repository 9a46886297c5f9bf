import Listing.Proofs.Json.RoundTrip
import Listing.Proofs.Query.Pairs

/-!
# Fields as structured text

Fields without doubles are read back from their structured text as they were: the kind of every
scalar is recovered from its form alone, and a list stays a list, however long it is.
-/

namespace Listing

namespace Scalar

def isDouble : Scalar → Bool
  | .float _ => true
  | _ => false

/-- The structured form of a scalar is none of an earlier kind. -/
theorem ofJson?_toJson (s : Scalar) : ofJson? s.toJson = some s := by
  cases s with
  | int i => rw [toJson, ofJson?, ofInteger, Word.signed?_toInt]
  | null => rfl
  | bool b => rfl
  | float d => rfl
  | text t => rfl

theorem exact_toJson {s : Scalar} (h : s.isDouble = false) : s.toJson.Exact := by
  cases s with
  | null => exact .null
  | bool b => exact .bool b
  | int i =>
    have low := i.le_toInt
    have high := i.toInt_lt
    exact .integer low (Int.lt_trans high (by decide))
  | float d => cases h
  | text t => exact .string t

end Scalar

/-- What is changed and changed back one by one comes back as a whole. -/
theorem mapM_map_eq_some {α β : Type} {f : α → β} {g : β → Option α} {l : List α}
    (h : ∀ a ∈ l, g (f a) = some a) : (l.map f).mapM g = some l := by
  induction l with
  | nil => rfl
  | cons a rest ih =>
    have others := ih fun b hb => h b (List.mem_cons_of_mem a hb)
    rw [List.map_cons, List.mapM_cons, h a List.mem_cons_self, others]
    rfl

namespace FieldValue

/-- A list is written as an array and a scalar never is. -/
theorem ofJson?_toJson (value : FieldValue) : ofJson? value.toJson = some value := by
  cases value with
  | list items =>
    rw [toJson, ofJson?, mapM_map_eq_some fun s _ => s.ofJson?_toJson, Option.map_some]
  | scalar s =>
    have single : ofJson? s.toJson = (Scalar.ofJson? s.toJson).map .scalar := by
      cases s <;> rfl
    rw [toJson, single, Scalar.ofJson?_toJson, Option.map_some]

theorem exact_toJson {value : FieldValue} (h : ∀ s ∈ value.scalars, s.isDouble = false) :
    value.toJson.Exact := by
  cases value with
  | scalar s => exact Scalar.exact_toJson (h s List.mem_cons_self)
  | list items =>
    apply Json.Exact.array
    intro v hv
    obtain ⟨s, hs, rfl⟩ := List.mem_map.mp hv
    exact Scalar.exact_toJson (h s hs)

end FieldValue

namespace Fields

/-- No scalar of the fields is a double. -/
def WithoutDoubles (fields : Fields) : Prop :=
  ∀ e ∈ fields.entries, ∀ s ∈ e.2.scalars, s.isDouble = false

instance (fields : Fields) : Decidable fields.WithoutDoubles :=
  inferInstanceAs (Decidable (∀ e ∈ fields.entries, ∀ s ∈ e.2.scalars, s.isDouble = false))

/-- The members of an object that are the fields. -/
theorem ofMembers?_toJson (fields : Fields) :
    ofMembers? (fields.entries.map fun e => (e.1, e.2.toJson)) = some fields := by
  have members : (fields.entries.map fun e => (e.1, e.2.toJson)).mapM
      (fun m => (FieldValue.ofJson? m.2).map fun value => (m.1, value)) = some fields.entries :=
    mapM_map_eq_some fun e _ => by rw [FieldValue.ofJson?_toJson, Option.map_some]
  rw [ofMembers?, members, Option.map_some, KeyMap.ofList_entries]

/-- Fields without doubles are what is read from their structured text. -/
theorem restored_from_json {fields : Fields} (h : fields.WithoutDoubles) :
    read? fields.write = some fields := by
  have each : ∀ m ∈ fields.entries.map fun e => (e.1, e.2.toJson),
      Json.Restores (Json.write m.2) m.2 := by
    intro m hm
    obtain ⟨e, he, rfl⟩ := List.mem_map.mp hm
    exact (FieldValue.exact_toJson (h e he)).restores
  obtain ⟨trees, reads, members⟩ := Json.exists_object each
  have read : Json.Tree.read? fields.write = some (.object trees) := Json.Tree.read?_of_reads reads
  rw [read?, read, Option.bind_some, Json.Tree.valueMembers?_object, members, Option.bind_some,
    ofMembers?_toJson]

/-- Texts that look like other scalars, short lists, and keys that have to be escaped. -/
theorem restored_from_json_of_lookalikes :
    let fields : Fields := KeyMap.ofList [("", .list []), ("é\"\\\x01", .list [.text "1"]),
      ("n", .list [.null, .int Int64.minValue, .text "null"]), ("t", .text "[true]")]
    fields.WithoutDoubles ∧ read? fields.write = some fields := by
  intro fields
  have free : fields.WithoutDoubles := by decide +kernel
  exact ⟨free, restored_from_json free⟩

end Fields

end Listing
