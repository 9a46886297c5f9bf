import Listing.Proofs.Query.Rewriting
import Listing.Proofs.Table.Lockstep

/-!
# Reloading a location

A table is mounted on the location that another table of its format wrote when it was
mounted. Whether anything changes depends on the keys of the query and the format alone,
neither on the values nor on which responses count.
-/

namespace Listing.Table

variable {α : Type}

/-- The queries that the requests carry, oldest first. -/
def queries (t : Table α) : List String :=
  t.requests.map fun fields => fields.toQuery t.options.arrayFormat

theorem mount_advances (options : TableOptions) (location : String) :
    Advances (ofLocation options location : Table α) (mount options location) ∅ :=
  transition_advances _ _

/-- A mounted table has the fields that it has read, writes them and asks for them. -/
theorem fields_mount (options : TableOptions) (location : String) :
    (mount options location : Table α).fields = Fields.ofQuery location options.arrayFormat :=
  (mount_advances options location).fields

theorem location_mount (options : TableOptions) (location : String) :
    (mount options location : Table α).location =
      (Fields.ofQuery location options.arrayFormat).toLocation options.arrayFormat := by
  rw [(mount_advances options location).location, fields_mount]
  rfl

theorem queries_mount (options : TableOptions) (location : String) :
    (mount options location : Table α).queries =
      [(Fields.ofQuery location options.arrayFormat).toQuery options.arrayFormat] := by
  rw [queries, (mount_advances options location).requests, fields_mount]
  rfl

/-- A location that a table wrote when it was mounted is written alike by the next table,
and the same query asked for, exactly if the keys are whole. They always are where items
are numbered or in brackets. -/
theorem reload_alike_iff (format : ArrayFormat) (ordering ordering' : ResponseOrdering)
    (location : String) (fits : location.utf8ByteSize ≤ Word.greatest) :
    let first : Table α := mount ⟨format, ordering⟩ location
    let second : Table α := mount ⟨format, ordering'⟩ first.location
    (second.location = first.location ↔ first.fields.KeysWhole format) ∧
    (second.queries = first.queries ↔ first.fields.KeysWhole format) := by
  intro first second
  have fields : first.fields = Fields.ofQuery location format := fields_mount _ _
  have written : first.location = (Fields.ofQuery location format).toLocation format :=
    location_mount _ _
  have reread : Fields.ofQuery first.location format =
      Fields.ofQuery ((Fields.ofQuery location format).toQuery format) format := by
    rw [written, Fields.ofQuery_toLocation]
  have rewriting := Fields.toQuery_ofQuery_toQuery_iff location format fits
  rw [← reread] at rewriting
  rw [fields, ← rewriting]
  constructor
  · have again : second.location = (Fields.ofQuery first.location format).toLocation format :=
      location_mount _ _
    rw [again, ← Fields.toLocation_eq_iff, ← written]
  · have asked : first.queries = [(Fields.ofQuery location format).toQuery format] :=
      queries_mount _ _
    have again : second.queries = [(Fields.ofQuery first.location format).toQuery format] :=
      queries_mount _ _
    rw [again, asked, List.cons.injEq, and_iff_left rfl]

/-- Numbered items keep the brackets that their key came with. -/
theorem reload_alike_of_numbered_items :
    "?m[0][1]=x&m[0][]=y&tags[]=a,b".utf8ByteSize ≤ Word.greatest ∧
    (let first : Table Nat :=
      mount ⟨.indices, .latestRequestWins⟩ "?m[0][1]=x&m[0][]=y&tags[]=a,b"
    let second : Table Nat := mount ⟨.indices, .lastResponseWins⟩ first.location
    second.location = first.location ∧ second.queries = first.queries) := by
  have fits : "?m[0][1]=x&m[0][]=y&tags[]=a,b".utf8ByteSize ≤ Word.greatest := by decide
  obtain ⟨location, queries⟩ :=
    reload_alike_iff (α := Nat) .indices .latestRequestWins .lastResponseWins _ fits
  have whole {fields : Fields} : fields.KeysWhole .indices := by
    rintro (repeated | comma)
    · cases repeated
    · cases comma
  exact ⟨fits, location.mpr whole, queries.mpr whole⟩

/-- Where items are repeated, a key with two pairs of brackets loses one when it is read
and the other when its location is. -/
theorem reload_loses_brackets :
    let first : Table Nat := mount ⟨.repeated, .latestRequestWins⟩ "a[][]=x"
    let second : Table Nat := mount ⟨.repeated, .latestRequestWins⟩ first.location
    first.location = "?a%5B%5D=x" ∧ second.location = "?a=x" ∧
      second.location ≠ first.location ∧ second.queries ≠ first.queries := by
  decide +kernel

end Listing.Table
