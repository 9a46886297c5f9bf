import Listing.Query.ArrayFormat
import Listing.Query.Fields
import Listing.Query.KeyShape
import Listing.Text.FormPairs

/-!
# Fields as a query

Fields are written as form-encoded pairs and read back from them. Writing forgets the
kind of a scalar, empty lists, and in some formats whether a single value was a list;
`wireForm` is what is left. Reading accepts every text and answers with texts and lists
of texts.
-/

namespace Listing

namespace FieldValue

def pairs (format : ArrayFormat) (key : String) : FieldValue → List (String × String)
  | .scalar s => [(key, s.queryText)]
  | .list [] => []
  | .list items =>
    match format with
    | .indices => items.zipIdx.map fun (item, i) => (s!"{key}[{i}]", item.queryText)
    | .brackets => items.map fun item => (s!"{key}[]", item.queryText)
    | .repeated => items.map fun item => (key, item.queryText)
    | .comma => [(key, ",".intercalate (items.map Scalar.queryText))]

/-- What is left of a value once it has been written. -/
def wireForm? (format : ArrayFormat) : FieldValue → Option FieldValue
  | .scalar s => some (.text s.queryText)
  | .list [] => none
  | .list [item] =>
    some (if format.collapsesSingletons then .text item.queryText
      else .list [.text item.queryText])
  | .list items => some (.list (items.map fun item => .text item.queryText))

end FieldValue

/-- The values read so far for one key, each with its place if it has one. -/
structure Gathered where
  items : List (Option UInt64 × String)
  isList : Bool
deriving DecidableEq, Inhabited

namespace Gathered

def empty : Gathered := ⟨[], false⟩

/-- Adds the value of one pair. In the comma format a value with commas is a list. -/
def add (g : Gathered) (format : ArrayFormat) (shape : KeyShape) (value : String) : Gathered :=
  if format = .comma ∧ ',' ∈ value.toList then
    let parts := (value.toList.splitOn ',').map fun part => (shape.index?, String.ofList part)
    ⟨g.items ++ parts, true⟩
  else ⟨g.items ++ [(shape.index?, value)], g.isList || shape.isItem⟩

/-- Where an item belongs: those without a place go to the end. -/
def place (item : Option UInt64 × String) : Nat := (item.1.map UInt64.toNat).getD Word.greatest

/-- The items by place; items with one place stay in the order in which they came. -/
def value (g : Gathered) : FieldValue :=
  if g.isList || 1 < g.items.length then
    .list ((g.items.mergeSort fun a b => place a ≤ place b).map fun item => .text item.2)
  else .text ((g.items.head?.map (·.2)).getD "")

end Gathered

/-- Adds a pair to what was read; a pair without a key is dropped. -/
def gather (format : ArrayFormat) (found : KeyMap Gathered) (pair : String × String) :
    KeyMap Gathered :=
  if pair.1 = "" then found
  else
    let shape := KeyShape.of pair.1
    found.insert shape.base
      (((found.get? shape.base).getD Gathered.empty).add format shape pair.2)

namespace Fields

def toQuery (fields : Fields) (format : ArrayFormat) : String :=
  Text.FormPairs.write (fields.entries.flatMap fun (key, value) => value.pairs format key)

def ofPairs (format : ArrayFormat) (pairs : List (String × String)) : Fields :=
  (pairs.foldl (gather format) ∅).filterMap fun _ g => some g.value

/-- The fields of a query, with or without a question mark before it. -/
def ofQuery (query : String) (format : ArrayFormat) : Fields :=
  let body := match query.toList with
    | '?' :: r => String.ofList r
    | _ => query
  ofPairs format (Text.FormPairs.read body)

def wireForm (fields : Fields) (format : ArrayFormat) : Fields :=
  fields.filterMap fun _ value => value.wireForm? format

/-- The query of the fields as a location has it: after a question mark unless it is empty. -/
def toLocation (fields : Fields) (format : ArrayFormat) : String :=
  let query := fields.toQuery format
  if query = "" then "" else "?" ++ query

end Fields

end Listing
