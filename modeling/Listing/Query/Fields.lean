import Listing.KeyMap
import Listing.Json.Reader
import Listing.Query.Scalar

/-!
# Query fields

The criteria of a search: scalars or lists of scalars under names of the caller's choice.
-/

namespace Listing

inductive FieldValue where
  | scalar (value : Scalar)
  | list (items : List Scalar)
deriving DecidableEq

namespace FieldValue

def text (s : String) : FieldValue := .scalar (.text s)

def ofJson? : Json → Option FieldValue
  | .array items => (items.mapM Scalar.ofJson?).map .list
  | value => (Scalar.ofJson? value).map .scalar

def toJson : FieldValue → Json
  | .scalar s => s.toJson
  | .list items => .array (items.map Scalar.toJson)

end FieldValue

abbrev Fields := KeyMap FieldValue

namespace Fields

/-- The number of 64 bits under a key, if a scalar is there that stands for one. -/
def word? (fields : Fields) (key : String) : Option UInt64 :=
  match fields.get? key with
  | some (.scalar s) => s.word?
  | _ => none

/-- The fields in the members of an object. Also a member that a later one with its key
replaces has to be a value of a field. -/
def ofMembers? (members : List (String × Json)) : Option Fields :=
  (members.mapM fun m => (FieldValue.ofJson? m.2).map fun value => (m.1, value)).map
    KeyMap.ofList

def toJson (fields : Fields) : Json :=
  .object (fields.entries.map fun (key, value) => (key, value.toJson))

def read? (s : String) : Option Fields :=
  (Json.Tree.read? s).bind fun t => t.valueMembers?.bind ofMembers?

def write (fields : Fields) : String := fields.toJson.text

end Fields

end Listing
