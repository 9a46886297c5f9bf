import Listing.Query.Fields
import Listing.Text.Blank

/-!
# Filters

Search fields as they are given on a command line: a key and a value with an equals sign
between them. A key that is given more than once has the list of its values.
-/

namespace Listing

structure Filter where
  key : String
  value : String
deriving DecidableEq, Repr

/-- The text has no equals sign, or nothing but blanks before it. -/
structure Filter.Malformed where
  raw : String
deriving DecidableEq, Repr

namespace Filter

def Malformed.message (e : Malformed) : String := s!"expected key=value, got '{e.raw}'"

/-- The first equals sign ends the key, which is trimmed; the value is kept as it is. -/
def read (raw : String) : Except Malformed Filter :=
  let key := Text.trimmed (raw.toList.takeWhile (· ≠ '='))
  match raw.toList.dropWhile (· ≠ '=') with
  | _ :: value =>
    if key = [] then .error ⟨raw⟩ else .ok ⟨String.ofList key, String.ofList value⟩
  | [] => .error ⟨raw⟩

/-- One more value for a key. -/
def add (fields : Fields) (filter : Filter) : Fields :=
  fields.insert filter.key <|
    match fields.get? filter.key with
    | some (.scalar first) => .list [first, .text filter.value]
    | some (.list items) => .list (items ++ [.text filter.value])
    | none => .text filter.value

def fields (filters : List Filter) : Fields := filters.foldl add ∅

end Filter

end Listing
