import Listing.Double.Basic
import Listing.KeyMap

/-!
# Structured values

What a structured text says once it is read. A number without a fraction that fits 64
bits is an integer and every other number is a double. The members of an object stand in
the order of their keys, each key once.
-/

namespace Listing

inductive Json where
  | null
  | bool (value : Bool)
  | integer (value : Int)
  | double (value : Double)
  | string (value : String)
  | array (items : List Json)
  | object (members : List (String × Json))
deriving Inhabited

namespace Json

def get? (value : Json) (key : String) : Option Json :=
  match value with
  | .object members => members.lookup key
  | _ => none

/-- An object from members in any order; of members with one key the last counts. -/
def objectOf (members : List (String × Json)) : Json :=
  .object (KeyMap.ofList members).entries

end Json

end Listing
