import Listing.Text.Blank

/-!
# Array formats

How a list of values is laid out in a query.
-/

namespace Listing

inductive ArrayFormat where
  /-- A numbered key for each item: `k[0]=a&k[1]=b`. -/
  | indices
  /-- A key with empty brackets for each item: `k[]=a&k[]=b`. -/
  | brackets
  /-- The key again for each item: `k=a&k=b`. -/
  | repeated
  /-- The items under one key with commas between them: `k=a,b`. -/
  | comma
deriving DecidableEq, Repr, Inhabited

namespace ArrayFormat

def name : ArrayFormat → String
  | .indices => "indices"
  | .brackets => "brackets"
  | .repeated => "repeat"
  | .comma => "comma"

def all : List ArrayFormat := [.indices, .brackets, .repeated, .comma]

def ofName? (name : String) : Option ArrayFormat := all.find? (·.name = name)

structure Unknown where
  raw : String
deriving DecidableEq, Repr

def Unknown.message (e : Unknown) : String :=
  s!"unknown array format '{e.raw}' (expected indices, brackets, repeat or comma)"

/-- A format by its name, in any case and with blanks around it. -/
def read (raw : String) : Except Unknown ArrayFormat :=
  match ofName? (Text.trim raw).toLower with
  | some format => .ok format
  | none => .error ⟨raw⟩

/-- A list of one item is written as the item itself would be. -/
def collapsesSingletons : ArrayFormat → Bool
  | .repeated | .comma => true
  | .indices | .brackets => false

end ArrayFormat

end Listing
