import Listing.Query.Fields

/-!
# The query in force

The fields of the current query and how often they have changed since they were set up.
A change merges fields into the query and removes none.
-/

namespace Listing

@[ext]
structure Store where
  current : Fields
  transitions : Nat
deriving DecidableEq

namespace Store

def ofFields (seed : Fields) : Store := ⟨seed, 0⟩

def merge (s : Store) (patch : Fields) : Store := ⟨s.current.merge patch, s.transitions + 1⟩

inductive Change where
  /-- Sets the query up anew. -/
  | seed (fields : Fields)
  | merge (patch : Fields)

/-- What a change answers, and the store after it. A merge answers with the query then in
force. -/
def change (s : Store) : Change → Option Fields × Store
  | .seed fields => (none, ofFields fields)
  | .merge patch =>
    let next := s.merge patch
    (some next.current, next)

def run (s : Store) (changes : List Change) : Store :=
  changes.foldl (fun s c => (s.change c).2) s

end Store

end Listing
