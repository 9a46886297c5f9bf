import Listing.Query.Page

/-!
# Requests, outcomes and notices

The vocabulary of fetching: what may become of a request, what is published about the
rows, and what is announced to those who watch.
-/

namespace Listing

/-- What becomes of responses that arrive out of order. -/
inductive ResponseOrdering where
  /-- Every response is applied when it arrives, also one for an older query. -/
  | lastResponseWins
  /-- Only a response to the latest request is applied. -/
  | latestRequestWins
deriving DecidableEq, Repr, Inhabited

namespace ResponseOrdering

def name : ResponseOrdering → String
  | .lastResponseWins => "last_response_wins"
  | .latestRequestWins => "latest_request_wins"

def ofName? (name : String) : Option ResponseOrdering :=
  [lastResponseWins, latestRequestWins].find? (·.name = name)

structure Unknown where
  raw : String
deriving DecidableEq, Repr

def Unknown.message (e : Unknown) : String :=
  s!"unknown response ordering '{e.raw}' (expected last_response_wins or latest_request_wins)"

/-- An ordering by its name, in any case, with blanks around it, and with hyphens between
its words as well. -/
def read (raw : String) : Except Unknown ResponseOrdering :=
  match ofName? ((Text.trim raw).toLower.map fun c => if c = '-' then '_' else c) with
  | some ordering => .ok ordering
  | none => .error ⟨raw⟩

end ResponseOrdering

inductive Outcome (α : Type) where
  | page (page : Page α)
  | failure (message : String)

inductive Phase where
  | idle
  | loading
  | settled
  | failed
deriving DecidableEq, Repr

/-- What is shown: the rows of the page applied last, and how the latest request stands. -/
structure Published (α : Type) where
  rows : List α
  pagination : Option Pagination
  loading : Bool
  phase : Phase
  lastError : Option String

inductive Event where
  | loading (generation : Nat)
  | settled (generation rowCount : Nat) (pagination : Pagination)
  | failed (generation : Nat) (message : String)
  | discarded (generation : Nat)
deriving DecidableEq, Repr

/-- The notices that one watcher takes at a time. Of more than `capacity` the oldest are
lost, and only their number is known. -/
structure Delivery where
  lost : Nat
  events : List Event

def Delivery.capacity : Nat := 256

def Delivery.ofWaiting (waiting : List Event) : Delivery :=
  let lost := waiting.length - capacity
  ⟨lost, waiting.drop lost⟩

end Listing
