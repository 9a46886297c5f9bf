import Listing.Fetch.Coordinator
import Listing.Query.Encoding
import Listing.Table.Store

/-!
# The table

A list view whose query lives in its location. Every transition merges a patch into the
query, writes the query into the location and the form, opens a generation and issues one
request for the merged fields.
-/

namespace Listing

/-- The query part of the location, and every query that was ever written there. -/
@[ext]
structure Address where
  query : String
  replacements : List String
deriving DecidableEq, Repr

namespace Address

def ofQuery (query : String) : Address := ⟨query, []⟩

def replace (a : Address) (query : String) : Address := ⟨query, a.replacements ++ [query]⟩

def fields (a : Address) (format : ArrayFormat) : Fields := Fields.ofQuery a.query format

def sync (a : Address) (fields : Fields) (format : ArrayFormat) : Address :=
  a.replace (fields.toLocation format)

end Address

structure TableOptions where
  arrayFormat : ArrayFormat
  ordering : ResponseOrdering
deriving DecidableEq, Repr

@[ext]
structure Table (α : Type) where
  options : TableOptions
  store : Store
  address : Address
  /-- What stands in the search form, drafts included. -/
  form : Fields
  fetch : Coordinator α
  /-- The fields of every request, oldest first; request `n` opened generation `n + 1`. -/
  requests : List Fields

inductive Action (α : Type) where
  | search (fields : Fields)
  | changePage (current pageSize : UInt64)
  | refresh (fields : Option Fields)
  /-- Fills in fields of the form and searches with all of it. -/
  | submit (edits : Fields)
  | editField (key : String) (value : FieldValue)
  | editForm (fields : Fields)
  | resetForm
  /-- Someone else writes the location. -/
  | visit (query : String)
  | respond (generation : Nat) (outcome : Outcome α)
  | abandon (generation : Nat)

def pagePatch (current pageSize : UInt64) : Fields :=
  (KeyMap.empty.insert currentKey (.scalar (.ofWord current))).insert pageSizeKey
    (.scalar (.ofWord pageSize))

namespace Table

variable {α : Type}

/-- The table before its first request, with the query that its location describes. -/
def ofLocation (options : TableOptions) (location : String) : Table α :=
  let address := Address.ofQuery location
  let seed := address.fields options.arrayFormat
  { options
    store := .ofFields seed
    address
    form := KeyMap.merge ∅ seed
    fetch := .initial
    requests := [] }

def fields (t : Table α) : Fields := t.store.current

def location (t : Table α) : String := t.address.query

def transition (t : Table α) (patch : Fields) : Table α :=
  let store := t.store.merge patch
  { t with
    store
    address := t.address.sync store.current t.options.arrayFormat
    form := t.form.merge store.current
    fetch := t.fetch.begin
    requests := t.requests ++ [store.current] }

/-- A table that asks for the rows of its location at once. -/
def mount (options : TableOptions) (location : String) : Table α :=
  (ofLocation options location).transition ∅

def editForm (t : Table α) (edits : Fields) : Table α := { t with form := t.form.merge edits }

def act (t : Table α) : Action α → Table α
  | .search fields => t.transition fields
  | .changePage current pageSize => t.transition (pagePatch current pageSize)
  | .refresh fields => t.transition (fields.getD ∅)
  | .submit edits => let t := t.editForm edits; t.transition t.form
  | .editField key value => { t with form := t.form.insert key value }
  | .editForm fields => t.editForm fields
  | .resetForm => { t with form := ∅ }
  | .visit query => { t with address := t.address.replace query }
  | .respond generation outcome =>
    { t with fetch := t.fetch.settle t.options.ordering generation outcome }
  | .abandon generation => { t with fetch := t.fetch.abandon generation }

def run (t : Table α) (actions : List (Action α)) : Table α := actions.foldl act t

end Table

end Listing
