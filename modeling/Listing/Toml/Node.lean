import Listing.Toml.Value

/-!
# Tables under construction

A configuration text defines tables piece by piece, and how a table came about decides
what may still be added to it: a table that only a longer header has named can be defined
later, one that dotted keys have opened takes more dotted keys, and one with a header of
its own takes neither.
-/

namespace Listing.Toml

inductive TableKind where
  /-- Named on the way to another table. -/
  | implied
  /-- Opened by a dotted key. -/
  | dotted
  /-- Defined by a header or in braces. -/
  | defined
deriving DecidableEq, Repr

inductive Node where
  | leaf (value : Toml)
  | table (kind : TableKind) (members : List (String × Node))
  | tables (items : List (List (String × Node)))

abbrev Members := List (String × Node)

/-- Puts a node in the place of the one under a key. -/
def replace (key : String) (node : Node) (members : Members) : Members :=
  members.map fun m => if m.1 = key then (key, node) else m

/-- Changes the table at the end of a path. Tables that are missing on the way are made,
and of an array of tables the last one is meant. Dotted keys may not enter a table that
was defined before. -/
def update (dotted : Bool) (change : TableKind → Members → Option Members) (kind : TableKind)
    (members : Members) : List String → Option Members
  | [] => change kind members
  | key :: path =>
    match members.lookup key with
    | none =>
      let kind := if dotted then .dotted else .implied
      (update dotted change kind [] path).map fun new => members ++ [(key, .table kind new)]
    | some (.leaf _) => none
    | some (.tables items) =>
      items.getLast?.bind fun last =>
        (update dotted change .defined last path).map fun new =>
          replace key (.tables (items.dropLast ++ [new])) members
    | some (.table kind inner) =>
      if dotted ∧ kind = .defined then none
      else (update dotted change kind inner path).map fun new =>
        replace key (.table kind new) members

/-- Adds a value under a dotted key. The table that takes it was opened by dotted keys
exactly if there are keys before the last one. -/
def addValue (path : List String) (key : String) (value : Toml) (kind : TableKind)
    (members : Members) : Option Members :=
  let add (kind : TableKind) (members : Members) : Option Members :=
    if kind = .dotted ↔ path = [] then none
    else if (members.lookup key).isSome then none
    else some (members ++ [(key, .leaf value)])
  update true add kind members path

def addTable (path : List String) (key : String) (members : Members) : Option Members :=
  let add (_ : TableKind) (members : Members) : Option Members :=
    match members.lookup key with
    | none => some (members ++ [(key, .table .defined [])])
    | some (.table .implied inner) => some (replace key (.table .defined inner) members)
    | some _ => none
  update false add .defined members path

def addItem (path : List String) (key : String) (members : Members) : Option Members :=
  let add (_ : TableKind) (members : Members) : Option Members :=
    match members.lookup key with
    | none => some (members ++ [(key, .tables [[]])])
    | some (.tables items) => some (replace key (.tables (items ++ [[]])) members)
    | some _ => none
  update false add .defined members path

mutual

def Node.value : Node → Toml
  | .leaf v => v
  | .table _ members => .table (membersValue members)
  | .tables items => .array (tablesValue items)

def membersValue : List (String × Node) → List (String × Toml)
  | [] => []
  | (key, node) :: rest => (key, node.value) :: membersValue rest

def tablesValue : List (List (String × Node)) → List Toml
  | [] => []
  | members :: rest => .table (membersValue members) :: tablesValue rest

end

end Listing.Toml
