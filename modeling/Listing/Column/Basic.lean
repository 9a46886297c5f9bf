import Listing.Query.Loose

/-!
# Columns

A column shows one cell of each row, which it finds by its data key. It may come with labels,
which replace a value by a title, or with a rendering of its own, which is preferred to labels.
-/

namespace Listing

/-- A kind of row: its cell under a data key, if it has one. -/
class Record (α : Type) where
  cell : α → String → Option Scalar

instance : Record Json where
  cell row key := (row.get? key).map Scalar.ofCell

structure Label where
  value : Scalar
  title : String
deriving DecidableEq

inductive ValueMatch where
  | loose
  | strict
deriving DecidableEq, Repr, Inhabited

namespace ValueMatch

def name : ValueMatch → String
  | .loose => "loose"
  | .strict => "strict"

def ofName? (name : String) : Option ValueMatch := [loose, strict].find? (·.name = name)

def holds : ValueMatch → Scalar → Scalar → Bool
  | .loose, expected, raw => expected.looselyEqual raw
  | .strict, expected, raw => expected.same raw

end ValueMatch

/-- The title of the first label that matches, or none at all. -/
def labelTitle (labels : List Label) (raw : Scalar) (matching : ValueMatch) : String :=
  ((labels.find? fun l => matching.holds l.value raw).map (·.title)).getD ""

structure Column where
  title : String
  dataKey : String
  labels : Option (List Label)
  valueMatch : ValueMatch
  render : Option (Scalar → String)

namespace Column

def plain (title dataKey : String) : Column := ⟨title, dataKey, none, .loose, none⟩

def renderer? (c : Column) : Option (Scalar → String) :=
  match c.render, c.labels with
  | some render, _ => some render
  | none, some labels => some fun raw => labelTitle labels raw c.valueMatch
  | none, none => none

/-- The text of a cell. A missing one is `null` to a renderer and empty without one. -/
def cellText (c : Column) (cell : Option Scalar) : String :=
  match c.renderer?, cell with
  | some render, some raw => render raw
  | some render, none => render .null
  | none, some raw => raw.queryText
  | none, none => ""

end Column

def renderRow {α : Type} [Record α] (columns : List Column) (row : α) : List String :=
  columns.map fun c => c.cellText (Record.cell row c.dataKey)

def titles (columns : List Column) : List String := columns.map (·.title)

end Listing
