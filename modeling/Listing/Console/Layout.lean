import Listing.Query.Page
import Listing.Text.Blank

/-!
# Text tables

Cells in columns as wide as their widest cell, two spaces apart, under a rule of dashes.
A line does not end in blanks, and a row may be shorter or longer than the others.
-/

namespace Listing

/-- Widths that also hold the cells of one more line. -/
def widen (widths : List Nat) (cells : List String) : List Nat :=
  match widths, cells with
  | widths, [] => widths
  | [], cell :: rest => cell.length :: widen [] rest
  | w :: widths, cell :: rest => max w cell.length :: widen widths rest

/-- The cells filled up with spaces to their widths; missing cells are empty. -/
def fill (widths : List Nat) (cells : List String) : List (List Char) :=
  match widths, cells with
  | [], _ => []
  | w :: widths, [] => List.replicate w ' ' :: fill widths []
  | w :: widths, cell :: rest =>
    (cell.toList ++ List.replicate (w - cell.length) ' ') :: fill widths rest

def lineOf (widths : List Nat) (cells : List String) : List Char :=
  Text.trimEnd (List.intercalate [' ', ' '] (fill widths cells)) ++ ['\n']

def columnWidths (lines : List (List String)) : List Nat := lines.foldl widen []

def ruleOf (widths : List Nat) : List String :=
  widths.map fun w => String.ofList (List.replicate w '-')

def renderTable (titles : List String) (rows : List (List String)) : String :=
  let widths := columnWidths (titles :: rows)
  String.ofList ((titles :: ruleOf widths :: rows).flatMap (lineOf widths))

/-- Where the page stands; a collection without rows still has a first page. -/
def pageLine : Option Pagination → String
  | some p =>
    s!"page {p.current} of {max p.pageCount 1} ({p.total} rows, {p.pageSize} per page)"
  | none => "no page loaded"

end Listing
