import Listing.Json.Reader
import Listing.Query.Fields

/-!
# Pages

Where a page stands in its collection. A description from outside is clamped: the first
page has number one, and a page holds at least one row.
-/

namespace Listing

structure Pagination where
  current : UInt64
  pageSize : UInt64
  total : UInt64
deriving DecidableEq, Repr

namespace Pagination

def defaultCurrent : UInt64 := 1

def defaultPageSize : UInt64 := 10

def clamped (current pageSize total : UInt64) : Pagination :=
  ⟨max current 1, max pageSize 1, total⟩

instance : Inhabited Pagination := ⟨clamped defaultCurrent defaultPageSize 0⟩

/-- How many pages the collection has; none if pages hold nothing. -/
def pageCount (p : Pagination) : UInt64 :=
  if p.pageSize = 0 then 0
  else p.total / p.pageSize + if p.total % p.pageSize = 0 then 0 else 1

def wordOfTree? (t : Json.Tree) : Option UInt64 :=
  match t.toJson? with
  | some (.integer i) => if 0 ≤ i then Word.ofNat? i.toNat else none
  | _ => none

def wordD? (t : Option Json.Tree) (default : UInt64) : Option UInt64 :=
  match t with
  | none => some default
  | some t => wordOfTree? t

/-- A description by name or by position. Of a list only missing last members are made up. -/
def ofTree? (t : Json.Tree) : Option Pagination := do
  let (current, pageSize, total) ← match t with
    | .array [] => some (none, none, none)
    | .array [a] => some (some a, none, none)
    | .array [a, b] => some (some a, some b, none)
    | .array [a, b, c] => some (some a, some b, some c)
    | .object _ => do
      let members ← t.members?
      let current ← Json.Tree.member? members "current"
      let pageSize ← Json.Tree.member? members "pageSize"
      let total ← Json.Tree.member? members "total"
      some (current, pageSize, total)
    | _ => none
  let current ← wordD? current defaultCurrent
  let pageSize ← wordD? pageSize defaultPageSize
  let total ← wordD? total 0
  some (clamped current pageSize total)

def read? (s : String) : Option Pagination := (Json.Tree.read? s).bind ofTree?

def toJson (p : Pagination) : Json :=
  .object [("current", .integer p.current.toNat), ("pageSize", .integer p.pageSize.toNat),
    ("total", .integer p.total.toNat)]

end Pagination

structure Page (α : Type) where
  rows : List α
  pagination : Pagination

/-- The keys under which a query asks for a page. -/
def currentKey : String := "current"

def pageSizeKey : String := "pageSize"

/-- A product, but never more than the greatest number of 64 bits. -/
def boundedProduct (a b : UInt64) : Nat := min (a.toNat * b.toNat) Word.greatest

namespace Page

variable {α : Type}

/-- The page of a whole collection that a query asks for. -/
def ofCollection (rows : List α) (requested : Fields) : Page α :=
  let current := max ((requested.word? currentKey).getD Pagination.defaultCurrent) 1
  let pageSize := max ((requested.word? pageSizeKey).getD Pagination.defaultPageSize) 1
  ⟨(rows.drop (boundedProduct (current - 1) pageSize)).take pageSize.toNat,
    Pagination.clamped current pageSize (UInt64.ofNat rows.length)⟩

end Page

end Listing
