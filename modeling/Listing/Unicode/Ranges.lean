import Listing.Text.Digits

/-!
# Tables of characters

A property of characters as ranges of their numbers, each with a value. A table is written
in words: a hexadecimal number for one character, two of them with a hyphen for all from
the first to the last, and where a value belongs to it, the value after a sign. All tables are
those of Unicode 17.
-/

namespace Listing.Unicode

open Text

structure Range (α : Type) where
  first : Nat
  last : Nat
  value : α

variable {α : Type}

def Range.contains (r : Range α) (n : Nat) : Bool := r.first ≤ n && n ≤ r.last

/-- Disjoint ranges, those with smaller numbers first. -/
structure Ranges (α : Type) where
  inOrder : Array (Range α)

namespace Ranges

def ofList (ranges : List (Range α)) : Ranges α :=
  ⟨(ranges.mergeSort (·.first ≤ ·.first)).toArray⟩

/-- How many of the ranges start at `n` or before it, if all before `low` do and none from
`high` on does. -/
def startsUpTo (ranges : Array (Range α)) (n low high : Nat) : Nat :=
  if low < high then
    let middle := (low + high) / 2
    if ranges[middle]?.any (·.first ≤ n) then startsUpTo ranges n (middle + 1) high
    else startsUpTo ranges n low middle
  else low
termination_by high - low

def find? (t : Ranges α) (n : Nat) : Option (Range α) :=
  t.inOrder[startsUpTo t.inOrder n 0 t.inOrder.size - 1]?.filter (·.contains n)

end Ranges

def words (text : String) : List (List Char) :=
  (text.splitOn "\n").flatMap fun line => (line.toList.splitOn ' ').filter (· ≠ [])

def number (s : List Char) : Nat := (Digits.read? 16 s).getD 0

def range (word : List Char) (value : α) : Range α :=
  match word.splitOn '-' with
  | [first, last] => ⟨number first, number last, value⟩
  | _ => ⟨number word, number word, value⟩

/-- Ranges of one value. -/
def ranges (value : α) (text : String) : List (Range α) :=
  (words text).map (range · value)

/-- Ranges whose values stand after a sign. -/
def rangesWith (sign : Char) (value : List Char → α) (text : String) : List (Range α) :=
  (words text).map fun word =>
    range (word.takeWhile (· ≠ sign)) (value ((word.dropWhile (· ≠ sign)).drop 1))

abbrev CharSet := Ranges Unit

def CharSet.ofText (text : String) : CharSet := .ofList (ranges () text)

def CharSet.contains (s : CharSet) (c : Char) : Bool := (s.find? c.toNat).isSome

end Listing.Unicode
