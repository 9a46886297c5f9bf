import Listing.Double.Layout
import Listing.Double.Literal
import Listing.Json.Writer
import Listing.Text.Blank

/-!
# Scalars

The single values that a query can carry, and what they are as text, as a number and as
structured data. A scalar of structured data is recovered from its form alone: an integer
of 64 bits with sign is an integer, and every other number is a double.
-/

namespace Listing

inductive Scalar where
  | null
  | bool (value : Bool)
  | int (value : Int64)
  | float (value : Double)
  | text (value : String)
deriving DecidableEq

namespace Scalar

/-- The text of a scalar in a query; nothing is written for `null`. -/
def queryText : Scalar → String
  | .null => ""
  | .bool true => "true"
  | .bool false => "false"
  | .int i => String.ofList (Text.Digits.writeInt i.toInt)
  | .float d => d.plainText
  | .text s => s

/-- A number as a scalar: an integer if it fits 64 bits with sign, else the nearest double. -/
def ofWord (n : UInt64) : Scalar :=
  match Word.signed? n.toNat with
  | some i => .int i
  | none => .float (Double.ofNat n.toNat)

/-- The number of 64 bits without sign that a scalar stands for. A double without a fraction
stands for the nearest such number, and a text may have blanks around it and a plus sign. -/
def word? : Scalar → Option UInt64
  | .int i => if 0 ≤ i.toInt then some (UInt64.ofNat i.toInt.toNat) else none
  | .float d => d.toNat?.map fun n => UInt64.ofNat (min n Word.greatest)
  | .text s => Text.Digits.readWord? 10 (Text.trimmed s.toList)
  | _ => none

/-- Same kind and same value; doubles compare as numbers. -/
def same : Scalar → Scalar → Bool
  | .null, .null => true
  | .bool a, .bool b => a = b
  | .int a, .int b => a = b
  | .float a, .float b => a.equal b
  | .text a, .text b => a = b
  | _, _ => false

/-- An integer of structured data, which may not fit 64 bits with sign. -/
def ofInteger (i : Int) : Scalar :=
  match Word.signed? i with
  | some i => .int i
  | none => .float (Double.ofInt i)

def ofJson? : Json → Option Scalar
  | .null => some .null
  | .bool b => some (.bool b)
  | .integer i => some (ofInteger i)
  | .double d => some (.float d)
  | .string s => some (.text s)
  | _ => none

def toJson : Scalar → Json
  | .null => .null
  | .bool b => .bool b
  | .int i => .integer i.toInt
  | .float d => .double d
  | .text s => .string s

/-- What a cell with this value shows: a nested value is shown by its text. -/
def ofCell (value : Json) : Scalar :=
  match value with
  | .null => .null
  | .bool b => .bool b
  | .integer i => ofInteger i
  | .double d => .float d
  | .string s => .text s
  | nested => .text nested.text

end Scalar

end Listing
