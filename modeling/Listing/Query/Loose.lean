import Listing.Query.Scalar

/-!
# Loose equality

Scalars of different kinds compare as numbers: truth values are 1 and 0, and a text is
the number that it spells. Texts compare as texts, and `null` equals itself only.
-/

namespace Listing

/-- The number that a text without surrounding blanks spells. The empty text is zero, a
prefix `0x`, `0o` or `0b` sets the radix of an integer, only `Infinity` spells a value that is
not finite, and all else is a decimal literal. -/
def numberOfText? (s : List Char) : Option Double :=
  if s = [] then some Double.zero
  else if s = "Infinity".toList ∨ s = "+Infinity".toList then some (.infinite false)
  else if s = "-Infinity".toList then some (.infinite true)
  else match s with
    | '0' :: 'x' :: r | '0' :: 'X' :: r => inRadix 16 r
    | '0' :: 'o' :: r | '0' :: 'O' :: r => inRadix 8 r
    | '0' :: 'b' :: r | '0' :: 'B' :: r => inRadix 2 r
    | s => (Double.Literal.read? s).map Double.Literal.value
where
  inRadix (radix : Nat) (digits : List Char) : Option Double :=
    (Text.Digits.readWord? radix digits).map fun n => Double.ofNat n.toNat

namespace Scalar

/-- The number as which a scalar is compared with a scalar of another kind. -/
def number? : Scalar → Option Double
  | .null => none
  | .bool b => some (Double.ofNat b.toNat)
  | .int i => some (Double.ofInt i.toInt)
  | .float d => some d
  | .text s => numberOfText? (Text.trimmed s.toList)

def looselyEqual (a b : Scalar) : Bool :=
  match a, b with
  | .null, .null => true
  | .null, _ => false
  | _, .null => false
  | .text s, .text t => s = t
  | .bool s, .bool t => s = t
  | a, b =>
    match a.number?, b.number? with
    | some x, some y => x.equal y
    | _, _ => false

end Scalar

end Listing
