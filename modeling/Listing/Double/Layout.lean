import Listing.Double.Shortest
import Listing.Text.Digits

/-!
# Doubles as text

Two layouts of the shortest digits: positional, as query texts have it, and one that
turns to an exponent outside a span of magnitudes, as structured data has it.
-/

namespace Listing.Double

open Text

/-- The digits with a point between them, or with zeros before or after them. -/
def Decimal.positional (d : Decimal) : List Char :=
  let digits := Digits.write d.digits
  if 0 ≤ d.exponent then digits ++ List.replicate d.exponent.toNat '0'
  else
    let places := (-d.exponent).toNat
    if places < digits.length then
      digits.take (digits.length - places) ++ '.' :: digits.drop (digits.length - places)
    else '0' :: '.' :: (List.replicate (places - digits.length) '0' ++ digits)

def Decimal.scientific (d : Decimal) (positiveSign : Bool) : List Char :=
  let digits := Digits.write d.digits
  let exponent := d.exponent + digits.length - 1
  let fraction := if 1 < digits.length then '.' :: digits.drop 1 else []
  let sign := if positiveSign && 0 ≤ exponent then ['+'] else []
  digits.take 1 ++ fraction ++ 'e' :: (sign ++ Digits.writeInt exponent)

def Decimal.leading (d : Decimal) : Int := d.exponent + (Digits.write d.digits).length - 1

def signText (negative : Bool) : List Char := if negative then ['-'] else []

/-- The layout of query texts: never an exponent, a whole number without a point. -/
def plainText : Double → String
  | .nan => "NaN"
  | .infinite negative => String.ofList (signText negative ++ "inf".toList)
  | .finite negative rank => String.ofList (signText negative ++ (shortest .up rank).positional)

/-- When a layout with exponents stays positional, and how it writes the exponent. -/
structure ExponentRule where
  tie : Tie
  least : Int
  greatest : Int
  positiveSign : Bool

/-- A finite double with a fraction, `.0` if it has none, where no exponent is written. -/
def marked (rule : ExponentRule) (negative : Bool) (rank : Nat) : List Char :=
  let d := shortest rule.tie rank
  signText negative ++
    if rank = 0 ∨ (rule.least ≤ d.leading ∧ d.leading ≤ rule.greatest) then
      d.positional ++ (if 0 ≤ d.exponent then ['.', '0'] else [])
    else d.scientific rule.positiveSign

end Listing.Double
