import Listing.Double.Basic
import Listing.Text.Digits

/-!
# Decimal literals

An optional sign, digits with an optional point and at least one digit beside it, and an
optional exponent. The value is the double nearest to the number that the literal denotes.
-/

namespace Listing.Double

open Text

/-- The parts of a decimal literal: the number is `digits * 10 ^ exponent`. -/
structure Literal where
  negative : Bool
  digits : Nat
  exponent : Int
deriving DecidableEq, Repr

def splitSign : List Char → Bool × List Char
  | '-' :: r => (true, r)
  | '+' :: r => (false, r)
  | s => (false, s)

def readExponent? (s : List Char) : Option Int :=
  let (negative, digits) := splitSign s
  (Digits.read? 10 digits).map fun n => if negative then -n else n

/-- Digits, then a point and digits; one of the two runs is not empty. -/
def readFixed? (s : List Char) : Option (Nat × Int) :=
  let whole := s.takeWhile Char.isDigit
  let fraction := match s.dropWhile Char.isDigit with
    | [] => some []
    | '.' :: r => if r.all Char.isDigit then some r else none
    | _ => none
  fraction.bind fun f =>
    (Digits.read? 10 (whole ++ f)).map fun n => (n, -(f.length : Int))

def isExponentMark (c : Char) : Bool := c = 'e' || c = 'E'

def Literal.read? (s : List Char) : Option Literal :=
  let (negative, body) := splitSign s
  (readFixed? (body.takeWhile (!isExponentMark ·))).bind fun (digits, places) =>
    match body.dropWhile (!isExponentMark ·) with
    | [] => some ⟨negative, digits, places⟩
    | _ :: r => (readExponent? r).map fun e => ⟨negative, digits, places + e⟩

/-- The double nearest to `digits * 10 ^ exponent`. Far outside the range of doubles the
answer is known from the number of digits, and no power of ten is computed. -/
def ofDecimal (negative : Bool) (digits : Nat) (exponent : Int) : Double :=
  let top := exponent + (Digits.write digits).length
  if digits = 0 ∨ top < -330 then ofRank negative 0
  else if 330 < top then .infinite negative
  else ofQuotient negative (digits * Nat.pow 10 exponent.toNat)
    (Nat.pow 10 (-exponent).toNat)

def Literal.value (l : Literal) : Double := ofDecimal l.negative l.digits l.exponent

/-- A decimal literal, or an infinity or NaN by name in any case. -/
def read? (s : List Char) : Option Double :=
  let (negative, body) := splitSign s
  let name := body.map Char.toLower
  if name = "inf".toList ∨ name = "infinity".toList then some (.infinite negative)
  else if name = "nan".toList then some .nan
  else (Literal.read? s).map Literal.value

end Listing.Double
