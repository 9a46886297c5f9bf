import Listing.Double.Basic
import Listing.Double.Literal
import Listing.Json.Value

/-!
# Numbers in structured text

A number without point and exponent is an integer if it fits 64 bits, and `-0` is a
double. All others are doubles: the digits that fit 64 bits form a significand, which is
rounded, and it is then multiplied or divided by a rounded power of ten. The two roundings
can miss the nearest double by one place; a number past the greatest double is refused.
-/

namespace Listing.Json

/-- A number as it is written. -/
structure NumberText where
  negative : Bool
  whole : List Char
  fraction : Option (List Char)
  exponent : Option (Bool × List Char)
deriving DecidableEq, Repr

namespace NumberText

/-- Appends digits to a significand while it stays below `2 ^ 64`; the others are left over. -/
def accumulate (significand : Nat) : List Char → Nat × List Char
  | [] => (significand, [])
  | c :: r =>
    let next := significand * 10 + (c.toNat - 48)
    if next < UInt64.size then accumulate next r else (significand, c :: r)

/-- A natural number, rounded, as a magnitude. -/
def rounded (n : Nat) : Double.Magnitude := Double.Magnitude.ofRank (Double.nearestRank n 1)

def magnitudeOf : Double → Double.Magnitude
  | .finite _ rank => Double.Magnitude.ofRank rank.val
  | _ => ⟨0, 0⟩

/-- Division by a power of ten, in steps of at most `10 ^ 308`. Three steps bring every
significand of 64 bits to zero. -/
def divide (negative : Bool) : Nat → Double.Magnitude → Nat → Double
  | 0, _, _ => Double.ofRank negative 0
  | fuel + 1, m, places =>
    if m.significand = 0 then Double.ofRank negative 0
    else if places ≤ 308 then Double.scaleDown negative m (rounded (Nat.pow 10 places))
    else
      divide negative fuel (magnitudeOf (Double.scaleDown negative m (rounded (Nat.pow 10 308))))
        (places - 308)

/-- The double for `significand * 10 ^ exponent`; `none` past the greatest one. -/
def scale? (negative : Bool) (significand : Nat) (exponent : Int) : Option Double :=
  if exponent < 0 then some (divide negative 4 (rounded significand) (-exponent).toNat)
  else if significand = 0 then some (Double.ofRank negative 0)
  else if 308 < exponent then none
  else
    let power := rounded (Nat.pow 10 exponent.toNat)
    match Double.scaleUp negative (rounded significand) power with
    | .infinite _ => none
    | d => some d

/-- The exponent that is written, if it is below `2 ^ 31` in size. -/
def exponentValue? (negative : Bool) (digits : List Char) : Option Int :=
  let n := Nat.ofDigitChars 10 digits 0
  if n < 0x80000000 then some (if negative then -n else n) else none

def value? (t : NumberText) : Option Json :=
  let (whole, dropped) := accumulate 0 t.whole
  match t.fraction, t.exponent, dropped with
  | none, none, [] =>
    if t.negative then
      if whole = 0 ∨ Word.signed? (-whole) = none then
        some (.double (Double.ofQuotient true whole 1))
      else some (.integer (-whole))
    else some (.integer whole)
  | _, _, _ =>
    let fraction := t.fraction.getD []
    let (significand, unused) := accumulate whole fraction
    let places : Int := (dropped.length : Int) - (fraction.length - unused.length : Nat)
    let found : Option Double :=
      match t.exponent with
      | none => scale? t.negative significand places
      | some (negative, digits) =>
        match exponentValue? negative digits with
        | some e => scale? t.negative significand (places + e)
        | none =>
          if significand ≠ 0 ∧ negative = false then none else some (Double.ofRank t.negative 0)
    found.map .double

end NumberText

end Listing.Json
