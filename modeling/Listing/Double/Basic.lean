/-!
# Double-precision numbers

A finite double is a sign and a rank: its place among the doubles that are not
negative, counted up from zero. Ranks below `2 ^ 52` are the multiples of the least
positive double; from there on each run of `2 ^ 52` ranks doubles the step. The rank is
unique, so equality of values of this type is equality of doubles, up to the sign of
zero and the one NaN, on which `Double.equal` says what comparison says.

Rounding takes a quotient of natural numbers to the nearest double and a tie to the
even rank. The significand counts up into the next run when it overflows, so rank
arithmetic needs no case for it.
-/

namespace Listing

/-- How many ranks have one step: `2 ^ 52`. -/
def Double.runLength : Nat := 0x10000000000000

/-- One more than the rank of the greatest finite double. -/
def Double.rankBound : Nat := 2047 * Double.runLength

inductive Double where
  | nan
  | infinite (negative : Bool)
  | finite (negative : Bool) (rank : Fin Double.rankBound)
deriving DecidableEq, Repr

namespace Double

/-- The double is `significand * 2 ^ exponent`, its sign aside. -/
structure Magnitude where
  significand : Nat
  exponent : Int
deriving DecidableEq, Repr

def Magnitude.ofRank (rank : Nat) : Magnitude :=
  if rank < runLength then ⟨rank, -1074⟩
  else ⟨runLength + rank % runLength, (rank / runLength : Nat) - 1075⟩

/-- A positive quotient equal to `significand * 2 ^ exponent`. -/
def Magnitude.quotient (m : Magnitude) : Nat × Nat :=
  if 0 ≤ m.exponent then (m.significand * Nat.pow 2 m.exponent.toNat, 1)
  else (m.significand, Nat.pow 2 (-m.exponent).toNat)

/-- The quotient to the nearest number, a tie to the even one. -/
def roundHalfEven (num den : Nat) : Nat :=
  let q := num / den
  let twice := 2 * (num % den)
  if twice < den then q
  else if den < twice then q + 1
  else if q % 2 = 0 then q else q + 1

/-- The quotient `num / den` over `2 ^ exponent`. -/
def scaled (num den : Nat) (exponent : Int) : Nat × Nat :=
  if 0 ≤ exponent then (num, den * Nat.pow 2 exponent.toNat)
  else (num * Nat.pow 2 (-exponent).toNat, den)

/-- The exponent at which `num / den` has 53 binary digits before the point, or the least
exponent of all if that is greater. -/
def exponentFor (num den : Nat) : Int :=
  let guess := (num.log2 : Int) - den.log2 - 52
  let (n, d) := scaled num den guess
  let exact := if n < d * runLength then guess - 1 else guess
  max exact (-1074)

/-- The rank of the double nearest to `num / den`; from `rankBound` on there is none. -/
def nearestRank (num den : Nat) : Nat :=
  if num = 0 then 0
  else
    let e := exponentFor num den
    let (n, d) := scaled num den e
    (e + 1074).toNat * runLength + roundHalfEven n d

def ofRank (negative : Bool) (rank : Nat) : Double :=
  if h : rank < rankBound then .finite negative ⟨rank, h⟩ else .infinite negative

/-- The double nearest to a quotient, a tie to the even one. -/
def ofQuotient (negative : Bool) (num den : Nat) : Double :=
  ofRank negative (nearestRank num den)

def zero : Double := ofRank false 0

def ofNat (n : Nat) : Double := ofQuotient false n 1

def ofInt (i : Int) : Double := ofQuotient (i < 0) i.natAbs 1

/-- Comparison: NaN differs from itself and both zeros are equal. -/
def equal : Double → Double → Bool
  | .nan, _ => false
  | _, .nan => false
  | .infinite s, .infinite t => s = t
  | .finite s a, .finite t b => a = b && (s = t || a.val = 0)
  | _, _ => false

def toNat? : Double → Option Nat
  | .finite negative rank =>
    let (n, d) := (Magnitude.ofRank rank).quotient
    if (negative = true ∧ rank.val ≠ 0) ∨ n % d ≠ 0 then none else some (n / d)
  | _ => none

def scaleUp (negative : Bool) (a b : Magnitude) : Double :=
  let (n, d) := a.quotient
  let (n', d') := b.quotient
  ofQuotient negative (n * n') (d * d')

def scaleDown (negative : Bool) (a b : Magnitude) : Double :=
  let (n, d) := a.quotient
  let (n', d') := b.quotient
  ofQuotient negative (n * d') (d * n')

end Double

end Listing
