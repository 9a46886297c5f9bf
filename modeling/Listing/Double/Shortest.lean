import Listing.Double.Basic

/-!
# The fewest digits that read back

Of the decimals that read back as a double, those with the fewest digits are taken, and
of these the nearest to the double. Two can be equally near; which of them is taken is a
parameter, as formats differ in it.
-/

namespace Listing.Double

inductive Tie where
  | even
  | up
deriving DecidableEq, Repr

/-- The number `digits * 10 ^ exponent`. -/
structure Decimal where
  digits : Nat
  exponent : Int
deriving DecidableEq, Repr

/-- The reals that round to a double, in units of a quarter of its last place. The ends
belong to it when the significand is even. -/
structure Interval where
  low : Nat
  value : Nat
  high : Nat
  closed : Bool
  exponent : Int

def Interval.ofRank (rank : Nat) : Interval :=
  let m := Magnitude.ofRank rank
  -- Below the first double of a run the step is half as wide.
  let below := if m.significand = runLength ∧ -1074 < m.exponent then 1 else 2
  ⟨4 * m.significand - below, 4 * m.significand, 4 * m.significand + 2,
    m.significand % 2 = 0, m.exponent - 2⟩

/-- The numbers `x * 2 ^ a` and `y * 10 ^ b` multiplied by the same one, so that both are
natural. -/
def common (x : Nat) (a : Int) (y : Nat) (b : Int) : Nat × Nat :=
  (x * Nat.pow 2 a.toNat * Nat.pow 10 (-b).toNat, y * Nat.pow 10 b.toNat * Nat.pow 2 (-a).toNat)

def Interval.contains (i : Interval) (d : Decimal) : Bool :=
  let (low, x) := common i.low i.exponent d.digits d.exponent
  let (high, _) := common i.high i.exponent d.digits d.exponent
  if i.closed then low ≤ x && x ≤ high else low < x && x < high

/-- Whether the decimal is at most as far from the value as the one after it, by the rule
for ties. -/
def Interval.nearer (i : Interval) (tie : Tie) (d : Decimal) : Bool :=
  let (twice, sum) := common (2 * i.value) i.exponent (2 * d.digits + 1) d.exponent
  if twice < sum then true
  else if sum < twice then false
  else match tie with
    | .even => d.digits % 2 = 0
    | .up => false

/-- The greatest number of the grid `10 ^ exponent` that is not above the value. -/
def Interval.onGrid (i : Interval) (exponent : Int) : Decimal :=
  let (v, step) := common i.value i.exponent 1 exponent
  ⟨v / step, exponent⟩

/-- The choice on one grid: one of the two neighbours of the value on it. -/
def Interval.choose? (i : Interval) (tie : Tie) (exponent : Int) : Option Decimal :=
  let d := i.onGrid exponent
  let next : Decimal := ⟨d.digits + 1, exponent⟩
  match i.contains d, i.contains next with
  | true, true => some (if i.nearer tie d then d else next)
  | true, false => some d
  | false, true => some next
  | false, false => none

/-- The exponent of ten of the leading digit: the greatest `e` with `10 ^ e` not above the value. -/
def Interval.leading (i : Interval) : Int :=
  let (v, one) := common i.value i.exponent 1 0
  if one ≤ v then (Nat.toDigits 10 (v / one)).length - 1
  else
    let e := -((Nat.toDigits 10 (one / v)).length : Int)
    let (x, power) := common i.value i.exponent 1 (e + 1)
    if power ≤ x then e + 1 else e

/-- The first grid with a choice, from the coarsest on, at most `fuel` of them. -/
def Interval.search (i : Interval) (tie : Tie) : Nat → Int → Decimal
  | 0, exponent => i.onGrid exponent
  | fuel + 1, exponent => (i.choose? tie exponent).getD (i.search tie fuel (exponent - 1))

/-- Trailing zeros moved into the exponent, at most `fuel` of them. -/
def Decimal.strip : Nat → Decimal → Decimal
  | 0, d => d
  | fuel + 1, d =>
    if d.digits ≠ 0 ∧ d.digits % 10 = 0 then Decimal.strip fuel ⟨d.digits / 10, d.exponent + 1⟩
    else d

/-- The fewest digits that read back as the double of this rank. Seventeen always do. -/
def shortest (tie : Tie) (rank : Nat) : Decimal :=
  if rank = 0 then ⟨0, 0⟩
  else
    let i := Interval.ofRank rank
    (i.search tie 17 i.leading).strip 18

end Listing.Double
