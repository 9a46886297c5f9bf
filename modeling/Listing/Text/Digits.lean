import Listing.Word

/-!
# Numbers written in digits

Natural numbers in a radix up to sixteen. Reading takes capital and small letters;
core writes them with small ones, and in radix ten the two are inverse to each other.
-/

namespace Listing.Text.Digits

def value? (radix : Nat) (c : Char) : Option Nat :=
  let v := if c.isDigit then c.toNat - 48
    else if 'a' ≤ c && c ≤ 'f' then c.toNat - 87
    else if 'A' ≤ c && c ≤ 'F' then c.toNat - 55
    else 16
  if v < radix then some v else none

/-- The number that digits denote after a number already read. -/
def readFrom? (radix : Nat) (n : Nat) : List Char → Option Nat
  | [] => some n
  | c :: r => (value? radix c).bind fun v => readFrom? radix (n * radix + v) r

/-- One or more digits and nothing else. -/
def read? (radix : Nat) (s : List Char) : Option Nat :=
  if s = [] then none else readFrom? radix 0 s

/-- One or more digits after an optional plus sign, denoting a number of 64 bits. -/
def readWord? (radix : Nat) (s : List Char) : Option UInt64 :=
  (read? radix (if s.head? = some '+' then s.drop 1 else s)).bind Word.ofNat?

def write (n : Nat) : List Char := Nat.toDigits 10 n

def writeInt (i : Int) : List Char :=
  match i with
  | .ofNat n => write n
  | .negSucc n => '-' :: write (n + 1)

end Listing.Text.Digits
