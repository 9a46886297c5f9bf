import Listing.Text.Digits
import Listing.Url.Rules

/-!
# Addresses in numbers

Hosts that are given as a number: four bytes, of which the last part may stand for several
and any part may be octal or hexadecimal, or eight groups of sixteen bits in brackets.
-/

namespace Listing.Url

open Text

namespace Ipv4

/-- A part with the radix that its first digits choose; the empty number is zero. -/
def part? (s : List Char) : Option Nat :=
  match s with
  | [] => none
  | '0' :: 'x' :: r | '0' :: 'X' :: r => if r = [] then some 0 else Digits.read? 16 r
  | '0' :: c :: r => Digits.read? 8 (c :: r)
  | s => Digits.read? 10 s

/-- Without the empty part after a last point. -/
def parts (s : List Char) : List (List Char) :=
  let all := s.splitOn '.'
  if all.getLast? = some [] ∧ 1 < all.length then all.dropLast else all

/-- A host whose last part is a number is an address and nothing else. -/
def endsInNumber (s : List Char) : Bool :=
  match (parts s).getLast? with
  | none => false
  | some last => last ≠ [] && (last.all Char.isDigit || (part? last).isSome)

/-- The address as one number: the last part fills the bytes that the others leave. -/
def read? (s : List Char) : Option Nat := do
  let numbers ← (parts s).mapM part?
  let last ← numbers.getLast?
  let others := numbers.dropLast
  if 3 < others.length ∨ others.any (255 < ·) ∨ Nat.pow 256 (4 - others.length) ≤ last then none
  else some (others.zipIdx.foldl (fun sum (n, i) => sum + n * Nat.pow 256 (3 - i)) last)

def write (address : Nat) : List Char :=
  List.intercalate ['.'] ([3, 2, 1, 0].map fun i => Digits.write (address / Nat.pow 256 i % 256))

end Ipv4

namespace Ipv6

/-- Four decimal bytes as two groups. Here a part has no leading zero. -/
def bytes? (s : List Char) : Option (List Nat) := do
  let parts ← (s.splitOn '.').mapM fun part =>
    if part.length ≤ 3 ∧ part.all Char.isDigit ∧ (part.head? = some '0' → part.length = 1) then
      (Digits.read? 10 part).bind fun n => if n < 256 then some n else none
    else none
  match parts with
  | [a, b, c, d] => some [a * 256 + b, c * 256 + d]
  | _ => none

def group? (s : List Char) : Option Nat := if s.length ≤ 4 then Digits.read? 16 s else none

def groups? (bytesAllowed : Bool) : List (List Char) → Option (List Nat)
  | [] => some []
  | [last] =>
    if bytesAllowed && last.contains '.' then bytes? last else (group? last).map fun n => [n]
  | first :: rest => do
    let n ← group? first
    let ns ← groups? bytesAllowed rest
    some (n :: ns)

def side? (bytesAllowed : Bool) (s : List Char) : Option (List Nat) :=
  if s = [] then some [] else groups? bytesAllowed (s.splitOn ':')

def splitGap : List Char → Option (List Char × List Char)
  | [] => none
  | ':' :: ':' :: r => some ([], r)
  | c :: r => (splitGap r).map fun (a, b) => (c :: a, b)

/-- Eight groups; two colons stand for one or more groups that are zero. -/
def read? (s : List Char) : Option (List Nat) :=
  match splitGap s with
  | none => do
    let groups ← side? true s
    if groups.length = 8 then some groups else none
  | some (before, after) => do
    let left ← side? false before
    let right ← side? true after
    if left.length + right.length ≤ 7 then
      some (left ++ List.replicate (8 - left.length - right.length) 0 ++ right)
    else none

def zeros (groups : List Nat) : Nat := (groups.takeWhile (· = 0)).length

/-- Where the longest run of zeros starts, the first of several, and its length. -/
def longestRun (groups : List Nat) : Nat × Nat :=
  (List.range groups.length).foldl
    (fun best i => let n := zeros (groups.drop i); if best.2 < n then (i, n) else best) (0, 0)

def writeGroups (groups : List Nat) : List Char :=
  List.intercalate [':'] (groups.map (Nat.toDigits 16))

/-- The groups with the longest run of two or more zeros left out. -/
def write (groups : List Nat) : List Char :=
  let (start, length) := longestRun groups
  if length < 2 then writeGroups groups
  else writeGroups (groups.take start) ++ ':' :: ':' :: writeGroups (groups.drop (start + length))

end Ipv6

end Listing.Url
