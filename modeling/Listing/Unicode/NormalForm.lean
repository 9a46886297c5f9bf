import Listing.Unicode.CombiningClass
import Listing.Unicode.Composition

/-!
# Normal form

One spelling for texts that are the same: composed characters are taken apart, marks are put in
order, and what can be composed is composed. This is the normal form C of the Unicode standard
for all texts without the characters that stand for a single other one.
-/

namespace Listing.Unicode.NormalForm

/-- How often a character can be taken apart. -/
def depth : Nat := 3

/-- The parts of a character; of two parts only the first has parts itself. -/
def takeApart : Nat → Char → List Char
  | 0, c => [c]
  | depth + 1, c =>
    match parts? c with
    | some (a, b) => takeApart depth a ++ [b]
    | none => [c]

/-- Adds a character to a text that is written backwards. A mark goes past those of higher
classes. -/
def place (text : List Char) (c : Char) : List Char :=
  match text with
  | [] => [c]
  | d :: r =>
    if 0 < combiningClass c ∧ combiningClass c < combiningClass d then d :: place r c
    else c :: d :: r

def ordered (s : List Char) : List Char := (s.foldl place []).reverse

/-- Composes a character with what follows it. Between them stand only `marks`, and one of
them whose class is not lower keeps a character from the first. -/
def composeFrom (first : Char) (marks : List Char) : List Char → List Char
  | [] => first :: marks
  | c :: r =>
    let isKept := marks.getLast?.any (combiningClass c ≤ combiningClass ·)
    match if isKept then none else compose? first c with
    | some d => composeFrom d marks r
    | none =>
      if combiningClass c = 0 then first :: marks ++ composeFrom c [] r
      else composeFrom first (marks ++ [c]) r

def composed : List Char → List Char
  | [] => []
  | c :: r => if combiningClass c = 0 then composeFrom c [] r else c :: composed r

/-- The first number of a mark. Before it every character is its own normal form and stays
apart from the next one. -/
def firstMark : Nat := 0x300

def ofList (s : List Char) : List Char :=
  if s.all (·.toNat < firstMark) then s else composed (ordered (s.flatMap (takeApart depth)))

end Listing.Unicode.NormalForm
