import Listing.Unicode.Direction
import Listing.Unicode.Joining
import Listing.Unicode.NormalForm
import Listing.Url.Domain.Letter
import Listing.Url.Punycode

/-!
# Labels

The parts of a domain name between its points. A label with letters beyond ASCII is written in
letters of ASCII after a sign, and every such label is the writing of one that could have been
given in its own letters.
-/

namespace Listing.Url.Domain.Label

open Unicode

/-- Stands before the writing of a label. -/
def sign : List Char := "xn--".toList

def longest : Nat := 1000

def longestWritten : Nat := 2000

/-- A label that stays as it is when it is given in its own letters. -/
def isSettled (label : List Char) : Bool :=
  label.all (fun c => letters? c = some [c]) && NormalForm.ofList label = label &&
    !sign.isPrefixOf label

def read? (label : List Char) : Option (List Char) :=
  if sign.isPrefixOf label then
    let written := label.drop sign.length
    if written.all isAscii && written.length ≤ longestWritten then
      (Punycode.decode? written).filter fun letters => !letters.all isAscii && isSettled letters
    else none
  else some label

def write (label : List Char) : List Char :=
  if label.all isAscii then label else sign ++ Punycode.encode label

/-- Keeps letters from being joined that otherwise are. -/
def nonJoiner : Char := '\u200C'

def joiner : Char := '\u200D'

def neighbour? (s : List Char) : Option Char := (s.dropWhile Joining.isTransparent).head?

/-- A joiner stands after a sign that takes a vowel away, and the other one also between
letters that would be joined. The text before is written backwards. -/
def joinersStand (before : List Char) : List Char → Bool
  | [] => true
  | c :: r =>
    let stands :=
      (c ≠ joiner && c ≠ nonJoiner) ||
        before.head?.any (combiningClass · = CombiningClass.virama) ||
        (c = nonJoiner && (neighbour? before).any Joining.joinsNext &&
          (neighbour? r).any Joining.joinsPrevious)
    stands && joinersStand (c :: before) r

/-- A label that can stand in a domain name, its direction aside. -/
def isValid (label : List Char) : Bool :=
  label.all isAscii ||
    label.length ≤ longest && !label.head?.any isMark && joinersStand [] label

/-- A label that is read in one direction: the letters go all one way, it starts with one of
them and ends, its last marks aside, with a letter or a number, and to the left the numbers
are of one kind. -/
def isOneWay (label : List Char) : Bool :=
  match label.map direction with
  | [] => true
  | first :: rest =>
    let rest := (rest.reverse.dropWhile (· = .mark)).reverse
    let last := rest.getLast?.getD first
    match first with
    | .leftToRight =>
      rest.all (fun d => d ≠ .rightToLeft && d ≠ .arabicNumber) &&
        (last = .leftToRight || last = .europeanNumber)
    | .rightToLeft =>
      !rest.contains .leftToRight && last ≠ .mark && last ≠ .neutral &&
        !(rest.contains .arabicNumber && rest.contains .europeanNumber)
    | _ => false

def hasLeftward (label : List Char) : Bool :=
  label.any fun c => !isAscii c && (direction c = .rightToLeft || direction c = .arabicNumber)

end Listing.Url.Domain.Label
