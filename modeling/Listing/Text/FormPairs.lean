import Listing.Text.Percent
import Listing.Text.Utf8

/-!
# Form-encoded pairs

Pairs of texts as a query carries them: `&` stands between pairs, the first `=` of a
pair ends its name, a space is written `+`, and letters, digits and `* - . _` are
written as themselves. Every text reads as some list of pairs.
-/

namespace Listing.Text.FormPairs

/-- Written as itself. -/
def isPlain (c : Char) : Bool :=
  c.isAlphanum || c = '*' || c = '-' || c = '.' || c = '_'

def encode (s : List Char) : List Char :=
  s.flatMap fun c =>
    if c = ' ' then ['+'] else Percent.encode isPlain [c]

def encodePair (p : String × String) : List Char :=
  encode p.1.toList ++ '=' :: encode p.2.toList

/-- The pairs in order with `&` between them. -/
def write (pairs : List (String × String)) : String :=
  String.ofList (List.intercalate ['&'] (pairs.map encodePair))

def decode (s : List UInt8) : String :=
  let spaced := s.map fun b => if b = 0x2B then 0x20 else b
  String.ofList (Utf8.decode (Percent.unescape spaced))

def decodePair (s : List UInt8) : String × String :=
  (decode (s.takeWhile (· ≠ 0x3D)), decode ((s.dropWhile (· ≠ 0x3D)).drop 1))

/-- The pairs of a text; an empty part between two `&` is no pair. -/
def read (s : String) : List (String × String) :=
  (((Utf8.encode s.toList).splitOn 0x26).filter (· ≠ [])).map decodePair

end Listing.Text.FormPairs
