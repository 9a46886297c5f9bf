import Listing.Double.Layout
import Listing.Json.Value

/-!
# Writing structured text

The one compact form of a value: no spaces, and only those characters escaped that have
to be. Doubles keep a mark that they are doubles, and what is not finite is `null`.
-/

namespace Listing.Json

open Text

/-- Doubles have their shortest digits, an even one on a tie, and an exponent with its sign
from `1e+16` on and below `1e-5`. -/
def doubleRule : Double.ExponentRule := ⟨.even, -5, 15, true⟩

def writeDouble : Double → List Char
  | .finite negative rank => Double.marked doubleRule negative rank.val
  | _ => "null".toList

def writeChar (c : Char) : List Char :=
  match c with
  | '"' => ['\\', '"']
  | '\\' => ['\\', '\\']
  | '\x08' => ['\\', 'b']
  | '\x0c' => ['\\', 'f']
  | '\n' => ['\\', 'n']
  | '\r' => ['\\', 'r']
  | '\t' => ['\\', 't']
  | c =>
    if c.toNat < 0x20 then
      ['\\', 'u', '0', '0', Nat.digitChar (c.toNat / 16), Nat.digitChar (c.toNat % 16)]
    else [c]

def writeString (s : String) : List Char := '"' :: (s.toList.flatMap writeChar ++ ['"'])

mutual

def write : Json → List Char
  | .null => "null".toList
  | .bool true => "true".toList
  | .bool false => "false".toList
  | .integer i => Digits.writeInt i
  | .double d => writeDouble d
  | .string s => writeString s
  | .array items => '[' :: (writeItems items ++ [']'])
  | .object members => '\x7b' :: (writeMembers members ++ ['\x7d'])

def writeItems : List Json → List Char
  | [] => []
  | [item] => write item
  | item :: rest => write item ++ ',' :: writeItems rest

def writeMembers : List (String × Json) → List Char
  | [] => []
  | [(key, value)] => writeString key ++ ':' :: write value
  | (key, value) :: rest => writeString key ++ ':' :: (write value ++ ',' :: writeMembers rest)

end

def text (value : Json) : String := String.ofList (write value)

end Listing.Json
