import Listing.Json.Number

/-!
# Structured text before it is understood

The shape of a structured text, in which numbers and escapes are still as they are
written. A reader of a record passes over the members that it does not know without
understanding them, so a number that is too large or half of a surrogate pair is an
error only where it is used.
-/

namespace Listing.Json

/-- A piece of a quoted text: a character, or a 16-bit unit from an escape. -/
inductive Piece where
  | char (c : Char)
  | unit (n : Nat)
deriving DecidableEq, Repr

def isHighSurrogate (n : Nat) : Bool := 0xD800 ≤ n && n < 0xDC00

def isLowSurrogate (n : Nat) : Bool := 0xDC00 ≤ n && n < 0xE000

/-- The characters that pieces spell; a high unit goes with the low unit after it. -/
def Piece.join? : List Piece → Option (List Char)
  | [] => some []
  | .char c :: r => (join? r).map (c :: ·)
  | .unit n :: .unit m :: r =>
    if isHighSurrogate n then
      if isLowSurrogate m then
        (join? r).map (Char.ofNat (0x10000 + (n - 0xD800) * 0x400 + (m - 0xDC00)) :: ·)
      else none
    else if isLowSurrogate n then none
    else (join? (.unit m :: r)).map (Char.ofNat n :: ·)
  | .unit n :: r =>
    if isHighSurrogate n || isLowSurrogate n then none
    else (join? r).map (Char.ofNat n :: ·)

def Piece.text? (pieces : List Piece) : Option String := (Piece.join? pieces).map String.ofList

inductive Tree where
  | null
  | bool (value : Bool)
  | number (text : NumberText)
  | string (pieces : List Piece)
  | array (items : List Tree)
  | object (members : List (List Piece × Tree))

namespace Tree

mutual

/-- How many arrays and objects stand inside each other at most. -/
def depth : Tree → Nat
  | .array items => depthItems items + 1
  | .object members => depthMembers members + 1
  | _ => 0

def depthItems : List Tree → Nat
  | [] => 0
  | t :: r => max t.depth (depthItems r)

def depthMembers : List (List Piece × Tree) → Nat
  | [] => 0
  | (_, t) :: r => max t.depth (depthMembers r)

end

mutual

/-- The value that is written. Of members with one key the last counts. -/
def toJson? : Tree → Option Json
  | .null => some .null
  | .bool b => some (.bool b)
  | .number t => t.value?
  | .string pieces => (Piece.text? pieces).map .string
  | .array items => (itemsToJson? items).map .array
  | .object members => (membersToJson? members).map Json.objectOf

def itemsToJson? : List Tree → Option (List Json)
  | [] => some []
  | t :: r => do
    let value ← t.toJson?
    let rest ← itemsToJson? r
    some (value :: rest)

def membersToJson? : List (List Piece × Tree) → Option (List (String × Json))
  | [] => some []
  | (key, t) :: r => do
    let key ← Piece.text? key
    let value ← t.toJson?
    let rest ← membersToJson? r
    some ((key, value) :: rest)

end

/-- Arrays and objects nest at most this deep where their contents are used. -/
def depthLimit : Nat := 127

/-- The value of a tree that lies inside `outer` arrays and objects. -/
def value? (t : Tree) (outer : Nat) : Option Json :=
  if t.depth + outer ≤ depthLimit then t.toJson? else none

def members? : Tree → Option (List (String × Tree))
  | .object members => members.mapM fun (key, t) => (Piece.text? key).map (·, t)
  | _ => none

/-- The members of an object in their order, with their keys and values understood. -/
def valueMembers? (t : Tree) : Option (List (String × Json)) :=
  t.members?.bind fun members =>
    members.mapM fun m => m.2.toJson?.map fun value => (m.1, value)

/-- The one member with a key; `none` if there are several. -/
def member? {α : Type} (members : List (String × α)) (key : String) : Option (Option α) :=
  match members.filter (·.1 = key) with
  | [] => some none
  | [(_, value)] => some (some value)
  | _ => none

end Tree

end Listing.Json
