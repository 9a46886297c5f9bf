import Listing.Json.Tree

/-!
# Reading structured text

The shape of a text, or nothing. Each function answers with what it read and what is left
of the text.
-/

namespace Listing.Json

def isSpace (c : Char) : Bool := c = ' ' || c = '\n' || c = '\t' || c = '\r'

def skipSpace (s : List Char) : List Char := s.dropWhile isSpace

def readHex? (digits : List Char) : Option Nat := Text.Digits.read? 16 digits

def escaped? (c : Char) : Option Char :=
  match c with
  | '"' => some '"'
  | '\\' => some '\\'
  | '/' => some '/'
  | 'b' => some '\x08'
  | 'f' => some '\x0c'
  | 'n' => some '\n'
  | 'r' => some '\r'
  | 't' => some '\t'
  | _ => none

def readPieces? : List Char → Option (List Piece × List Char)
  | [] => none
  | '"' :: r => some ([], r)
  | '\\' :: 'u' :: a :: b :: c :: d :: r => do
    let n ← readHex? [a, b, c, d]
    let (pieces, rest) ← readPieces? r
    some (.unit n :: pieces, rest)
  | '\\' :: c :: r => do
    let c ← escaped? c
    let (pieces, rest) ← readPieces? r
    some (.char c :: pieces, rest)
  | c :: r =>
    if c.toNat < 0x20 || c = '\\' then none
    else do
      let (pieces, rest) ← readPieces? r
      some (.char c :: pieces, rest)

def readFraction? : List Char → Option (Option (List Char) × List Char)
  | '.' :: r =>
    let digits := r.takeWhile Char.isDigit
    if digits = [] then none else some (some digits, r.dropWhile Char.isDigit)
  | s => some (none, s)

def readExponent? : List Char → Option (Option (Bool × List Char) × List Char)
  | [] => some (none, [])
  | c :: r =>
    if c = 'e' || c = 'E' then
      let (negative, r) := Double.splitSign r
      let digits := r.takeWhile Char.isDigit
      if digits = [] then none else some (some (negative, digits), r.dropWhile Char.isDigit)
    else some (none, c :: r)

def readNumber? (s : List Char) : Option (NumberText × List Char) :=
  let (negative, body) := match s with
    | '-' :: r => (true, r)
    | _ => (false, s)
  let whole := body.takeWhile Char.isDigit
  if whole = [] ∨ (whole.head? = some '0' ∧ 1 < whole.length) then none
  else do
    let (fraction, r) ← readFraction? (body.dropWhile Char.isDigit)
    let (exponent, r) ← readExponent? r
    some (⟨negative, whole, fraction, exponent⟩, r)

/-- The text after a word. -/
def expect? (word s : List Char) : Option (List Char) :=
  if s.take word.length = word then some (s.drop word.length) else none

mutual

/-- One value. Each call takes one of `fuel`; twice the length of the text is enough. -/
def readValue? : Nat → List Char → Option (Tree × List Char)
  | 0, _ => none
  | fuel + 1, s =>
    match skipSpace s with
    | '{' :: r =>
      match skipSpace r with
      | '}' :: rest => some (.object [], rest)
      | r => do
        let (members, rest) ← readMembers? fuel r
        some (.object members, rest)
    | '[' :: r =>
      match skipSpace r with
      | ']' :: rest => some (.array [], rest)
      | r => do
        let (items, rest) ← readItems? fuel r
        some (.array items, rest)
    | '"' :: r => do
      let (pieces, rest) ← readPieces? r
      some (.string pieces, rest)
    | 'n' :: r => (expect? ['u', 'l', 'l'] r).map (.null, ·)
    | 't' :: r => (expect? ['r', 'u', 'e'] r).map (.bool true, ·)
    | 'f' :: r => (expect? ['a', 'l', 's', 'e'] r).map (.bool false, ·)
    | r => do
      let (number, rest) ← readNumber? r
      some (.number number, rest)

/-- The items of an array up to its closing bracket, at least one. -/
def readItems? : Nat → List Char → Option (List Tree × List Char)
  | 0, _ => none
  | fuel + 1, s => do
    let (item, r) ← readValue? fuel s
    match skipSpace r with
    | ']' :: rest => some ([item], rest)
    | ',' :: r =>
      let (items, rest) ← readItems? fuel r
      some (item :: items, rest)
    | _ => none

/-- The members of an object up to its closing brace, at least one. -/
def readMembers? : Nat → List Char → Option (List (List Piece × Tree) × List Char)
  | 0, _ => none
  | fuel + 1, s =>
    match skipSpace s with
    | '"' :: r => do
      let (key, r) ← readPieces? r
      match skipSpace r with
      | ':' :: r =>
        let (value, r) ← readValue? fuel r
        match skipSpace r with
        | '}' :: rest => some ([(key, value)], rest)
        | ',' :: r =>
          let (members, rest) ← readMembers? fuel r
          some ((key, value) :: members, rest)
        | _ => none
      | _ => none
    | _ => none

end

/-- The shape of a whole text. -/
def Tree.read? (s : String) : Option Tree :=
  match readValue? (2 * s.toList.length + 2) s.toList with
  | some (t, rest) => if skipSpace rest = [] then some t else none
  | none => none

/-- The value of a whole text. -/
def read? (s : String) : Option Json := (Tree.read? s).bind (·.value? 0)

end Listing.Json
