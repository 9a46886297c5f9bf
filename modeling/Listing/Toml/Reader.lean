import Listing.Toml.Node
import Listing.Toml.Quote

/-!
# Reading a configuration text

Lines with a key and its value, a header, or nothing, any of them with a comment. The
text is refused as a whole if any line is.
-/

namespace Listing.Toml

/-- How deep arrays and tables in braces may nest, and how many keys a dotted one may have. -/
def depthLimit : Nat := 79

def skipBlanks (s : List Char) : List Char := s.dropWhile isBlankChar

def skipBreaks : Bool → List Char → List Char
  | _, '\n' :: r => skipBreaks false r
  | _, '\r' :: '\n' :: r => skipBreaks false r
  | true, c :: r => if isLineChar c then skipBreaks true r else c :: r
  | false, c :: r =>
    if c = '#' then skipBreaks true r else if isBlankChar c then skipBreaks false r else c :: r
  | _, [] => []

def isKeyChar (c : Char) : Bool := c.isAlphanum || c = '_' || c = '-'

def readSimpleKey? (s : List Char) : Option (String × List Char) :=
  let bare := s.takeWhile isKeyChar
  if bare ≠ [] then some (String.ofList bare, s.dropWhile isKeyChar) else readQuoted? s

/-- Keys with points between them, at most `fuel`, and blanks around each. -/
def readKeys? : Nat → List Char → Option (List String × List Char)
  | 0, _ => none
  | fuel + 1, s => do
    let (key, r) ← readSimpleKey? (skipBlanks s)
    match skipBlanks r with
    | '.' :: r => do
      let (keys, rest) ← readKeys? fuel r
      some (key :: keys, rest)
    | rest => some ([key], rest)

def readKey? (s : List Char) : Option (List String × String × List Char) := do
  let (keys, rest) ← readKeys? depthLimit s
  let last ← keys.getLast?
  some (keys.dropLast, last, rest)

mutual

/-- One value. Each call takes one of `fuel`; twice the length of the text is enough. At most
`levels` brackets and braces open inside each other. -/
def readValue? : Nat → Nat → List Char → Option (Toml × List Char)
  | 0, _, _ => none
  | fuel + 1, levels, s =>
    match s, levels with
    | '[' :: r, levels + 1 =>
      match skipBreaks false r with
      | ']' :: rest => some (.array [], rest)
      | _ => (readItems? fuel levels r).map fun (items, rest) => (.array items, rest)
    | '\x7b' :: r, levels + 1 =>
      match skipBlanks r with
      | '\x7d' :: rest => some (.table [], rest)
      | _ => (readPairs? fuel levels [] r).map fun (members, rest) =>
        (.table (membersValue members), rest)
    | '"' :: _, _ | '\'' :: _, _ => (readString? s).map fun (text, rest) => (.string text, rest)
    | s, _ => readWord? s

/-- The items of an array up to its closing bracket. A comma may stand after the last one. -/
def readItems? : Nat → Nat → List Char → Option (List Toml × List Char)
  | 0, _, _ => none
  | fuel + 1, levels, s => do
    let (item, r) ← readValue? fuel levels (skipBreaks false s)
    match skipBreaks false r with
    | ']' :: rest => some ([item], rest)
    | ',' :: r =>
      match skipBreaks false r with
      | ']' :: rest => some ([item], rest)
      | r => do
        let (items, rest) ← readItems? fuel levels r
        some (item :: items, rest)
    | _ => none

/-- The keys and values of a table in braces, all in one line and no comma after the last. -/
def readPairs? : Nat → Nat → Members → List Char → Option (Members × List Char)
  | 0, _, _, _ => none
  | fuel + 1, levels, members, s => do
    let (path, key, r) ← readKey? s
    match r with
    | '=' :: r => do
      let (value, r) ← readValue? fuel levels (skipBlanks r)
      let members ← addValue path key value .defined members
      match skipBlanks r with
      | '\x7d' :: rest => some (members, rest)
      | ',' :: r => readPairs? fuel levels members r
      | _ => none
    | _ => none

end

/-- What follows a line that may only have blanks and a comment left. -/
def endLine? (s : List Char) : Option (List Char) :=
  let s := skipBlanks s
  let s := match s with
    | '#' :: r => r.dropWhile isLineChar
    | s => s
  match s with
  | [] => some []
  | '\n' :: r => some r
  | '\r' :: '\n' :: r => some r
  | _ => none

/-- What was read: the members of the root and the header in force. -/
structure Draft where
  root : Members
  header : List String

namespace Draft

def assign? (d : Draft) (path : List String) (key : String) (value : Toml) : Option Draft :=
  (update false (addValue path key value) .defined d.root d.header).map fun root => { d with root }

def openTable? (d : Draft) (path : List String) (key : String) : Option Draft :=
  (addTable path key d.root).map fun root => ⟨root, path ++ [key]⟩

def openItem? (d : Draft) (path : List String) (key : String) : Option Draft :=
  (addItem path key d.root).map fun root => ⟨root, path ++ [key]⟩

/-- One line that is not blank: a header or a key with its value. -/
def line? (d : Draft) (s : List Char) : Option (Draft × List Char) :=
  match s with
  | '[' :: '[' :: r => do
    let (path, key, r) ← readKey? r
    match r with
    | ']' :: ']' :: rest => (d.openItem? path key).map (·, rest)
    | _ => none
  | '[' :: r => do
    let (path, key, r) ← readKey? r
    match r with
    | ']' :: rest => (d.openTable? path key).map (·, rest)
    | _ => none
  | s => do
    let (path, key, r) ← readKey? s
    match r with
    | '=' :: r => do
      let r := skipBlanks r
      let (value, rest) ← readValue? (2 * r.length + 2) depthLimit r
      (d.assign? path key value).map (·, rest)
    | _ => none

/-- All lines, at most `fuel`. -/
def lines? : Nat → Draft → List Char → Option Draft
  | 0, _, _ => none
  | fuel + 1, d, s =>
    match skipBlanks s with
    | [] => some d
    | c :: r =>
      if c = '#' || c = '\n' || c = '\r' then (endLine? (c :: r)).bind (lines? fuel d)
      else do
        let (d, rest) ← d.line? (c :: r)
        let rest ← endLine? rest
        lines? fuel d rest

end Draft

/-- The members of the root table of a text. A byte order mark before it is left out. -/
def read? (s : String) : Option (List (String × Toml)) :=
  let body := match s.toList with
    | '\uFEFF' :: r => r
    | s => s
  (Draft.lines? (body.length + 1) ⟨[], []⟩ body).map fun d => membersValue d.root

end Listing.Toml
