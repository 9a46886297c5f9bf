import Listing.Text.Digits

/-!
# Quoted texts of a configuration

Texts between double quotes have escapes and texts between single quotes have none. Three
quotes let a text run over several lines; a line break is then one character, and a
backslash before it takes it out together with all blanks that follow.
-/

namespace Listing.Toml

open Text

/-- May stand in a line. -/
def isLineChar (c : Char) : Bool := c = '\t' || (0x20 ≤ c.toNat && c.toNat ≠ 0x7F)

def isBlankChar (c : Char) : Bool := c = ' ' || c = '\t'

def scalar? (digits : List Char) : Option Char :=
  (Digits.read? 16 digits).bind fun n =>
    if n < 0xD800 ∨ (0xE000 ≤ n ∧ n < 0x110000) then some (Char.ofNat n) else none

/-- What an escape stands for and how many characters it takes after the backslash. -/
def escape? (s : List Char) : Option (Char × Nat) :=
  match s with
  | 'b' :: _ => some ('\x08', 1)
  | 't' :: _ => some ('\t', 1)
  | 'n' :: _ => some ('\n', 1)
  | 'f' :: _ => some ('\x0c', 1)
  | 'r' :: _ => some ('\r', 1)
  | '"' :: _ => some ('"', 1)
  | '\\' :: _ => some ('\\', 1)
  | 'u' :: r => if 4 ≤ r.length then (scalar? (r.take 4)).map (·, 5) else none
  | 'U' :: r => if 8 ≤ r.length then (scalar? (r.take 8)).map (·, 9) else none
  | _ => none

def readBasic? : List Char → Option (List Char × List Char)
  | [] => none
  | c :: r =>
    if c = '"' then some ([], r)
    else if c = '\\' then
      match escape? r with
      | some (e, n) => (readBasic? (r.drop n)).map fun (text, rest) => (e :: text, rest)
      | none => none
    else if isLineChar c then (readBasic? r).map fun (text, rest) => (c :: text, rest)
    else none
termination_by s => s.length
decreasing_by
  · simp only [List.length_drop, List.length_cons]; omega
  · simp

def readLiteral? : List Char → Option (List Char × List Char)
  | [] => none
  | c :: r =>
    if c = '\'' then some ([], r)
    else if isLineChar c then (readLiteral? r).map fun (text, rest) => (c :: text, rest)
    else none

/-- Three quotes end a text. Of up to five in a row the first ones belong to it. -/
def closing? (quote : Char) (s : List Char) : Option (List Char × List Char) :=
  let run := (s.takeWhile (· = quote)).length
  if run < 3 then none
  else
    let own := min (run - 3) 2
    some (List.replicate own quote, s.drop (own + 3))

/-- Blanks and line breaks left out; a lone carriage return is no line break. -/
def skipBlankLines : List Char → List Char
  | '\r' :: '\n' :: r => skipBlankLines r
  | c :: r => if isBlankChar c || c = '\n' then skipBlankLines r else c :: r
  | [] => []

theorem length_skipBlankLines_le (s : List Char) : (skipBlankLines s).length ≤ s.length := by
  fun_induction skipBlankLines s with
  | case1 r ih => simp only [List.length_cons]; omega
  | case2 c r _ h ih => simp only [List.length_cons]; omega
  | case3 => exact Nat.le_refl _
  | case4 => exact Nat.le_refl _

/-- A backslash that ends its line, blanks after it left aside. -/
def endsLine (s : List Char) : Bool :=
  match s.dropWhile isBlankChar with
  | '\n' :: _ => true
  | '\r' :: '\n' :: _ => true
  | _ => false

/-- A text of several lines up to its three closing quotes. -/
def readLines? (escapes : Bool) (quote : Char) (s : List Char) :
    Option (List Char × List Char) :=
  match closing? quote s with
  | some found => some found
  | none =>
    match s with
    | [] => none
    | '\r' :: '\n' :: r =>
      (readLines? escapes quote r).map fun (text, rest) => ('\n' :: text, rest)
    | c :: r =>
      if c = '\\' && escapes then
        if endsLine r then readLines? escapes quote (skipBlankLines r)
        else match escape? r with
          | some (e, n) =>
            (readLines? escapes quote (r.drop n)).map fun (text, rest) => (e :: text, rest)
          | none => none
      else if isLineChar c || c = '\n' then
        (readLines? escapes quote r).map fun (text, rest) => (c :: text, rest)
      else none
termination_by s.length
decreasing_by
  · simp only [List.length_cons]; omega
  · exact Nat.lt_succ_of_le (length_skipBlankLines_le r)
  · simp only [List.length_drop, List.length_cons]; omega
  · simp

def skipFirstBreak : List Char → List Char
  | '\n' :: r => r
  | '\r' :: '\n' :: r => r
  | s => s

def readShort? : List Char → Option (List Char × List Char)
  | '"' :: r => readBasic? r
  | '\'' :: r => readLiteral? r
  | _ => none

def readLong? : List Char → Option (List Char × List Char)
  | '"' :: '"' :: '"' :: r => readLines? true '"' (skipFirstBreak r)
  | '\'' :: '\'' :: '\'' :: r => readLines? false '\'' (skipFirstBreak r)
  | s => readShort? s

def readQuoted? (s : List Char) : Option (String × List Char) :=
  (readShort? s).map fun (text, rest) => (String.ofList text, rest)

def readString? (s : List Char) : Option (String × List Char) :=
  (readLong? s).map fun (text, rest) => (String.ofList text, rest)

end Listing.Toml
