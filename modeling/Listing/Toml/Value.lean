import Listing.Double.Literal

/-!
# Configuration values

The values of a configuration text, and how those are written that have neither quotes nor
brackets: truth values, numbers, dates and times, each one run of letters, digits and the signs
between them. Dates and times are told apart from other values but their parts are not used.
-/

namespace Listing

inductive Toml where
  | string (value : String)
  | integer (value : Int64)
  | float (value : Double)
  | bool (value : Bool)
  | dateTime
  | array (items : List Toml)
  | table (members : List (String × Toml))
deriving Inhabited

namespace Toml

def member? (members : List (String × Toml)) (key : String) : Option Toml := members.lookup key

open Text

def isWordChar (c : Char) : Bool :=
  c.isAlphanum || c = '_' || c = '+' || c = '-' || c = '.' || c = ':'

/-- Digits with single underscores between them, and without those. -/
def grouped? (isDigit : Char → Bool) : List Char → Option (List Char)
  | [] => none
  | [c] => if isDigit c then some [c] else none
  | c :: '_' :: r => if isDigit c then (grouped? isDigit r).map (c :: ·) else none
  | c :: r => if isDigit c then (grouped? isDigit r).map (c :: ·) else none

/-- Decimal digits without a leading zero. -/
def wholeDigits? (s : List Char) : Option (List Char) :=
  (grouped? Char.isDigit s).bind fun digits =>
    if digits.head? = some '0' ∧ 1 < digits.length then none else some digits

def inRange? (i : Int) : Option Toml := (Word.signed? i).map .integer

def isRadixDigit (radix : Nat) (c : Char) : Bool := (Digits.value? radix c).isSome

def inRadix? (radix : Nat) (s : List Char) : Option Toml :=
  ((grouped? (isRadixDigit radix) s).bind (Digits.read? radix)).bind fun n => inRange? n

/-- An integer, in decimal with an optional sign or in another radix without one. -/
def integer? (s : List Char) : Option Toml :=
  match s with
  | '0' :: 'x' :: r => inRadix? 16 r
  | '0' :: 'o' :: r => inRadix? 8 r
  | '0' :: 'b' :: r => inRadix? 2 r
  | s =>
    let (negative, body) := Double.splitSign s
    ((wholeDigits? body).bind (Digits.read? 10)).bind fun n =>
      inRange? (if negative then -n else n)

def floatExponent? (s : List Char) : Option Int :=
  let (negative, body) := Double.splitSign s
  ((grouped? Char.isDigit body).bind (Digits.read? 10)).map fun n => if negative then -n else n

/-- The digits before and after the point, and how many stand after it. -/
def floatDigits? (s : List Char) : Option (List Char × Nat) := do
  let whole ← wholeDigits? (s.takeWhile (· ≠ '.'))
  match s.dropWhile (· ≠ '.') with
  | [] => some (whole, 0)
  | _ :: r => do
    let fraction ← grouped? Char.isDigit r
    some (whole ++ fraction, fraction.length)

/-- A number with a point or an exponent. One past the greatest double is refused. -/
def float? (s : List Char) : Option Toml := do
  let (negative, body) := Double.splitSign s
  if body.all fun c => c ≠ '.' && !Double.isExponentMark c then none
  let (digits, places) ← floatDigits? (body.takeWhile (!Double.isExponentMark ·))
  let exponent ← match body.dropWhile (!Double.isExponentMark ·) with
    | [] => some 0
    | _ :: r => floatExponent? r
  let value := Double.ofDecimal negative (Nat.ofDigitChars 10 digits 0) (exponent - places)
  if value = .infinite false then none else some (.float value)

def special? (s : List Char) : Option Toml :=
  let (negative, body) := Double.splitSign s
  if body = "inf".toList then some (.float (.infinite negative))
  else if body = "nan".toList then some (.float .nan)
  else none

/-- A number of exactly `n` decimal digits. -/
def fixed? (n : Nat) (s : List Char) : Option Nat :=
  if s.length = n ∧ s.all Char.isDigit then Digits.read? 10 s else none

def isLeapYear (year : Nat) : Bool := year % 4 = 0 && (year % 100 ≠ 0 || year % 400 = 0)

def daysIn (year month : Nat) : Nat :=
  if month = 2 then if isLeapYear year then 29 else 28
  else if month = 4 ∨ month = 6 ∨ month = 9 ∨ month = 11 then 30
  else 31

/-- A date: year, month and day with hyphens between them. -/
def isDate (s : List Char) : Bool :=
  match fixed? 4 (s.take 4), s.drop 4 with
  | some year, '-' :: r =>
    match fixed? 2 (r.take 2), r.drop 2 with
    | some month, '-' :: day =>
      match fixed? 2 day with
      | some day => 1 ≤ month && month ≤ 12 && 1 ≤ day && day ≤ daysIn year month
      | none => false
    | _, _ => false
  | _, _ => false

def isClock (s : List Char) : Bool :=
  match fixed? 2 (s.take 2), s.drop 2 with
  | some hour, ':' :: minute => hour < 24 && (fixed? 2 minute).any (· < 60)
  | _, _ => false

/-- A time of day with seconds, which may have a fraction and may be a leap second. -/
def isTime (s : List Char) : Bool :=
  isClock (s.take 5) &&
    match s.drop 5 with
    | ':' :: r =>
      (fixed? 2 (r.take 2)).any (· ≤ 60) &&
        match r.drop 2 with
        | [] => true
        | '.' :: fraction => fraction ≠ [] && fraction.all Char.isDigit
        | _ => false
    | _ => false

/-- A time of day, perhaps with its distance from universal time. -/
def isZonedTime (s : List Char) : Bool :=
  let isZone (c : Char) : Bool := c = 'Z' || c = 'z' || c = '+' || c = '-'
  isTime (s.takeWhile (!isZone ·)) &&
    match s.dropWhile (!isZone ·) with
    | [] => true
    | [c] => c = 'Z' || c = 'z'
    | c :: r => (c = '+' || c = '-') && isClock r

/-- A date, a time of day, or both with a letter between them. -/
def isDateTime (s : List Char) : Bool :=
  isDate s || isTime s ||
    (isDate (s.take 10) &&
      match s.drop 10 with
      | c :: r => (c = 'T' || c = 't') && isZonedTime r
      | [] => false)

def word? (s : List Char) : Option Toml :=
  if s = "true".toList then some (.bool true)
  else if s = "false".toList then some (.bool false)
  else if isDateTime s then some .dateTime
  else ((special? s).or (integer? s)).or (float? s)

/-- The word at the start of a text and what follows. After a date, a space and a time
belong to the word as well. -/
def readWord? (s : List Char) : Option (Toml × List Char) :=
  let word := s.takeWhile isWordChar
  let rest := s.dropWhile isWordChar
  match rest with
  | ' ' :: r =>
    if isDate word && isZonedTime (r.takeWhile isWordChar) then
      some (.dateTime, r.dropWhile isWordChar)
    else (word? word).map (·, rest)
  | rest => (word? word).map (·, rest)

end Toml

end Listing
