import Listing.Text.Digits
import Listing.Url.Host

/-!
# Authorities

The part of a URL with user, password, host and port, which two slashes announce.
-/

namespace Listing.Url

open Text

/-- A user and, if it is not empty, a password, both escaped. -/
structure Credentials where
  user : String
  password : Option String
deriving DecidableEq, Repr

namespace Credentials

def read (s : List Char) : Option Credentials :=
  let user := String.ofList (escapeSet credentialsSet (s.takeWhile (· ≠ ':')))
  let password := String.ofList (escapeSet credentialsSet ((s.dropWhile (· ≠ ':')).drop 1))
  if user = "" ∧ password = "" then none
  else some ⟨user, if password = "" then none else some password⟩

def text (c : Credentials) : String :=
  c.user ++ (c.password.map (":" ++ ·)).getD "" ++ "@"

/-- Whether bytes are text: then they are what their characters are written in. -/
def isText (escaped : String) : Bool :=
  let bytes := Percent.unescape (Utf8.encode escaped.toList)
  Utf8.encode (Utf8.decode bytes) = bytes

/-- Credentials that can be told to a server: a user that is text, and if it is empty, a
password that is. -/
def canBeTold (c : Credentials) : Bool :=
  isText c.user && (c.user ≠ "" || c.password.any isText)

end Credentials

structure Authority where
  credentials : Option Credentials
  host : String
  port : Option Nat
deriving DecidableEq, Repr

/-- What stands before the last `@` of an authority, if there is one, and from there on. -/
def splitCredentials (special : Bool) (s : List Char) : Option (List Char) × List Char :=
  let authority := s.takeWhile (!endsAuthority special ·)
  let host := (authority.reverse.takeWhile (· ≠ '@')).reverse
  if host.length = authority.length then (none, s)
  else (some (authority.take (authority.length - host.length - 1)),
    s.drop (authority.length - host.length))

def splitHost (special bracketed : Bool) : List Char → List Char × List Char
  | [] => ([], [])
  | c :: r =>
    if endsAuthority special c || (c = ':' && !bracketed) then ([], c :: r)
    else
      let (host, rest) := splitHost special (c = '[' || (bracketed && c ≠ ']')) r
      (c :: host, rest)

/-- The port after a host and what follows it. A port that is meant anyway is left out, and a
backslash ends it in any scheme. -/
def readPort (scheme : String) (s : List Char) : Except Error (Option Nat × List Char) :=
  match s with
  | ':' :: r =>
    let rest := r.dropWhile Char.isDigit
    if rest.head?.any (!endsAuthority true ·) then .error .invalidPort
    else match Digits.read? 10 (r.takeWhile Char.isDigit) with
      | none => .ok (none, rest)
      | some n =>
        if n < UInt16.size then .ok (if defaultPort? scheme = some n then none else some n, rest)
        else .error .invalidPort
  | s => .ok (none, s)

/-- The authority at the start of a text and what follows it. Only a scheme that is not
special allows an empty host, and then nothing else of an authority. -/
def Authority.read (scheme : String) (s : List Char) : Except Error (Authority × List Char) := do
  let special := isSpecial scheme
  let (before, rest) := splitCredentials special s
  let credentials := before.bind Credentials.read
  let (host, rest) := splitHost special false rest
  let isBare := before ≠ some [] && credentials.isNone && rest.head? ≠ some ':'
  if host = [] && (special || !isBare) then .error .emptyHost
  else
    let host ← if special then hostOfDomain host else otherHost host
    let (port, rest) ← readPort scheme rest
    .ok (⟨credentials, host, port⟩, rest)

def Authority.text (a : Authority) : String :=
  (a.credentials.map Credentials.text).getD "" ++ a.host ++
    (a.port.map fun n => ":" ++ String.ofList (Digits.write n)).getD ""

end Listing.Url
