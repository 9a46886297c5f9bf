import Listing.Url.Authority
import Listing.Url.Path

/-!
# URLs

An absolute URL in its parts, each in the form in which it is written. Reading forgives
much: spaces around the text, line breaks in it, backslashes for slashes, and characters
that have to be escaped.
-/

namespace Listing

structure Url where
  scheme : String
  authority : Option Url.Authority
  path : String
  query : Option String
  fragment : Option String
deriving DecidableEq, Repr

namespace Url

open Text

def cleaned (s : List Char) : List Char :=
  let isOuter (c : Char) : Bool := c.toNat ≤ 0x20
  ((s.dropWhile isOuter).reverse.dropWhile isOuter).reverse.filter fun c =>
    c ≠ '\t' && c ≠ '\n' && c ≠ '\r'

def ofPath (scheme : String) (authority : Option Authority) (path after : List Char) : Url :=
  let query := match after with
    | '?' :: r => some (escapeSet (querySet (isSpecial scheme)) (r.takeWhile (· ≠ '#')))
    | _ => none
  let fragment := match after.dropWhile (· ≠ '#') with
    | _ :: r => some (escapeSet fragmentSet r)
    | [] => none
  ⟨scheme, authority, String.ofList path, query.map String.ofList, fragment.map String.ofList⟩

def splitPath (s : List Char) : List Char × List Char :=
  let isPath (c : Char) : Bool := c ≠ '?' && c ≠ '#'
  (s.takeWhile isPath, s.dropWhile isPath)

def afterSlashes? (special : Bool) (s : List Char) : Option (List Char) :=
  match s with
  | a :: b :: r => if isSlash special a && isSlash special b then some r else none
  | _ => none

/-- The URL of a file. There is a host only after exactly two slashes, and none is told for
this machine or beside a drive. -/
def ofFile (s : List Char) : Except Error Url := do
  let url (host : String) (s : List Char) : Url :=
    let (path, after) := splitPath s
    let walk := filePath path
    ofPath "file" (some ⟨none, if walk.foundDrive then "" else host, none⟩) (filePathText walk)
      after
  match afterSlashes? true s with
  | none => .ok (url "" (withoutSlash true s))
  | some r =>
    let name := r.takeWhile (!endsAuthority true ·)
    let rest := r.drop name.length
    if isDrive name then .ok (url "" r)
    else
      let host ← if name = [] then pure "" else hostOfDomain name
      if host = "" ∨ host = "localhost" then .ok (url "" rest)
      else .ok (url host (withoutSlash true rest))

/-- The URL that a text means, if it needs no other one to start from. -/
def read (s : String) : Except Error Url := do
  match splitScheme? (cleaned s.toList) with
  | none => .error .relativeWithoutBase
  | some (scheme, rest) =>
    let special := isSpecial scheme
    let authority? :=
      if special then some (rest.dropWhile (isSlash true)) else afterSlashes? false rest
    if scheme = "file" then ofFile rest
    else match authority? with
      | some s =>
        let (authority, rest) ← Authority.read scheme s
        let (path, after) := splitPath rest
        .ok (ofPath scheme (some authority) (segmentedPath special path) after)
      | none =>
        let (path, after) := splitPath rest
        .ok (ofPath scheme none
          (if path.head? = some '/' then segmentedPath false path else escapeSet [] path) after)

def text (u : Url) : String :=
  let authority := match u.authority with
    | some a => "//" ++ a.text
    | none => if u.path.startsWith "//" then "/." else ""
  u.scheme ++ ":" ++ authority ++ u.path ++ (u.query.map ("?" ++ ·)).getD "" ++
    (u.fragment.map ("#" ++ ·)).getD ""

/-- A path that is not made of segments. -/
def isOpaque (u : Url) : Bool := u.authority.isNone && !u.path.startsWith "/"

/-- The URL with another query, or none. Spaces at its very end are not kept. -/
def withQuery (u : Url) (query : Option String) : Url :=
  match query with
  | some q =>
    { u with query := some (String.ofList (escapeSet (querySet (isSpecial u.scheme)) q.toList)) }
  | none =>
    let path := if u.isOpaque && u.fragment.isNone then
      String.ofList (u.path.toList.reverse.dropWhile (· = ' ')).reverse
    else u.path
    { u with query := none, path }

/-- The URL without its credentials, if they can be told in another way. -/
def withoutCredentials (u : Url) : Url :=
  let isTold (a : Authority) : Bool := a.credentials.any Credentials.canBeTold
  { u with authority := u.authority.map fun a =>
      if isTold a then { a with credentials := none } else a }

def longestAddress : Nat := 65534

def isHostChar (c : Char) : Bool := c.isAlphanum || "!$&'()*+,-.:;=[]_~".toList.contains c

/-- Whether a request can be sent to the URL: its host has no other characters, and it is not
too long. -/
def isAddress (u : Url) : Bool :=
  u.authority.all (·.host.toList.all isHostChar) && u.text.utf8ByteSize ≤ longestAddress

end Url

end Listing
