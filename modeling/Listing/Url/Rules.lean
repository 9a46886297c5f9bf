import Listing.Text.Percent

/-!
# Rules of URLs

What a URL starts with, which characters its parts have to escape, and what can be wrong with
it. Some schemes are special: their URLs have hosts that are domain names or addresses, paths
that start with a slash, and backslashes that count as slashes.
-/

namespace Listing.Url

open Text

inductive Error where
  | emptyHost
  | invalidDomain
  | invalidPort
  | invalidIpv4
  | invalidIpv6
  | forbiddenHostCharacter
  | relativeWithoutBase
deriving DecidableEq, Repr

def Error.message : Error → String
  | .emptyHost => "empty host"
  | .invalidDomain => "invalid international domain name"
  | .invalidPort => "invalid port number"
  | .invalidIpv4 => "invalid IPv4 address"
  | .invalidIpv6 => "invalid IPv6 address"
  | .forbiddenHostCharacter => "invalid domain character"
  | .relativeWithoutBase => "relative URL without a base"

/-- Schemes with hosts, and the port that is meant when none is given. -/
def defaultPort? (scheme : String) : Option Nat :=
  [("http", 80), ("https", 443), ("ws", 80), ("wss", 443), ("ftp", 21)].lookup scheme

def isSpecial (scheme : String) : Bool := (defaultPort? scheme).isSome || scheme = "file"

def isSchemeChar (c : Char) : Bool := c.isAlphanum || c = '+' || c = '-' || c = '.'

/-- The scheme and what follows its colon. -/
def splitScheme? (s : List Char) : Option (String × List Char) :=
  let name := s.takeWhile isSchemeChar
  match name, s.dropWhile isSchemeChar with
  | c :: _, ':' :: rest => if c.isAlpha then some ((String.ofList name).toLower, rest) else none
  | _, _ => none

def isSlash (special : Bool) (c : Char) : Bool := c = '/' || (special && c = '\\')

/-- Ends the part of a URL with user, host and port. -/
def endsAuthority (special : Bool) (c : Char) : Bool := isSlash special c || c = '?' || c = '#'

/-- Writes characters escaped that are no visible ASCII or belong to `set`. -/
def escapeSet (set : List Char) (s : List Char) : List Char :=
  Percent.encode (fun c => 0x1F < c.toNat && c.toNat < 0x7F && !set.contains c) s

def fragmentSet : List Char := [' ', '"', '<', '>', '`']

def pathSet : List Char := fragmentSet ++ ['#', '?', '\x7b', '\x7d']

def credentialsSet : List Char :=
  pathSet ++ ['/', ':', ';', '=', '@', '[', '\\', ']', '^', '|']

def querySet (special : Bool) : List Char :=
  [' ', '"', '#', '<', '>'] ++ if special then ['\''] else []

end Listing.Url
