import Listing.Text.Percent
import Listing.Text.Utf8
import Listing.Url.Domain.Label
import Listing.Url.Ip

/-!
# Hosts

The host of a URL as it is written in the end: a domain name in small letters of ASCII, or
an address in its shortest form. A name in any script comes to these letters in steps: its
characters are mapped, brought into normal form and cut into labels, and every label is written.
-/

namespace Listing.Url

namespace Domain

open Unicode

def isForbidden (c : Char) : Bool :=
  c.toNat ≤ 0x20 || c.toNat = 0x7F ||
    ['#', '/', ':', '<', '>', '?', '@', '[', '\\', ']', '^', '|', '%'].contains c

def labels? (name : List Char) : Option (List (List Char)) := do
  let mapped ← name.mapM letters?
  let labels ← ((NormalForm.ofList mapped.flatten).splitOn '.').mapM Label.read?
  let isOneWay := !labels.any Label.hasLeftward || labels.all Label.isOneWay
  if labels.all Label.isValid && isOneWay then some labels else none

def toAscii? (name : List Char) : Option (List Char) :=
  (labels? name).bind fun labels =>
    let ascii := List.intercalate ['.'] (labels.map Label.write)
    if ascii.any isForbidden then none else some ascii

end Domain

open Text

/-- The domain name that a text means, its escapes undone. -/
def domainOf (s : List Char) : Except Error (List Char) :=
  match Domain.toAscii? (Utf8.decode (Percent.unescape (Utf8.encode s))) with
  | none => .error .invalidDomain
  | some [] => .error .emptyHost
  | some domain => .ok domain

/-- A host of a scheme whose hosts are domain names or addresses. -/
def hostOfDomain (s : List Char) : Except Error String :=
  if s.head? = some '[' then
    if s.getLast? = some ']' then
      match Ipv6.read? (s.drop 1).dropLast with
      | some groups => .ok (String.ofList ('[' :: (Ipv6.write groups ++ [']'])))
      | none => .error .invalidIpv6
    else .error .invalidIpv6
  else do
    let domain ← domainOf s
    if Ipv4.endsInNumber domain then
      match Ipv4.read? domain with
      | some address => .ok (String.ofList (Ipv4.write address))
      | none => .error .invalidIpv4
    else .ok (String.ofList domain)

/-- A host of any other scheme, of which little is known. -/
def otherHost (s : List Char) : Except Error String :=
  if s.head? = some '[' then hostOfDomain s
  else if s.any (fun c => Domain.isForbidden c && c ≠ '%' && 0x1F < c.toNat && c.toNat ≠ 0x7F ||
      c.toNat = 0) then
    .error .forbiddenHostCharacter
  else .ok (String.ofList (Percent.encode (fun c => 0x1F < c.toNat && c.toNat < 0x7F) s))

end Listing.Url
