/-!
# Percent signs

A byte that has to be hidden is written as a percent sign and two hexadecimal
digits. What has to be hidden differs from place to place and is a parameter.
-/

namespace Listing.Text.Percent

/-- The capital hexadecimal digit of a number below 16. -/
def hexDigit (n : Nat) : Char := (Nat.digitChar n).toUpper

def hexValue? (b : UInt8) : Option Nat :=
  if 0x30 ≤ b && b ≤ 0x39 then some (b.toNat - 0x30)
  else if 0x41 ≤ b && b ≤ 0x46 then some (b.toNat - 0x37)
  else if 0x61 ≤ b && b ≤ 0x66 then some (b.toNat - 0x57)
  else none

def escape (b : UInt8) : List Char := ['%', hexDigit (b.toNat / 16), hexDigit (b.toNat % 16)]

/-- Undoes escapes; a percent sign without two digits after it stands for itself. -/
def unescape : List UInt8 → List UInt8
  | [] => []
  | b :: r =>
    if b = 0x25 then
      match r with
      | high :: low :: rest =>
        match hexValue? high, hexValue? low with
        | some h, some l => UInt8.ofNat (h * 16 + l) :: unescape rest
        | _, _ => b :: unescape (high :: low :: rest)
      | [low] => [b, low]
      | [] => [b]
    else b :: unescape r

/-- Writes each character for which `keep` holds as itself and the bytes of all others escaped. -/
def encode (keep : Char → Bool) (s : List Char) : List Char :=
  s.flatMap fun c => if keep c then [c] else (String.utf8EncodeChar c).flatMap escape

end Listing.Text.Percent
