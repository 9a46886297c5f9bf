/-!
# Reading UTF-8 that may be broken

Bytes are read into characters. A byte that starts no character, and the longest
start of a character that breaks off, are each read as one U+FFFD; nothing is
skipped otherwise, so what is well-formed reads as itself.
-/

namespace Listing.Text.Utf8

def encode (s : List Char) : List UInt8 := s.flatMap String.utf8EncodeChar

/-- What stands in the place of bytes that are no character. -/
def replacement : Char := '\uFFFD'

/-- What a first byte says: the bits it carries, how many bytes follow, and the range
of the next one. The ranges leave out long forms, surrogates and values past U+10FFFF. -/
structure Lead where
  bits : Nat
  following : Nat
  low : UInt8
  high : UInt8

def lead? (b : UInt8) : Option Lead :=
  if 0xC2 ≤ b && b ≤ 0xDF then some ⟨b.toNat - 0xC0, 1, 0x80, 0xBF⟩
  else if b = 0xE0 then some ⟨0, 2, 0xA0, 0xBF⟩
  else if b = 0xED then some ⟨13, 2, 0x80, 0x9F⟩
  else if 0xE1 ≤ b && b ≤ 0xEF then some ⟨b.toNat - 0xE0, 2, 0x80, 0xBF⟩
  else if b = 0xF0 then some ⟨0, 3, 0x90, 0xBF⟩
  else if 0xF1 ≤ b && b ≤ 0xF3 then some ⟨b.toNat - 0xF0, 3, 0x80, 0xBF⟩
  else if b = 0xF4 then some ⟨4, 3, 0x80, 0x8F⟩
  else none

/-- Reads `n` following bytes, of which the first lies between `low` and `high`. The bits
are `none` if one is missing; the byte that broke the sequence is not taken. -/
def follow (n : Nat) (low high : UInt8) (bits : Nat) (s : List UInt8) :
    Option Nat × List UInt8 :=
  match n, s with
  | 0, s => (some bits, s)
  | _ + 1, [] => (none, [])
  | n + 1, b :: r =>
    if low ≤ b && b ≤ high then follow n 0x80 0xBF (bits * 64 + (b.toNat - 0x80)) r
    else (none, b :: r)

theorem length_follow_le (n : Nat) (low high : UInt8) (bits : Nat) (s : List UInt8) :
    (follow n low high bits s).2.length ≤ s.length := by
  induction n generalizing low high bits s with
  | zero => simp [follow]
  | succ n ih =>
    cases s with
    | nil => simp [follow]
    | cons b r =>
      by_cases h : (low ≤ b && b ≤ high) = true
      · simp only [follow, if_pos h, List.length_cons]
        exact Nat.le_succ_of_le (ih ..)
      · simp [follow, h]

/-- The characters of the bytes, with U+FFFD where the bytes are broken. -/
def decode : List UInt8 → List Char
  | [] => []
  | b :: r =>
    if b < 0x80 then Char.ofNat b.toNat :: decode r
    else match lead? b with
      | none => replacement :: decode r
      | some l =>
        let found := follow l.following l.low l.high l.bits r
        (found.1.map Char.ofNat).getD replacement :: decode found.2
termination_by s => s.length
decreasing_by
  · simp
  · simp
  · exact Nat.lt_succ_of_le (length_follow_le ..)

end Listing.Text.Utf8
