/-!
# Blank characters

The characters with the Unicode property White_Space, and trimming by them.
The class of core is the part of it below U+0080 without the line tabulation
and the form feed, so it is not used for text that a person or a server wrote.
-/

namespace Listing.Text

/-- A character with the Unicode property White_Space. -/
def isBlank (c : Char) : Bool :=
  let n := c.toNat
  (0x09 ≤ n && n ≤ 0x0D) || n = 0x20 || n = 0x85 || n = 0xA0 || n = 0x1680 ||
    (0x2000 ≤ n && n ≤ 0x200A) || n = 0x2028 || n = 0x2029 || n = 0x202F ||
    n = 0x205F || n = 0x3000

def trimStart (s : List Char) : List Char := s.dropWhile isBlank

def trimEnd (s : List Char) : List Char := (s.reverse.dropWhile isBlank).reverse

/-- The text without the blanks around it. -/
def trimmed (s : List Char) : List Char := trimEnd (trimStart s)

/-- A text of blanks only, the empty one included. -/
def allBlank (s : String) : Bool := s.toList.all isBlank

def trim (s : String) : String := String.ofList (trimmed s.toList)

/-- Nothing is trimmed from a text without blanks. -/
theorem trimmed_eq_self {s : List Char} (h : ∀ c ∈ s, isBlank c = false) : trimmed s = s := by
  have kept {l : List Char} (h : ∀ c ∈ l, isBlank c = false) : l.dropWhile isBlank = l := by
    cases l with
    | nil => rfl
    | cons c r => rw [List.dropWhile_cons_of_neg (by simp [h c List.mem_cons_self])]
  rw [trimmed, trimStart, kept h, trimEnd, kept fun c hc => h c (List.mem_reverse.mp hc),
    List.reverse_reverse]

end Listing.Text
