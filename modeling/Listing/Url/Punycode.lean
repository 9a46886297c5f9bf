/-!
# Letters beyond ASCII in ASCII

A text with other letters than those of ASCII is written with the letters of ASCII: first
those that it has, then the others in the order of their numbers, each as the distance from
the one before in digits of radix 36 whose thresholds adapt. Reading puts the letters back
at their places; distances are numbers of 32 bits.
-/

namespace Listing.Url.Punycode

def digit (d : Nat) : Char := if d < 26 then Char.ofNat (97 + d) else Char.ofNat (22 + d)

/-- From which value on a digit is not the last one. -/
def threshold (place bias : Nat) : Nat := max 1 (min 26 (place - bias))

theorem threshold_pos (place bias : Nat) : 0 < threshold place bias := by
  unfold threshold; omega

/-- A distance in digits, least significant first. -/
def digits (place bias value : Nat) : List Char :=
  let t := threshold place bias
  if value < t then [digit value]
  else digit (t + (value - t) % (36 - t)) :: digits (place + 36) bias ((value - t) / (36 - t))
termination_by value
decreasing_by
  have h := threshold_pos place bias
  exact Nat.lt_of_le_of_lt (Nat.div_le_self ..) (by omega)

def halve (delta steps : Nat) : Nat :=
  if 455 < delta then halve (delta / 35) (steps + 36) else steps + 36 * delta / (delta + 38)
termination_by delta
decreasing_by exact Nat.div_lt_self (by omega) (by omega)

/-- The thresholds for the next distance, from the last one and how many letters are placed. -/
def adapt (delta placed : Nat) (first : Bool) : Nat :=
  let d := if first then delta / 700 else delta / 2
  halve (d + d / placed) 0

structure State where
  delta : Nat
  bias : Nat
  placed : Nat
  written : List Char

/-- Passes over one letter of the label, which is written if it is `number`. -/
def pass (ascii number : Nat) (s : State) (letter : Nat) : State :=
  if letter < number then { s with delta := s.delta + 1 }
  else if letter = number then
    ⟨0, adapt s.delta (s.placed + 1) (s.placed = ascii), s.placed + 1,
      s.written ++ digits 36 s.bias s.delta⟩
  else s

/-- Writes every letter of each number in turn; `next` is the least number not passed yet. -/
def letters (label : List Nat) (ascii : Nat) (next : Nat) (s : State) : List Nat → State
  | [] => s
  | number :: rest =>
    let s := { s with delta := s.delta + (number - next) * (s.placed + 1) }
    let s := label.foldl (pass ascii number) s
    letters label ascii (number + 1) { s with delta := s.delta + 1 } rest

/-- The digits of a label, after its own letters of ASCII and a hyphen if it has any. -/
def encode (label : List Char) : List Char :=
  let own := label.filter (·.toNat < 0x80)
  let numbers := label.map Char.toNat
  let others := ((numbers.filter (0x80 ≤ ·)).mergeSort (· ≤ ·)).eraseDups
  let start : State := ⟨0, 72, own.length, if own = [] then [] else own ++ ['-']⟩
  (letters numbers own.length 0x80 start others).written

def value? (c : Char) : Option Nat :=
  if c.isLower then some (c.toNat - 97) else if c.isDigit then some (c.toNat - 22) else none

/-- Adds the distance at the start of a text to `sum`, and gives what is left of the text. -/
def distance? (bias place weight sum : Nat) : List Char → Option (Nat × List Char)
  | [] => none
  | c :: r =>
    match value? c with
    | none => none
    | some d =>
      let t := threshold place bias
      let sum := sum + d * weight
      if UInt32.size ≤ sum then none
      else if d < t then some (sum, r)
      else if UInt32.size ≤ weight * (36 - t) then none
      else distance? bias (place + 36) (weight * (36 - t)) sum r

theorem length_of_distance? {bias place weight sum : Nat} {s : List Char} {found : Nat × List Char}
    (h : distance? bias place weight sum s = some found) : found.2.length < s.length := by
  fun_induction distance? bias place weight sum s with
  | case1 => cases h
  | case2 => cases h
  | case3 => cases h
  | case4 => cases h; simp
  | case5 => cases h
  | case6 _ _ _ _ _ _ _ _ _ _ _ _ ih => exact Nat.lt_succ_of_lt (ih h)

/-- Puts letters at their places. `start` is the place of the one before, and `number` the
number of it. -/
def insert? (number bias start : Nat) (letters s : List Char) : Option (List Char) :=
  if s = [] then some letters
  else match _h : distance? bias 36 1 start s with
    | none => none
    | some (sum, rest) =>
      let size := letters.length + 1
      let next := number + sum / size
      if next.isValidChar then
        insert? next (adapt (sum - start) size (start = 0)) (sum % size + 1)
          (letters.insertIdx (sum % size) (Char.ofNat next)) rest
      else none
termination_by s.length
decreasing_by exact length_of_distance? ‹_›

/-- The text that is written so. There is no hyphen where it has no letters of ASCII. -/
def decode? (s : List Char) : Option (List Char) :=
  let digits := (s.reverse.takeWhile (· ≠ '-')).reverse
  if digits.length + 1 = s.length then none
  else insert? 0x80 72 0 (s.take (s.length - digits.length - 1)) digits

end Listing.Url.Punycode
