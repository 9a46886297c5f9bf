import Listing.Text.Digits

/-!
# Shapes of a key

A key of a query may end in brackets that say where its value belongs: empty ones append
it to a list, and a number in them is its place. Anything else is part of the key, and so
are brackets with nothing before them.
-/

namespace Listing

inductive KeyShape where
  | plain (key : String)
  | appended (base : String)
  | indexed (base : String) (index : UInt64)
deriving DecidableEq, Repr

namespace KeyShape

/-- The shape of a key. The last brackets count and the base may hold others. -/
def of (key : String) : KeyShape :=
  match key.toList.reverse with
  | ']' :: r =>
    let inner := r.takeWhile (· ≠ '[')
    match r.dropWhile (· ≠ '[') with
    | _ :: base =>
      if base = [] then .plain key
      else if inner = [] then .appended (String.ofList base.reverse)
      else match Text.Digits.readWord? 10 inner.reverse with
        | some index => .indexed (String.ofList base.reverse) index
        | none => .plain key
    | [] => .plain key
  | _ => .plain key

/-- The key without the brackets that give its value a place. -/
def base : KeyShape → String
  | .plain key => key
  | .appended base => base
  | .indexed base _ => base

def index? : KeyShape → Option UInt64
  | .indexed _ index => some index
  | _ => none

/-- A value with such a key is an item of a list, also when it is the only one. -/
def isItem : KeyShape → Bool
  | .plain _ => false
  | _ => true

end KeyShape

end Listing
