import Listing.Json.Tree

/-!
# Objects before and after they are understood

The members of an object are understood one by one, with their keys, and an object is what its
members are together.
-/

namespace Listing.Json.Tree

/-- Understanding the members in one pass is understanding their keys first and then their
values. -/
theorem valueMembers?_object (members : List (List Piece × Tree)) :
    (Tree.object members).valueMembers? = membersToJson? members := by
  induction members with
  | nil => rfl
  | cons m rest ih =>
    obtain ⟨key, t⟩ := m
    rw [valueMembers?, members?] at ih ⊢
    rw [membersToJson?, ← ih]
    cases named : Piece.text? key with
    | none => simp [named]
    | some k =>
      cases keys : rest.mapM fun m : List Piece × Tree => (Piece.text? m.1).map (·, m.2) with
      | none => simp [named, keys]
      | some known => cases value : t.toJson? <;> simp [named, keys, value]

theorem toJson?_of_valueMembers? {t : Tree} {members : List (String × Json)}
    (h : t.valueMembers? = some members) : t.toJson? = some (objectOf members) := by
  cases t with
  | object m =>
    rw [valueMembers?_object] at h
    rw [toJson?, h, Option.map_some]
  | null => cases h
  | bool b => cases h
  | number text => cases h
  | string pieces => cases h
  | array items => cases h

end Listing.Json.Tree
