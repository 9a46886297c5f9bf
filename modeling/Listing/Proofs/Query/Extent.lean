import Listing.Proofs.Query.Pairs
import Mathlib.Algebra.Order.BigOperators.Group.List

/-!
# How much a query can hold

No list read from a query has more items than the query has bytes. Every step from bytes to
items only loses some: escapes and characters take several bytes each, and a separator is
gone for every cut.
-/

namespace Listing

namespace Text

/-- A cut takes out one separator between any two parts, and nothing else. -/
theorem sum_length_add_length_splitOn {α : Type} [DecidableEq α] (separator : α) (s : List α) :
    ((s.splitOn separator).map List.length).sum + (s.splitOn separator).length =
      s.length + 1 := by
  induction s with
  | nil => rw [List.splitOn_nil]; rfl
  | cons a r ih =>
    rw [List.splitOn_cons_eq_if_modifyHead]
    by_cases h : a = separator
    · rw [if_pos (by simpa using h)]
      simp only [List.map_cons, List.length_nil, List.sum_cons, List.length_cons]
      omega
    · rw [if_neg (by simpa using h)]
      obtain ⟨part, parts, hr⟩ := List.exists_cons_of_ne_nil (List.splitOn_ne_nil separator r)
      rw [hr] at ih ⊢
      simp only [List.modifyHead_cons, List.map_cons, List.sum_cons, List.length_cons] at ih ⊢
      omega

theorem Utf8.length_decode_le (s : List UInt8) : (decode s).length ≤ s.length := by
  fun_induction decode s with
  | case1 => exact Nat.le_refl 0
  | case2 b r _ ih => exact Nat.succ_le_succ ih
  | case3 b r _ _ ih => exact Nat.succ_le_succ ih
  | case4 b r _ l _ found ih =>
    have rest : found.2.length ≤ r.length := length_follow_le ..
    simp only [List.length_cons]
    omega

theorem Percent.length_unescape_le (s : List UInt8) : (unescape s).length ≤ s.length := by
  fun_induction unescape s with
  | case1 => exact Nat.le_refl 0
  | case2 high low rest h l _ _ ih =>
    simp only [List.length_cons]
    omega
  | case3 high low rest _ ih => exact Nat.succ_le_succ ih
  | case4 low => exact Nat.le_refl _
  | case5 => exact Nat.le_refl _
  | case6 b r _ ih => exact Nat.succ_le_succ ih

namespace FormPairs

theorem length_decode_le (s : List UInt8) : (decode s).length ≤ s.length := by
  rw [decode_eq_meaning, String.length_ofList]
  calc (Utf8.decode (meaning s)).length
      ≤ (meaning s).length := Utf8.length_decode_le _
    _ ≤ (s.map fun b => if b = 0x2B then 0x20 else b).length := Percent.length_unescape_le _
    _ = s.length := List.length_map _

/-- Of a part with anything in it, at least one byte does not count for the value. -/
theorem length_decodePair_lt {s : List UInt8} (h : s ≠ []) :
    (decodePair s).2.length < s.length := by
  have value : (decodePair s).2.length ≤ ((s.dropWhile (· ≠ 0x3D)).drop 1).length :=
    length_decode_le _
  have rest : (s.dropWhile (· ≠ 0x3D)).length ≤ s.length :=
    (List.dropWhile_sublist _).length_le
  have some : 0 < s.length := List.length_pos_of_ne_nil h
  rw [List.length_drop] at value
  omega

theorem length_encode_toList (s : String) : (Utf8.encode s.toList).length = s.utf8ByteSize := by
  rw [← String.size_toByteArray, ← String.utf8Encode_toList, List.utf8Encode,
    List.size_toByteArray]
  rfl

/-- Every pair takes one byte more than its value has characters. -/
theorem sum_length_read_le (s : String) :
    ((read s).map fun p => p.2.length + 1).sum ≤ s.utf8ByteSize := by
  have each (parts : List (List UInt8)) :
      (((parts.filter (· ≠ [])).map decodePair).map fun p => p.2.length + 1).sum ≤
        (parts.map List.length).sum := by
    induction parts with
    | nil => exact Nat.le_refl 0
    | cons part rest ih =>
      by_cases h : part = []
      · simpa [h] using ih
      · have here := length_decodePair_lt h
        simp only [ne_eq, h, not_false_eq_true, decide_true, List.filter_cons_of_pos,
          List.map_cons, List.sum_cons] at ih ⊢
        omega
  have whole := sum_length_add_length_splitOn 0x26 (Utf8.encode s.toList)
  have some := List.length_pos_of_ne_nil (List.splitOn_ne_nil 0x26 (Utf8.encode s.toList))
  rw [length_encode_toList] at whole
  exact (each _).trans (by omega)

end FormPairs

end Text

namespace Gathered

theorem length_itemsOf_le (format : ArrayFormat) (p : String × String) :
    (itemsOf format p).length ≤ p.2.length + 1 := by
  unfold itemsOf
  split
  · have cut := Text.sum_length_add_length_splitOn ',' p.2.toList
    rw [String.length_toList] at cut
    rw [List.length_map]
    omega
  · exact Nat.le_add_left 1 _

theorem length_scalars_value_le (g : Gathered) :
    g.value.scalars.length ≤ max 1 g.items.length := by
  unfold value
  split
  · rw [FieldValue.scalars, List.length_map, List.length_mergeSort]
    exact Nat.le_max_right _ _
  · exact Nat.le_max_left _ _

end Gathered

namespace Fields

theorem length_scalars_ofPairs_le {format : ArrayFormat} {pairs : List (String × String)}
    {key : String} {value : FieldValue} (found : (ofPairs format pairs).get? key = some value) :
    value.scalars.length ≤ (pairs.map fun p => p.2.length + 1).sum := by
  rw [get?_ofPairs] at found
  split at found
  next => cases found
  next some =>
    cases found
    obtain ⟨p, hp⟩ := List.exists_mem_of_ne_nil _ some
    have items : ((pairsAt key pairs).flatMap (Gathered.itemsOf format)).length ≤
        ((pairsAt key pairs).map fun p => p.2.length + 1).sum := by
      rw [List.length_flatMap]
      exact List.sum_le_sum fun p _ => Gathered.length_itemsOf_le format p
    have kept : ((pairsAt key pairs).map fun p => p.2.length + 1).sum ≤
        (pairs.map fun p => p.2.length + 1).sum :=
      (List.filter_sublist.map _).sum_le_sum fun _ _ => Nat.zero_le _
    have one : p.2.length + 1 ≤ ((pairsAt key pairs).map fun p => p.2.length + 1).sum :=
      List.single_le_sum (fun _ _ => Nat.zero_le _) _ (List.mem_map_of_mem hp)
    have read := Gathered.length_scalars_value_le (Gathered.ofPairs format (pairsAt key pairs))
    simp only [Gathered.ofPairs] at read ⊢
    omega

/-- No value read from a query holds more than the query has bytes. -/
theorem length_scalars_ofQuery_le {query : String} {format : ArrayFormat} {key : String}
    {value : FieldValue} (found : (ofQuery query format).get? key = some value) :
    value.scalars.length ≤ query.utf8ByteSize := by
  refine (length_scalars_ofPairs_le found).trans ((Text.FormPairs.sum_length_read_le _).trans ?_)
  split
  next r he =>
    have whole : query = "?" ++ String.ofList r := by
      simp [← String.toList_inj, he]
    rw [whole, String.utf8ByteSize_append]
    exact Nat.le_add_left _ _
  next => exact Nat.le_refl _

end Fields

end Listing
