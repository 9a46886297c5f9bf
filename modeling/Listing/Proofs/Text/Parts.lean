/-!
# Parts between separators

A query is cut into pairs, a value into items and a report into lines. The parts never hold
the separator, so parts that do not hold it are told apart again when they were joined.
-/

namespace Listing.Text

variable {α : Type} [DecidableEq α]

theorem notMem_of_mem_splitOn {separator : α} {s part : List α}
    (h : part ∈ s.splitOn separator) : separator ∉ part := by
  induction s generalizing part with
  | nil =>
    rw [List.splitOn_nil, List.mem_singleton] at h
    simp [h]
  | cons a r ih =>
    rw [List.splitOn_cons_eq_if_modifyHead] at h
    by_cases ha : a = separator
    · rw [if_pos (by simpa using ha)] at h
      rcases List.mem_cons.mp h with rfl | h
      · exact List.not_mem_nil
      · exact ih h
    · rw [if_neg (by simpa using ha)] at h
      cases hr : r.splitOn separator with
      | nil => exact False.elim (List.splitOn_ne_nil separator r hr)
      | cons first rest =>
        rw [hr, List.modifyHead_cons] at h
        rcases List.mem_cons.mp h with rfl | h
        · intro hmem
          rcases List.mem_cons.mp hmem with rfl | hmem
          · exact ha rfl
          · exact ih (hr ▸ List.mem_cons_self) hmem
        · exact ih (hr ▸ List.mem_cons_of_mem first h)

omit [DecidableEq α] in
/-- Parts that are ended, not joined, leave an empty one behind the last. -/
theorem flatMap_ended_eq_intercalate (separator : α) (parts : List (List α)) :
    parts.flatMap (· ++ [separator]) = [separator].intercalate (parts ++ [[]]) := by
  induction parts with
  | nil => rfl
  | cons part rest ih =>
    rw [List.flatMap_cons, ih]
    cases rest with
    | nil => simp
    | cons next others => simp [List.intercalate_cons_cons]

/-- Lines are told apart again if the separator that ends them is in none of them. -/
theorem splitOn_flatMap_ended {separator : α} {parts : List (List α)}
    (clean : ∀ part ∈ parts, separator ∉ part) :
    (parts.flatMap (· ++ [separator])).splitOn separator = parts ++ [[]] := by
  rw [flatMap_ended_eq_intercalate]
  refine List.splitOn_intercalate _ ?_ (by simp)
  intro part hp
  rcases List.mem_append.mp hp with inside | last
  · exact clean part inside
  · rw [List.mem_singleton.mp last]
    exact List.not_mem_nil

/-- Joined parts are told apart again exactly if none of them holds the separator. -/
theorem splitOn_intercalate_eq_iff {separator : α} {parts : List (List α)} (h : parts ≠ []) :
    ([separator].intercalate parts).splitOn separator = parts ↔
      ∀ part ∈ parts, separator ∉ part := by
  constructor
  · intro apart part hpart
    rw [← apart] at hpart
    exact notMem_of_mem_splitOn hpart
  · intro clean
    exact List.splitOn_intercalate _ clean h

end Listing.Text
