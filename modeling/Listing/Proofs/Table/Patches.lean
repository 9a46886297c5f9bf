import Listing.Proofs.KeyMap
import Listing.Table.Store
import Mathlib.Data.List.DropRight

/-!
# The query as a fold of its patches

What stands in a store depends on the last setup and the patches since then: under each
key the last patch with the key has its say. Patches may be merged with each other before
they are merged into the query, in any grouping.
-/

namespace Listing.Store

namespace Change

def seed? : Change → Option Fields
  | .seed fields => some fields
  | .merge _ => none

def patch? : Change → Option Fields
  | .seed _ => none
  | .merge patch => some patch

/-- The fields of the last setup; `first` if there is none among the changes. -/
def lastSeed (first : Fields) (changes : List Change) : Fields :=
  (changes.filterMap seed?).getLast?.getD first

/-- The patches merged since the last setup, in order. -/
def patchesSince (changes : List Change) : List Fields :=
  (changes.rtakeWhile fun c => c.seed?.isNone).filterMap patch?

theorem lastSeed_append_seed (first : Fields) (changes : List Change) (fields : Fields) :
    lastSeed first (changes ++ [.seed fields]) = fields := by
  simp [lastSeed, seed?]

theorem lastSeed_append_merge (first : Fields) (changes : List Change) (patch : Fields) :
    lastSeed first (changes ++ [.merge patch]) = lastSeed first changes := by
  simp [lastSeed, seed?]

theorem patchesSince_append_seed (changes : List Change) (fields : Fields) :
    patchesSince (changes ++ [.seed fields]) = [] := by
  simp [patchesSince, seed?]

theorem patchesSince_append_merge (changes : List Change) (patch : Fields) :
    patchesSince (changes ++ [.merge patch]) = patchesSince changes ++ [patch] := by
  simp [patchesSince, seed?, patch?]

end Change

open Change

theorem run_append_singleton (s : Store) (changes : List Change) (c : Change) :
    s.run (changes ++ [c]) = ((s.run changes).change c).2 := by
  simp [run]

/-- A store holds its last seed with the patches since then merged into it, and has
counted them. -/
theorem run_ofFields (first : Fields) (changes : List Change) :
    (ofFields first).run changes =
      ⟨(patchesSince changes).foldl KeyMap.merge (lastSeed first changes),
        (patchesSince changes).length⟩ := by
  induction changes using List.reverseRecOn with
  | nil => rfl
  | append_singleton changes c ih =>
    rw [run_append_singleton, ih]
    cases c with
    | seed fields =>
      rw [patchesSince_append_seed, lastSeed_append_seed]
      rfl
    | merge patch =>
      rw [patchesSince_append_merge, lastSeed_append_merge, List.foldl_append,
        List.length_append]
      rfl

/-- Merges alone, one after another. -/
theorem run_merges (s : Store) (patches : List Fields) :
    s.run (patches.map .merge) =
      ⟨patches.foldl KeyMap.merge s.current, s.transitions + patches.length⟩ := by
  induction patches generalizing s with
  | nil => rfl
  | cons patch rest ih =>
    have first : s.run ((patch :: rest).map .merge) = (s.merge patch).run (rest.map .merge) := rfl
    rw [first, ih, List.length_cons, Nat.add_comm rest.length, ← Nat.add_assoc]
    rfl

/-- Merging makes an idempotent monoid of the fields, and the query of a store is a fold in
it. After any changes a key has the value of the last patch with the key since the last
setup, or else that of the setup. Merges are counted since then, answer with the query that
they leave, and lose no key; several of them leave the query that their patches do when
merged with each other and then into it. -/
theorem current_is_fold_of_patches :
    (∀ a b c : Fields, (a.merge b).merge c = a.merge (b.merge c)) ∧
    (∀ a : Fields, (∅ : Fields).merge a = a ∧ a.merge ∅ = a ∧ a.merge a = a) ∧
    ∀ (first : Fields) (changes : List Change),
      let s := (ofFields first).run changes
      let patches := patchesSince changes
      (∀ k, s.current.get? k =
        (patches.filterMap (·.get? k)).getLast?.or ((lastSeed first changes).get? k)) ∧
      s.transitions = patches.length ∧
      (∀ patch, s.change (.merge patch) = (some (s.merge patch).current, s.merge patch)) ∧
      ∀ later : List Fields,
        let s' := s.run (later.map .merge)
        (∀ k, s.current.contains k = true → s'.current.contains k = true) ∧
        s'.current = (s.merge (later.foldl KeyMap.merge ∅)).current := by
  refine ⟨KeyMap.merge_assoc, ?_, ?_⟩
  · intro a
    exact ⟨KeyMap.empty_merge a, KeyMap.merge_empty a, KeyMap.merge_self a⟩
  intro first changes s patches
  have state : s = ⟨patches.foldl KeyMap.merge (lastSeed first changes), patches.length⟩ :=
    run_ofFields first changes
  refine ⟨?_, ?_, fun _ => rfl, ?_⟩
  · intro k
    rw [state]
    exact KeyMap.get?_foldl_merge _ patches k
  · rw [state]
  · intro later s'
    have together : s'.current = s.current.merge (later.foldl KeyMap.merge ∅) := by
      have merged : s' = _ := run_merges s later
      rw [merged]
      exact KeyMap.foldl_merge_eq s.current later
    constructor
    · intro k has
      rw [together, KeyMap.contains_merge, has, Bool.true_or]
    · exact together

/-- A cleared field stays in the query, and a setup forgets what was before it. -/
example :
    let name (s : String) : Fields := (∅ : Fields).insert "name" (.text s)
    let none_left : Fields := (∅ : Fields).insert "tags" (.list [])
    let s := (ofFields (name "a")).run
      [.merge (name "b"), .seed (name "c"), .merge none_left, .merge (name "")]
    s.current.entries = [("name", .text ""), ("tags", .list [])] ∧ s.transitions = 2 := by
  decide

end Listing.Store
