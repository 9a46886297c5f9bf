/-!
# Maps keyed by text

A map from texts to values, kept as its entries in the order of the keys. The order is
that of code points, which is also that of UTF-8 bytes. A map is determined by what it
answers for each key, so equal maps are written alike.
-/

namespace Listing

universe u v

structure KeyMap (α : Type u) where
  entries : List (String × α)
  sorted : entries.Pairwise fun a b => a.1 < b.1

namespace KeyMap

variable {α : Type u} {β : Type v}

/-- Puts a value under a key and replaces the one that was there. -/
def insertEntry (key : String) (value : α) : List (String × α) → List (String × α)
  | [] => [(key, value)]
  | (k, v) :: rest =>
    if key < k then (key, value) :: (k, v) :: rest
    else if key = k then (key, value) :: rest
    else (k, v) :: insertEntry key value rest

theorem fst_mem_insertEntry {key : String} {value : α} {a : String × α}
    {l : List (String × α)} (h : a ∈ insertEntry key value l) : a = (key, value) ∨ a ∈ l := by
  induction l with
  | nil => simpa [insertEntry] using h
  | cons b rest ih =>
    obtain ⟨k, v⟩ := b
    rw [insertEntry] at h
    split at h
    · simpa using h
    · split at h
      · simp only [List.mem_cons] at h ⊢
        exact h.imp_right Or.inr
      · simp only [List.mem_cons] at h ⊢
        rcases h with h | h
        · exact Or.inr (Or.inl h)
        · exact (ih h).imp_right Or.inr

theorem lt_of_not_lt_of_ne {a b : String} (h : ¬a < b) (hne : a ≠ b) : b < a := by
  refine Classical.byContradiction fun h' => hne ?_
  exact String.le_antisymm (String.not_lt.1 h') (String.not_lt.1 h)

theorem sorted_insertEntry (key : String) (value : α) {l : List (String × α)}
    (h : l.Pairwise fun a b => a.1 < b.1) :
    (insertEntry key value l).Pairwise fun a b => a.1 < b.1 := by
  induction l with
  | nil => simp [insertEntry]
  | cons b rest ih =>
    obtain ⟨k, v⟩ := b
    obtain ⟨first, others⟩ := List.pairwise_cons.1 h
    rw [insertEntry]
    split
    · next hlt =>
      refine List.pairwise_cons.2 ⟨?_, h⟩
      intro a ha
      rcases List.mem_cons.1 ha with rfl | ha
      · exact hlt
      · exact String.lt_trans hlt (first a ha)
    · next hlt =>
      split
      · next heq =>
        subst heq
        exact List.pairwise_cons.2 ⟨first, others⟩
      · next hne =>
        refine List.pairwise_cons.2 ⟨?_, ih others⟩
        intro a ha
        rcases fst_mem_insertEntry ha with rfl | ha
        · exact lt_of_not_lt_of_ne hlt hne
        · exact first a ha

def empty : KeyMap α := ⟨[], List.Pairwise.nil⟩

instance : EmptyCollection (KeyMap α) := ⟨empty⟩

instance : Inhabited (KeyMap α) := ⟨empty⟩

def insert (m : KeyMap α) (key : String) (value : α) : KeyMap α :=
  ⟨insertEntry key value m.entries, sorted_insertEntry key value m.sorted⟩

def get? (m : KeyMap α) (key : String) : Option α := m.entries.lookup key

def contains (m : KeyMap α) (key : String) : Bool := (m.get? key).isSome

def size (m : KeyMap α) : Nat := m.entries.length

def isEmpty (m : KeyMap α) : Bool := m.entries.isEmpty

/-- Of entries with one key the last counts. -/
def ofList (entries : List (String × α)) : KeyMap α :=
  entries.foldl (fun m e => m.insert e.1 e.2) empty

/-- Both maps in one; where both have a key, the value of `patch`. -/
def merge (m patch : KeyMap α) : KeyMap α :=
  patch.entries.foldl (fun m e => m.insert e.1 e.2) m

/-- A change to each value, which may drop it. -/
def filterMap (f : String → α → Option β) (m : KeyMap α) : KeyMap β :=
  ⟨m.entries.filterMap fun e => (f e.1 e.2).map (e.1, ·), by
    refine List.Pairwise.filterMap _ ?_ m.sorted
    intro a b hab a' ha b' hb
    obtain ⟨x, _, rfl⟩ := Option.map_eq_some_iff.1 ha
    obtain ⟨y, _, rfl⟩ := Option.map_eq_some_iff.1 hb
    exact hab⟩

theorem ext_entries {m n : KeyMap α} (h : m.entries = n.entries) : m = n := by
  cases m; cases n; cases h; rfl

instance [DecidableEq α] : DecidableEq (KeyMap α) := fun m n =>
  if h : m.entries = n.entries then isTrue (ext_entries h)
  else isFalse fun he => h (he ▸ rfl)

end KeyMap

end Listing
