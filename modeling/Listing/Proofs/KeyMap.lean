import Listing.KeyMap
import Mathlib.Data.List.Induction
import Mathlib.Data.List.Perm.Basic

/-!
# Laws of maps keyed by text

What each operation does to the answer for a key. A map is no more than these answers, so
equations between maps are proved key by key.
-/

namespace Listing.KeyMap

universe u v

variable {α : Type u} {β : Type v}

theorem lookup_cons_eq_if (key : String) (value : α) (rest : List (String × α)) (k : String) :
    List.lookup k ((key, value) :: rest) = if k = key then some value else rest.lookup k := by
  by_cases h : k = key
  · simp [h]
  · have hb : (k == key) = false := by simpa using h
    simp [List.lookup_cons, hb, h]

/-- Below its first key a sorted list answers nothing. -/
theorem lookup_of_forall_lt {k : String} {l : List (String × α)} (h : ∀ e ∈ l, k < e.1) :
    l.lookup k = none := by
  rw [List.lookup_eq_none_iff]
  intro e he
  have apart : k ≠ e.1 := by
    intro hk
    exact String.lt_irrefl _ (hk ▸ h e he)
  simpa using apart

theorem lookup_insertEntry (key : String) (value : α) (l : List (String × α)) (k : String) :
    (insertEntry key value l).lookup k = if k = key then some value else l.lookup k := by
  induction l with
  | nil => exact lookup_cons_eq_if key value [] k
  | cons e rest ih =>
    obtain ⟨key', value'⟩ := e
    rw [insertEntry]
    split
    · exact lookup_cons_eq_if key value _ k
    · split
      next he =>
        subst he
        by_cases h : k = key <;> simp [lookup_cons_eq_if, h]
      next hne =>
        rw [lookup_cons_eq_if, lookup_cons_eq_if, ih]
        by_cases h : k = key
        · subst h
          simp [hne]
        · simp [h]

@[simp] theorem get?_empty (k : String) : (∅ : KeyMap α).get? k = none := rfl

@[simp] theorem get?_insert (m : KeyMap α) (key : String) (value : α) (k : String) :
    (m.insert key value).get? k = if k = key then some value else m.get? k :=
  lookup_insertEntry key value m.entries k

theorem lookup_eq_some_iff_mem {l : List (String × α)}
    (sorted : l.Pairwise fun a b => a.1 < b.1) {k : String} {value : α} :
    l.lookup k = some value ↔ (k, value) ∈ l := by
  induction l with
  | nil => simp
  | cons e rest ih =>
    obtain ⟨key, value'⟩ := e
    obtain ⟨first, others⟩ := List.pairwise_cons.mp sorted
    by_cases h : k = key
    · subst h
      have absent : (k, value) ∉ rest := fun hmem => String.lt_irrefl k (first _ hmem)
      simp [absent, eq_comm]
    · rw [lookup_cons_eq_if, if_neg h, ih others]
      simp [h]

theorem get?_eq_some_iff_mem {m : KeyMap α} {k : String} {value : α} :
    m.get? k = some value ↔ (k, value) ∈ m.entries :=
  lookup_eq_some_iff_mem m.sorted

/-- A map is determined by what it answers. -/
theorem ext_get? {m n : KeyMap α} (h : ∀ k, m.get? k = n.get? k) : m = n := by
  have distinct {l : List (String × α)} (hl : l.Pairwise fun a b => a.1 < b.1) : l.Nodup := by
    refine List.Pairwise.imp ?_ hl
    rintro a b hab rfl
    exact String.lt_irrefl _ hab
  have perm : m.entries.Perm n.entries := by
    refine (List.perm_ext_iff_of_nodup (distinct m.sorted) (distinct n.sorted)).mpr ?_
    rintro ⟨k, value⟩
    rw [← get?_eq_some_iff_mem, ← get?_eq_some_iff_mem, h k]
  refine ext_entries (perm.eq_of_pairwise ?_ m.sorted n.sorted)
  intro a b _ _ hab hba
  exact False.elim (String.lt_irrefl _ (String.lt_trans hab hba))

theorem get?_filterMap (f : String → α → Option β) (m : KeyMap α) (k : String) :
    (m.filterMap f).get? k = (m.get? k).bind (f k) := by
  ext value
  rw [get?_eq_some_iff_mem, Option.bind_eq_some_iff]
  simp only [filterMap, List.mem_filterMap, Option.map_eq_some_iff, get?_eq_some_iff_mem]
  constructor
  · rintro ⟨⟨key, a⟩, hmem, b, hb, he⟩
    cases he
    exact ⟨a, hmem, hb⟩
  · rintro ⟨a, hmem, ha⟩
    exact ⟨(k, a), hmem, value, ha, rfl⟩

theorem get?_foldl_insert {l : List (String × α)}
    (sorted : l.Pairwise fun a b => a.1 < b.1) (m : KeyMap α) (k : String) :
    (l.foldl (fun m e => m.insert e.1 e.2) m).get? k = (l.lookup k).or (m.get? k) := by
  induction l generalizing m with
  | nil => rfl
  | cons e rest ih =>
    obtain ⟨key, value⟩ := e
    obtain ⟨first, others⟩ := List.pairwise_cons.mp sorted
    rw [List.foldl_cons, ih others, get?_insert]
    by_cases h : k = key
    · subst h
      simp [lookup_of_forall_lt first]
    · rw [lookup_cons_eq_if, if_neg h, if_neg h]

/-- A merged map answers as the patch does where the patch has the key. -/
@[simp] theorem get?_merge (m patch : KeyMap α) (k : String) :
    (m.merge patch).get? k = (patch.get? k).or (m.get? k) :=
  get?_foldl_insert patch.sorted m k

@[simp] theorem merge_empty (m : KeyMap α) : m.merge ∅ = m := rfl

@[simp] theorem empty_merge (m : KeyMap α) : (∅ : KeyMap α).merge m = m :=
  ext_get? fun k => by simp

/-- Patches can be merged with each other first. -/
theorem merge_assoc (a b c : KeyMap α) : (a.merge b).merge c = a.merge (b.merge c) := by
  refine ext_get? fun k => ?_
  rw [get?_merge, get?_merge, get?_merge, get?_merge, Option.or_assoc]

instance : Std.Associative (merge (α := α)) := ⟨merge_assoc⟩

/-- A map whose keys the patch has all is replaced by the patch. -/
theorem merge_eq_right {m patch : KeyMap α}
    (within : ∀ k, m.contains k = true → patch.contains k = true) : m.merge patch = patch := by
  refine ext_get? fun k => ?_
  rw [get?_merge]
  cases own : m.get? k with
  | none => exact Option.or_none
  | some value =>
    have has : (patch.get? k).isSome = true := within k (by rw [contains, own]; rfl)
    exact Option.or_of_isSome has

@[simp] theorem contains_merge (m patch : KeyMap α) (k : String) :
    (m.merge patch).contains k = (m.contains k || patch.contains k) := by
  rw [contains, get?_merge, Option.isSome_or, Bool.or_comm]
  rfl

theorem merge_self (m : KeyMap α) : m.merge m = m := merge_eq_right fun _ has => has

/-- A patch that was merged into the map already is merged as the patch alone. -/
theorem merge_merge_self (m patch : KeyMap α) : m.merge (m.merge patch) = m.merge patch := by
  rw [← merge_assoc, merge_self]

theorem ofList_entries (m : KeyMap α) : ofList m.entries = m := empty_merge m

/-- Of the entries with a key the last one counts. -/
theorem get?_ofList (entries : List (String × α)) (k : String) :
    (ofList entries).get? k = ((entries.filter (·.1 = k)).getLast?).map (·.2) := by
  induction entries using List.reverseRecOn with
  | nil => rfl
  | append_singleton entries e ih =>
    have step : ofList (entries ++ [e]) = (ofList entries).insert e.1 e.2 := by
      rw [ofList, List.foldl_append]
      rfl
    rw [step, get?_insert, ih, List.filter_append]
    by_cases same : e.1 = k
    · simp [same]
    · simp [same, Ne.symm same]

/-- Patches merged one after another are one patch. -/
theorem foldl_merge_eq (m : KeyMap α) (patches : List (KeyMap α)) :
    patches.foldl merge m = m.merge (patches.foldl merge ∅) := by
  have joined : patches.foldl merge (m.merge ∅) = m.merge (patches.foldl merge ∅) :=
    List.foldl_assoc
  rwa [merge_empty] at joined

/-- A key has the value of the last patch with the key, or else its own. -/
theorem get?_foldl_merge (m : KeyMap α) (patches : List (KeyMap α)) (k : String) :
    (patches.foldl merge m).get? k =
      (patches.filterMap (·.get? k)).getLast?.or (m.get? k) := by
  induction patches using List.reverseRecOn with
  | nil => rfl
  | append_singleton patches patch ih =>
    rw [List.foldl_append, List.foldl_cons, List.foldl_nil, get?_merge, ih,
      List.filterMap_append, List.getLast?_append, Option.or_assoc]
    cases last : patch.get? k with
    | none => simp [last]
    | some value => simp [last]

end Listing.KeyMap
