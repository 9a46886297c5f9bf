import Listing.Proofs.Fetch.History
import Listing.Proofs.KeyMap
import Listing.Table.Basic

/-!
# Query, location, form and requests in lockstep

A table keeps its query in four places. Each transition brings all four to the seed with
every patch so far merged into it, and nothing else changes the query or issues a request.
Patches are those of the actions alone: what others write into the location or wipe from
the form is not among them.
-/

namespace Listing

variable {α : Type}

namespace Action

/-- The patch that the action merges into the query of a table, if it is a transition.
The patch of a submission is the whole form as it stands then. -/
def patch? (t : Table α) : Action α → Option Fields
  | .search fields => some fields
  | .changePage current pageSize => some (pagePatch current pageSize)
  | .refresh fields => some (fields.getD ∅)
  | .submit edits => some (t.form.merge edits)
  | _ => none

def isTransition : Action α → Bool
  | .search _ | .changePage _ _ | .refresh _ | .submit _ => true
  | _ => false

/-- What the action asks of the coordinator, if anything. -/
def step? : Action α → Option (Coordinator.Step α)
  | .search _ | .changePage _ _ | .refresh _ | .submit _ => some .begin
  | .respond generation outcome => some (.settle generation outcome)
  | .abandon generation => some (.abandon generation)
  | _ => none

theorem patch?_eq_none_iff {t : Table α} {a : Action α} :
    a.patch? t = none ↔ a.isTransition = false := by
  cases a <;> simp [patch?, isTransition]

theorem step?_eq_begin_iff {a : Action α} : a.step? = some .begin ↔ a.isTransition = true := by
  cases a <;> simp [step?, isTransition]

end Action

namespace Table

/-- What a transition with a patch does to a table. -/
structure Advances (t t' : Table α) (patch : Fields) : Prop where
  options : t'.options = t.options
  fields : t'.fields = t.fields.merge patch
  transitions : t'.store.transitions = t.store.transitions + 1
  requests : t'.requests = t.requests ++ [t'.fields]
  location : t'.location = t'.fields.toLocation t.options.arrayFormat
  /-- The location is written once. -/
  replacements : t'.address.replacements =
    t.address.replacements ++ [t'.fields.toLocation t.options.arrayFormat]
  /-- Keys of the query stand in the form as they do in the query, others as before. -/
  form : ∀ k, t'.form.get? k = (t'.fields.get? k).or (t.form.get? k)
  latest : t'.fetch.latest = t.fetch.latest + 1
  waiting : t'.fetch.waiting = t.fetch.waiting ++ [t.fetch.latest + 1]

/-- The form as a whole: what stood there, with the query on top. -/
theorem Advances.form_eq {t t' : Table α} {patch : Fields} (h : Advances t t' patch) :
    t'.form = t.form.merge t'.fields := by
  refine KeyMap.ext_get? fun k => ?_
  rw [h.form, KeyMap.get?_merge]

/-- What all other actions leave alone. -/
structure Rests (t t' : Table α) : Prop where
  options : t'.options = t.options
  store : t'.store = t.store
  requests : t'.requests = t.requests
  latest : t'.fetch.latest = t.fetch.latest

theorem Rests.refl (t : Table α) : Rests t t := ⟨rfl, rfl, rfl, rfl⟩

theorem Rests.trans {t t' t'' : Table α} (h : Rests t t') (h' : Rests t' t'') : Rests t t'' where
  options := h'.options.trans h.options
  store := h'.store.trans h.store
  requests := h'.requests.trans h.requests
  latest := h'.latest.trans h.latest

theorem transition_advances (t : Table α) (patch : Fields) :
    Advances t (t.transition patch) patch where
  options := rfl
  fields := rfl
  transitions := rfl
  requests := rfl
  location := rfl
  replacements := rfl
  form := KeyMap.get?_merge _ _
  latest := rfl
  waiting := rfl

/-- Edits that a submission makes first are all in its patch, so they show in the form
as a part of the query. -/
theorem submit_advances (t : Table α) (edits : Fields) :
    Advances t (t.act (.submit edits)) (t.form.merge edits) where
  options := rfl
  fields := rfl
  transitions := rfl
  requests := rfl
  location := rfl
  replacements := rfl
  form := by
    intro k
    change ((t.form.merge edits).merge (t.fields.merge (t.form.merge edits))).get? k = _
    change _ = ((t.fields.merge (t.form.merge edits)).get? k).or (t.form.get? k)
    simp only [KeyMap.get?_merge]
    cases edits.get? k with
    | some value => rfl
    | none => cases t.form.get? k <;> simp
  latest := rfl
  waiting := rfl

theorem act_advances {t : Table α} {a : Action α} {patch : Fields}
    (h : a.patch? t = some patch) : Advances t (t.act a) patch := by
  cases a with
  | search fields => cases h; exact transition_advances t _
  | changePage current pageSize => cases h; exact transition_advances t _
  | refresh fields => cases h; exact transition_advances t _
  | submit edits => cases h; exact submit_advances t edits
  | editField key value => cases h
  | editForm fields => cases h
  | resetForm => cases h
  | visit query => cases h
  | respond generation outcome => cases h
  | abandon generation => cases h

theorem act_rests {t : Table α} {a : Action α} (h : a.patch? t = none) : Rests t (t.act a) := by
  cases a with
  | search fields => cases h
  | changePage current pageSize => cases h
  | refresh fields => cases h
  | submit edits => cases h
  | editField key value => exact ⟨rfl, rfl, rfl, rfl⟩
  | editForm fields => exact ⟨rfl, rfl, rfl, rfl⟩
  | resetForm => exact ⟨rfl, rfl, rfl, rfl⟩
  | visit query => exact ⟨rfl, rfl, rfl, rfl⟩
  | respond generation outcome =>
    have m := Coordinator.move_settle t.options.ordering t.fetch generation outcome
    exact ⟨rfl, rfl, rfl, Coordinator.latest_move m⟩
  | abandon generation =>
    have m := Coordinator.move_abandon t.options.ordering t.fetch generation
    exact ⟨rfl, rfl, rfl, Coordinator.latest_move m⟩

/-- The coordinator of a table takes the steps that its actions ask of it. -/
theorem fetch_act (t : Table α) (a : Action α) :
    (t.act a).fetch = a.step?.toList.foldl (Coordinator.step t.options.ordering) t.fetch := by
  cases a <;> rfl

theorem run_append (t : Table α) (before after : List (Action α)) :
    t.run (before ++ after) = (t.run before).run after := by
  simp [run]

theorem run_append_singleton (t : Table α) (actions : List (Action α)) (a : Action α) :
    t.run (actions ++ [a]) = (t.run actions).act a := by
  simp [run]

def patches (t : Table α) : List (Action α) → List Fields
  | [] => []
  | a :: rest => (a.patch? t).toList ++ (t.act a).patches rest

theorem patches_append_singleton (t : Table α) (actions : List (Action α)) (a : Action α) :
    t.patches (actions ++ [a]) = t.patches actions ++ (a.patch? (t.run actions)).toList := by
  induction actions generalizing t with
  | nil => simp [patches, run]
  | cons first rest ih =>
    have hr : t.run (first :: rest) = (t.act first).run rest := rfl
    simp [patches, ih, hr]

/-- The query is a fold of the patches, from whatever it was before. -/
theorem fields_run (t : Table α) (actions : List (Action α)) :
    (t.run actions).fields = (t.patches actions).foldl KeyMap.merge t.fields := by
  induction actions generalizing t with
  | nil => rfl
  | cons a rest ih =>
    have next : (t.run (a :: rest)).fields = ((t.act a).run rest).fields := rfl
    rw [next, ih, patches, List.foldl_append]
    cases h : a.patch? t with
    | some patch => rw [(act_advances h).fields]; rfl
    | none => rw [fields, (act_rests h).store]; rfl

/-- A table whose query is a seed with patches merged into it, and whose requests are the
queries on the way there. -/
structure Lockstep (seed : Fields) (patches : List Fields) (t : Table α) : Prop where
  fields : t.fields = patches.foldl KeyMap.merge seed
  length : t.requests.length = patches.length
  requests : ∀ n < patches.length,
    t.requests[n]? = some ((patches.take (n + 1)).foldl KeyMap.merge seed)
  transitions : t.store.transitions = patches.length
  latest : t.fetch.latest = patches.length

theorem Lockstep.advance {seed : Fields} {patches : List Fields} {t t' : Table α}
    (h : Lockstep seed patches t) {patch : Fields} (a : Advances t t' patch) :
    Lockstep seed (patches ++ [patch]) t' where
  fields := by rw [a.fields, h.fields, List.foldl_append, List.foldl_cons, List.foldl_nil]
  length := by rw [a.requests, List.length_append, List.length_append, h.length]; rfl
  requests := by
    intro n hn
    rw [List.length_append, List.length_singleton] at hn
    rw [a.requests]
    by_cases last : n = patches.length
    · subst last
      rw [← h.length, List.getElem?_concat_length, h.length, a.fields, h.fields,
        List.take_of_length_le (by simp), List.foldl_append, List.foldl_cons, List.foldl_nil]
    · have old : n < patches.length := by omega
      rw [List.getElem?_append_left (h.length ▸ old), h.requests n old,
        List.take_append_of_le_length (by omega)]
  transitions := by rw [a.transitions, h.transitions, List.length_append]; rfl
  latest := by rw [a.latest, h.latest, List.length_append]; rfl

theorem Lockstep.rest {seed : Fields} {patches : List Fields} {t t' : Table α}
    (h : Lockstep seed patches t) (r : Rests t t') : Lockstep seed patches t' where
  fields := (congrArg Store.current r.store).trans h.fields
  length := by rw [r.requests, h.length]
  requests := by rw [r.requests]; exact h.requests
  transitions := by rw [r.store, h.transitions]
  latest := by rw [r.latest, h.latest]

theorem lockstep_run (options : TableOptions) (location : String) (actions : List (Action α)) :
    Lockstep (Fields.ofQuery location options.arrayFormat)
      ((ofLocation options location : Table α).patches actions)
      ((ofLocation options location).run actions) := by
  induction actions using List.reverseRecOn with
  | nil => exact ⟨rfl, rfl, fun n hn => absurd hn (Nat.not_lt_zero n), rfl, rfl⟩
  | append_singleton actions a ih =>
    rw [run_append_singleton, patches_append_singleton]
    cases hp : a.patch? ((ofLocation options location).run actions) with
    | some patch => exact ih.advance (act_advances hp)
    | none => simpa using ih.rest (act_rests hp)

/-- After every run the table is in lockstep with the patches of the run. The next action
either advances it by one patch, one request, one generation and one replacement of the
location, which then shows the query, or leaves the query alone; answers leave the location and
the form alone too. -/
theorem transitions_in_lockstep (options : TableOptions) (location : String)
    (actions : List (Action α)) :
    let start : Table α := ofLocation options location
    let t := start.run actions
    Lockstep (Fields.ofQuery location options.arrayFormat) (start.patches actions) t ∧
    (∀ action patch, action.patch? t = some patch →
      Advances t (t.act action) patch ∧
      (t.act action).store.transitions = (t.act action).fetch.latest ∧
      (t.act action).fetch.latest = (t.act action).requests.length) ∧
    (∀ action, action.patch? t = none → Rests t (t.act action)) ∧
    (∀ generation outcome, (t.act (.respond generation outcome)).address = t.address ∧
      (t.act (.respond generation outcome)).form = t.form) ∧
    ∀ generation, (t.act (.abandon generation)).address = t.address ∧
      (t.act (.abandon generation)).form = t.form := by
  intro start t
  have h := lockstep_run (α := α) options location actions
  refine ⟨h, ?_, fun action => act_rests, fun _ _ => ⟨rfl, rfl⟩, fun _ => ⟨rfl, rfl⟩⟩
  intro action patch hp
  have advances := act_advances hp
  have next := h.advance advances
  exact ⟨advances, next.transitions.trans next.latest.symm, next.latest.trans next.length.symm⟩

/-- A submitted draft is asked for next to an earlier search, whatever someone else wrote into
the location between them. -/
theorem transitions_in_lockstep_of_submission :
    let options : TableOptions := ⟨.repeated, .latestRequestWins⟩
    let searched : Fields := (∅ : Fields).insert "b" (.text "2")
    let actions : List (Action Json) :=
      [.search searched, .visit "?z=9", .editField "c" (.text "3"), .abandon 1]
    let t := (ofLocation options "?a=1").run actions
    let after := t.act (.submit ∅)
    ∃ patch, Action.patch? t (.submit ∅) = some patch ∧ Advances t after patch ∧
      after.fetch.latest = 2 ∧ after.location = "?a=1&b=2&c=3" ∧
      after.address.replacements = ["?a=1&b=2", "?z=9", "?a=1&b=2&c=3"] := by
  intro options searched actions t after
  have advances := (transitions_in_lockstep options "?a=1" actions).2.1 (.submit ∅) _ rfl
  have written : after.location = "?a=1&b=2&c=3" ∧
      after.address.replacements = ["?a=1&b=2", "?z=9", "?a=1&b=2&c=3"] := by decide +kernel
  exact ⟨_, rfl, advances.1, rfl, written⟩

end Table

end Listing
