import Listing.Proofs.Table.Lockstep

/-!
# Submitting the form

The form may hold drafts that are not in the query. A submission brings all of them into
it, so that form, query and request are one mapping afterwards. Without drafts any
transition does: the keys of the form are then keys of the query.
-/

namespace Listing

variable {α : Type}

/-- The action changes what is entered in the form, and nothing else. -/
def Action.isFormEdit : Action α → Bool
  | .editField _ _ | .editForm _ | .resetForm => true
  | _ => false

namespace Table

theorem act_of_isFormEdit {t : Table α} {a : Action α} (edit : a.isFormEdit = true) :
    t.act a = { t with form := (t.act a).form } := by
  cases a with
  | editField key value => rfl
  | editForm fields => rfl
  | resetForm => rfl
  | search fields => cases edit
  | changePage current pageSize => cases edit
  | refresh fields => cases edit
  | submit edits => cases edit
  | visit query => cases edit
  | respond generation outcome => cases edit
  | abandon generation => cases edit

/-- Edits stay in the form. -/
theorem run_of_isFormEdit {t : Table α} {edits : List (Action α)}
    (edited : ∀ a ∈ edits, a.isFormEdit = true) :
    t.run edits = { t with form := (t.run edits).form } := by
  induction edits using List.reverseRecOn with
  | nil => rfl
  | append_singleton edits a ih =>
    have earlier := ih fun b hb => edited b (List.mem_append_left _ hb)
    rw [run_append_singleton, act_of_isFormEdit (edited a (by simp)), earlier]

/-- A transition shows the query in the form and nothing else if every key that stands
there is in the query or in the patch. -/
theorem Advances.form_eq_fields {t t' : Table α} {patch : Fields} (h : Advances t t' patch)
    (within : ∀ k, t.form.contains k = true →
      t.fields.contains k = true ∨ patch.contains k = true) : t'.form = t'.fields := by
  rw [h.form_eq]
  apply KeyMap.merge_eq_right
  intro k has
  rw [h.fields, KeyMap.contains_merge, Bool.or_eq_true]
  exact within k has

/-- The patch of a submission has every key of the form. -/
theorem submit_form_eq_fields (t : Table α) (edits : Fields) :
    (t.act (.submit edits)).form = (t.act (.submit edits)).fields := by
  apply (submit_advances t edits).form_eq_fields
  intro k has
  right
  rw [KeyMap.contains_merge, has, Bool.true_or]

/-- The form holds no key that is not in the query. -/
def WithoutDrafts (t : Table α) : Prop :=
  ∀ k, t.form.contains k = true → t.fields.contains k = true

theorem withoutDrafts_of_form_eq {t : Table α} (h : t.form = t.fields) : t.WithoutDrafts := by
  intro k has
  rwa [h] at has

theorem WithoutDrafts.form_act {t : Table α} (h : t.WithoutDrafts) {a : Action α}
    (transition : a.isTransition = true) : (t.act a).form = (t.act a).fields := by
  cases hp : a.patch? t with
  | some patch => exact (act_advances hp).form_eq_fields fun k has => Or.inl (h k has)
  | none =>
    rw [Action.patch?_eq_none_iff, transition] at hp
    cases hp

/-- Only edits of the form bring drafts. -/
theorem WithoutDrafts.act {t : Table α} (h : t.WithoutDrafts) {a : Action α}
    (kept : a.isFormEdit = false) : (t.act a).WithoutDrafts := by
  cases a with
  | search fields => exact withoutDrafts_of_form_eq (h.form_act rfl)
  | changePage current pageSize => exact withoutDrafts_of_form_eq (h.form_act rfl)
  | refresh fields => exact withoutDrafts_of_form_eq (h.form_act rfl)
  | submit edits => exact withoutDrafts_of_form_eq (h.form_act rfl)
  | editField key value => cases kept
  | editForm fields => cases kept
  | resetForm => cases kept
  | visit query => exact h
  | respond generation outcome => exact h
  | abandon generation => exact h

theorem WithoutDrafts.run {t : Table α} (h : t.WithoutDrafts) {actions : List (Action α)}
    (kept : ∀ a ∈ actions, a.isFormEdit = false) : (t.run actions).WithoutDrafts := by
  induction actions using List.reverseRecOn with
  | nil => exact h
  | append_singleton actions a ih =>
    rw [run_append_singleton]
    exact (ih fun b hb => kept b (List.mem_append_left _ hb)).act (kept a (by simp))

theorem withoutDrafts_resetForm (t : Table α) : (t.act .resetForm).WithoutDrafts := by
  intro k has
  cases has

/-- A submission right after another one asks for the same and changes nothing else. -/
theorem submit_again {t : Table α} (form : t.form = t.fields)
    (written : t.location = t.fields.toLocation t.options.arrayFormat) :
    let again := t.act (.submit ∅)
    again.requests = t.requests ++ [t.fields] ∧ again.form = t.form ∧
      again.fields = t.fields ∧ again.location = t.location := by
  intro again
  have advances : Advances t again (t.form.merge ∅) := submit_advances t ∅
  have fields : again.fields = t.fields := by
    rw [advances.fields, KeyMap.merge_empty, form, KeyMap.merge_self]
  refine ⟨?_, ?_, fields, ?_⟩
  · rw [advances.requests, fields]
  · rw [form, ← fields]
    exact submit_form_eq_fields t ∅
  · rw [advances.location, fields, written]

/-- A submission makes one mapping of the form, the query and the request: the query with
all of the form merged into it. The next submission asks for it again and changes nothing.
Wiping the form takes nothing out of the query, and the next transitions put the query back
into the form, as it is, for as long as no one edits there. -/
theorem submission_unifies (t : Table α) :
    (∀ edits : List (Action α), (∀ a ∈ edits, a.isFormEdit = true) →
      let drafted := t.run edits
      let after := drafted.act (.submit ∅)
      let again := after.act (.submit ∅)
      after.fields = t.fields.merge drafted.form ∧ after.form = after.fields ∧
      after.requests = t.requests ++ [after.fields] ∧
      again.requests = after.requests ++ [after.fields] ∧ again.form = after.form ∧
      again.fields = after.fields ∧ again.location = after.location) ∧
    ∀ (between : List (Action α)) (action : Action α),
      (∀ a ∈ between, a.isFormEdit = false) → action.isTransition = true →
      let wiped := t.act .resetForm
      let after := (wiped.run between).act action
      after.form = after.fields ∧
      after.fields = (wiped.patches (between ++ [action])).foldl KeyMap.merge t.fields ∧
      ∀ k, t.fields.contains k = true → after.fields.contains k = true := by
  constructor
  · intro edits edited drafted after again
    have only : drafted = { t with form := drafted.form } := run_of_isFormEdit edited
    have advances : Advances drafted after (drafted.form.merge ∅) := submit_advances drafted ∅
    have form : after.form = after.fields := submit_form_eq_fields drafted ∅
    have fields : drafted.fields = t.fields := by rw [only]; rfl
    have requests : drafted.requests = t.requests := by rw [only]
    refine ⟨?_, form, ?_, submit_again form ?_⟩
    · rw [advances.fields, KeyMap.merge_empty, fields]
    · rw [advances.requests, requests]
    · rw [advances.location, advances.options]
  · intro between action kept transition wiped after
    have folded : after.fields =
        (wiped.patches (between ++ [action])).foldl KeyMap.merge t.fields := by
      have run : after = wiped.run (between ++ [action]) :=
        (run_append_singleton wiped between action).symm
      rw [run]
      exact fields_run wiped _
    refine ⟨?_, folded, ?_⟩
    · exact ((withoutDrafts_resetForm t).run kept).form_act transition
    · intro k has
      rw [folded, KeyMap.foldl_merge_eq, KeyMap.contains_merge, has, Bool.true_or]

/-- A name that was wiped and entered anew as nothing is asked for as nothing, and a wiped
page number is asked for as it was. -/
theorem submission_unifies_after_wiping :
    let t : Table Nat := ofLocation ⟨.repeated, .latestRequestWins⟩ "?name=gen&current=4"
    let edits : List (Action Nat) := [.resetForm, .editField "name" (.text "")]
    let after := (t.run edits).act (.submit ∅)
    (∀ a ∈ edits, a.isFormEdit = true) ∧ after.form = after.fields ∧
      after.form.entries = [("current", .text "4"), ("name", .text "")] ∧
      ((t.act .resetForm).act (.refresh none)).form =
        ((t.act .resetForm).act (.refresh none)).fields := by
  intro t edits after
  have edited : ∀ a ∈ edits, a.isFormEdit = true := by simp [edits, Action.isFormEdit]
  refine ⟨edited, ?_, ?_, ?_⟩
  · exact ((submission_unifies t).1 edits edited).2.1
  · decide +kernel
  · exact ((submission_unifies t).2 [] (.refresh none) (by simp) rfl).1

end Table

end Listing
