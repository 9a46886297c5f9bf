import Listing.Proofs.Fetch.Coherence
import Listing.Proofs.Fetch.Latest
import Listing.Proofs.Table.Lockstep

/-!
# Settled tables

The coordinator of a table sees a run of its own: the requests, answers and abandonments
among the actions. Its laws therefore hold of tables. If only the latest request may be
answered, a settled table shows the page that answered the query which its location has.
-/

namespace Listing.Table

variable {α : Type}

theorem options_act (t : Table α) (a : Action α) : (t.act a).options = t.options := by
  cases h : a.patch? t with
  | some patch => exact (act_advances h).options
  | none => exact (act_rests h).options

theorem options_run (t : Table α) (actions : List (Action α)) :
    (t.run actions).options = t.options := by
  induction actions generalizing t with
  | nil => rfl
  | cons a rest ih => exact (ih (t.act a)).trans (options_act t a)

/-- The coordinator of a table runs the steps among the actions. -/
theorem fetch_run (options : TableOptions) (location : String) (actions : List (Action α)) :
    ((ofLocation options location).run actions).fetch =
      Coordinator.run options.ordering (actions.filterMap Action.step?) := by
  induction actions using List.reverseRecOn with
  | nil => rfl
  | append_singleton actions a ih =>
    have same : ((ofLocation options location).run actions).options = options :=
      options_run _ actions
    rw [run_append_singleton, fetch_act, ih, same, List.filterMap_append, Coordinator.run,
      Coordinator.run, List.foldl_append]
    cases a <;> rfl

theorem rests_run {t : Table α} {actions : List (Action α)}
    (quiet : ∀ a ∈ actions, a.isTransition = false) : Rests t (t.run actions) := by
  induction actions generalizing t with
  | nil => exact Rests.refl t
  | cons a rest ih =>
    have first := act_rests (t := t) (Action.patch?_eq_none_iff.mpr (quiet a (by simp)))
    exact first.trans (ih fun b hb => quiet b (List.mem_cons_of_mem a hb))

theorem address_act {t : Table α} {a : Action α} (quiet : a.isTransition = false)
    (untouched : ∀ query, a ≠ .visit query) : (t.act a).address = t.address := by
  cases a with
  | search fields => cases quiet
  | changePage current pageSize => cases quiet
  | refresh fields => cases quiet
  | submit edits => cases quiet
  | editField key value => rfl
  | editForm fields => rfl
  | resetForm => rfl
  | visit query => exact False.elim (untouched query rfl)
  | respond generation outcome => rfl
  | abandon generation => rfl

theorem address_run {t : Table α} {actions : List (Action α)}
    (quiet : ∀ a ∈ actions, a.isTransition = false)
    (untouched : ∀ query, .visit query ∉ actions) : (t.run actions).address = t.address := by
  induction actions generalizing t with
  | nil => rfl
  | cons a rest ih =>
    have first : (t.act a).address = t.address :=
      address_act (quiet a (by simp)) fun query he => untouched query (by simp [he])
    have others : ((t.act a).run rest).address = (t.act a).address :=
      ih (fun b hb => quiet b (List.mem_cons_of_mem a hb))
        fun query hmem => untouched query (List.mem_cons_of_mem a hmem)
    exact others.trans first

/-- An element of a mapped list comes from an element that splits the list. -/
theorem split_of_filterMap_eq {β γ : Type} {f : β → Option γ} {l : List β} {xs ys : List γ}
    {y : γ} (h : l.filterMap f = xs ++ y :: ys) :
    ∃ before b after, l = before ++ b :: after ∧ f b = some y ∧
      before.filterMap f = xs ∧ after.filterMap f = ys := by
  obtain ⟨front, back, rfl, hfront, hback⟩ := List.filterMap_eq_append_iff.mp h
  obtain ⟨skipped, b, after, rfl, hskipped, hb, hafter⟩ := List.filterMap_eq_cons_iff.mp hback
  have none_left : skipped.filterMap f = [] := List.filterMap_eq_nil_iff.mpr hskipped
  exact ⟨front ++ skipped, b, after, by simp, hb, by simp [hfront, none_left], hafter⟩

theorem not_isTransition_of_begin_notMem {actions : List (Action α)}
    (h : .begin ∉ actions.filterMap Action.step?) :
    ∀ a ∈ actions, a.isTransition = false := by
  intro a ha
  refine Bool.eq_false_iff.mpr fun ht => h ?_
  exact List.mem_filterMap.mpr ⟨a, ha, Action.step?_eq_begin_iff.mpr ht⟩

theorem eq_respond_of_step? {a : Action α} {g : Nat} {outcome : Outcome α}
    (h : a.step? = some (.settle g outcome)) : a = .respond g outcome := by
  cases a with
  | respond generation outcome' =>
    simp only [Action.step?, Option.some.injEq, Coordinator.Step.settle.injEq] at h
    obtain ⟨rfl, rfl⟩ := h
    rfl
  | search fields => cases h
  | changePage current pageSize => cases h
  | refresh fields => cases h
  | submit edits => cases h
  | editField key value => cases h
  | editForm fields => cases h
  | resetForm => cases h
  | visit query => cases h
  | abandon generation => cases h

/-- The answer to the latest generation splits the actions as it splits the steps. -/
theorem split_of_answered {actions : List (Action α)} {n : Nat} {page : Page α}
    (h : Coordinator.Answered (actions.filterMap Action.step?) n page) :
    ∃ earlier issue between later,
      actions = earlier ++ issue :: (between ++ .respond n (.page page) :: later) ∧
      issue.isTransition = true ∧ (∀ a ∈ between ++ later, a.isTransition = false) ∧
      (∀ outcome, .respond n outcome ∉ between) ∧ .abandon n ∉ between := by
  obtain ⟨_, between', later', split, _, quiet, kept⟩ := h
  obtain ⟨earlier, issue, rest, rfl, hissue, _, hrest⟩ := split_of_filterMap_eq split
  obtain ⟨between, answer, later, rfl, hanswer, rfl, rfl⟩ := split_of_filterMap_eq hrest
  obtain rfl := eq_respond_of_step? hanswer
  have not_ended {a : Action α} {s : Coordinator.Step α} (ha : a.step? = some s)
      (ends : s.Ends n) : a ∉ between :=
    fun hmem => kept s (List.mem_filterMap.mpr ⟨a, hmem, ha⟩) ends
  refine ⟨earlier, issue, between, later, rfl, Action.step?_eq_begin_iff.mp hissue, ?_,
    fun outcome => not_ended rfl rfl, not_ended rfl rfl⟩
  refine not_isTransition_of_begin_notMem ?_
  rw [List.filterMap_append]
  exact quiet

/-- The run splits at its last request and at the page that answered it, and the table
shows that page, asked for the query in force, and has that query in its location unless
someone else wrote there since. Generations are numbers of requests. -/
def ShowsLatestAnswer (options : TableOptions) (location : String)
    (actions : List (Action α)) : Prop :=
  let t := (ofLocation options location).run actions
  ∃ earlier issue between page later,
    actions =
      earlier ++ issue :: (between ++ .respond t.requests.length (.page page) :: later) ∧
    issue.isTransition = true ∧ (∀ a ∈ between ++ later, a.isTransition = false) ∧
    (∀ outcome, .respond t.requests.length outcome ∉ between) ∧
    .abandon t.requests.length ∉ between ∧
    t.fetch.latest = t.requests.length ∧
    t.fetch.published.rows = page.rows ∧
    t.fetch.published.pagination = some page.pagination ∧
    t.fetch.published.loading = false ∧
    t.requests.getLast? = some t.fields ∧
    ((∀ query, .visit query ∉ between ++ later) →
      t.location = t.fields.toLocation options.arrayFormat)

/-- What stands after a transition stands until the next, but for the location, which
others may write. -/
theorem query_after_transition {t : Table α} {issue : Action α} {rest : List (Action α)}
    (issued : issue.isTransition = true) (quiet : ∀ a ∈ rest, a.isTransition = false) :
    let last := t.run (issue :: rest)
    last.requests.getLast? = some last.fields ∧
    ((∀ query, .visit query ∉ rest) →
      last.location = last.fields.toLocation t.options.arrayFormat) := by
  intro last
  have isSome : issue.patch? t ≠ none := by
    rw [Ne, Action.patch?_eq_none_iff, issued]
    decide
  obtain ⟨patch, hp⟩ := Option.ne_none_iff_exists'.mp isSome
  have advances := act_advances hp
  have rests : Rests (t.act issue) last := rests_run quiet
  have fields : last.fields = (t.act issue).fields := congrArg Store.current rests.store
  constructor
  · rw [rests.requests, advances.requests, List.getLast?_concat, fields]
  · intro untouched
    have location : last.location = (t.act issue).location :=
      congrArg Address.query (address_run quiet untouched)
    rw [location, advances.location, fields]

/-- A settled table shows the answer to the request issued last, if only that one may be
answered, whatever became of the others and in whatever order. -/
theorem settled_shows_latest_answer (options : TableOptions) (location : String)
    (actions : List (Action α)) (latest_wins : options.ordering = .latestRequestWins)
    (settled :
      ((ofLocation options location).run actions).fetch.published.phase = .settled) :
    ShowsLatestAnswer options location actions := by
  have run := fetch_run options location actions
  have lockstep := lockstep_run options location actions
  have number : Coordinator.opened (actions.filterMap Action.step?) =
      ((ofLocation options location).run actions).requests.length := by
    rw [lockstep.length, ← lockstep.latest, run, Coordinator.latest_run]
  rw [latest_wins] at run
  have shown := Coordinator.showsAnswer_run (actions.filterMap Action.step?)
  rw [← run] at shown
  obtain ⟨page, answered, rows, pagination⟩ := shown settled
  rw [number] at answered
  obtain ⟨earlier, issue, between, later, split, issued, quiet, kept, held⟩ :=
    split_of_answered answered
  have quiet_rest : ∀ a ∈ between ++ .respond
      ((ofLocation options location).run actions).requests.length (.page page) :: later,
      a.isTransition = false := by
    intro a ha
    rcases List.mem_append.mp ha with ha | ha
    · exact quiet a (List.mem_append_left later ha)
    · rcases List.mem_cons.mp ha with rfl | ha
      · rfl
      · exact quiet a (List.mem_append_right between ha)
  have query := query_after_transition (t := (ofLocation options location).run earlier)
    issued quiet_rest
  rw [← run_append, ← split, options_run] at query
  refine ⟨earlier, issue, between, page, later, split, issued, quiet, kept, held,
    lockstep.latest.trans lockstep.length.symm, rows, pagination, ?_, query.1, ?_⟩
  · have coherent := Coordinator.coherent_run options.ordering (actions.filterMap Action.step?)
    rw [← fetch_run options location actions] at coherent
    refine Bool.eq_false_iff.mpr fun loading => ?_
    rw [← coherent.phase_loading, settled] at loading
    cases loading
  · intro untouched
    refine query.2 fun text hmem => untouched text ?_
    simpa using hmem

/-- A late answer to a superseded request does not show. -/
theorem settled_shows_latest_answer_after_late_page :
    ((ofLocation ⟨.repeated, .latestRequestWins⟩ "?status=active" : Table Nat).run
      [.search ∅, .changePage 2 10, .respond 2 (.page ⟨[7], ⟨2, 10, 11⟩⟩),
        .respond 1 (.page ⟨[1, 2], ⟨1, 10, 11⟩⟩), .resetForm]).fetch.published.phase =
      .settled ∧
    ShowsLatestAnswer (α := Nat) ⟨.repeated, .latestRequestWins⟩ "?status=active"
      [.search ∅, .changePage 2 10, .respond 2 (.page ⟨[7], ⟨2, 10, 11⟩⟩),
        .respond 1 (.page ⟨[1, 2], ⟨1, 10, 11⟩⟩), .resetForm] :=
  ⟨rfl, settled_shows_latest_answer _ _ _ rfl rfl⟩

end Listing.Table
