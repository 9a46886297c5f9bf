import Listing.Proofs.Fetch.Latest
import Listing.Proofs.Fetch.Provenance

/-!
# Notices of one request

Every generation is announced once when it is opened, in order, and at most once when it
ends. What is said at its end depends on the step that ended it and on the steps before
that one; later steps add nothing.
-/

namespace Listing

def Event.generation : Event → Nat
  | .loading generation => generation
  | .settled generation _ _ => generation
  | .failed generation _ => generation
  | .discarded generation => generation

/-- The generation whose opening a notice tells of. -/
def Event.opening? : Event → Option Nat
  | .loading generation => some generation
  | _ => none

namespace Coordinator

variable {α : Type}

def about (g : Nat) (events : List Event) : List Event := events.filter (·.generation = g)

/-- The run ends the generation with this step, after those before it. -/
structure EndsAt (steps before : List (Step α)) (s : Step α) (g : Nat) : Prop where
  split : ∃ after, steps = before ++ s :: after
  waits : Waits before g
  ends : s.Ends g

theorem generation_outcomeNotice (g : Nat) (outcome : Outcome α) :
    (outcomeNotice g outcome).generation = g := by
  cases outcome <;> rfl

theorem opening?_outcomeNotice (g : Nat) (outcome : Outcome α) :
    (outcomeNotice g outcome).opening? = none := by
  cases outcome <;> rfl

theorem outcomeNotice_ne_discarded (g k : Nat) (outcome : Outcome α) :
    outcomeNotice g outcome ≠ .discarded k := by
  cases outcome <;> simp [outcomeNotice]

/-- A notice tells of an opening, or of a generation that waited until now. -/
theorem of_notice? {ordering : ResponseOrdering} {steps : List (Step α)} {s : Step α}
    {e : Event} (h : Moment.notice? ordering ⟨steps, s⟩ = some e) :
    (s = .begin ∧ e = .loading (opened steps + 1)) ∨
      (s.Ends e.generation ∧ Waits steps e.generation ∧ e.opening? = none) := by
  cases s with
  | begin =>
    have he : Event.loading (opened steps + 1) = e := Option.some_inj.mp h
    exact Or.inl ⟨rfl, he.symm⟩
  | settle g outcome =>
    right
    by_cases stale : g ≠ opened steps ∧ ordering = .latestRequestWins
    · obtain ⟨waits, he⟩ := Option.ite_none_right_eq_some.mp h
      rw [if_pos stale] at he
      obtain rfl := Option.some_inj.mp he
      exact ⟨rfl, waits, rfl⟩
    · obtain ⟨waits, he⟩ := Option.ite_none_right_eq_some.mp h
      rw [if_neg stale] at he
      obtain rfl := Option.some_inj.mp he
      rw [generation_outcomeNotice]
      exact ⟨rfl, waits, opening?_outcomeNotice g outcome⟩
  | abandon g =>
    obtain ⟨⟨waits, _⟩, he⟩ := Option.ite_none_right_eq_some.mp h
    obtain rfl := Option.some_inj.mp he
    exact Or.inr ⟨rfl, waits, rfl⟩

theorem about_append_singleton (ordering : ResponseOrdering) (steps : List (Step α))
    (s : Step α) (g : Nat) :
    about g (run ordering (steps ++ [s])).events =
      about g (run ordering steps).events ++
        about g (Moment.notice? ordering ⟨steps, s⟩).toList := by
  rw [events_append_singleton, about, about, about, List.filter_append]

/-- A step that does not end a generation, and does not open it, says nothing about it. -/
theorem about_notice?_eq_nil {ordering : ResponseOrdering} {steps : List (Step α)}
    {s : Step α} {g : Nat} (old : g ≤ opened steps) (kept : ¬ (s.Ends g ∧ Waits steps g)) :
    about g (Moment.notice? ordering ⟨steps, s⟩).toList = [] := by
  refine List.filter_eq_nil_iff.mpr fun e he hg => ?_
  have notice := Option.mem_toList.mp he
  have same : e.generation = g := of_decide_eq_true hg
  rcases of_notice? notice with ⟨_, rfl⟩ | ⟨ends, waits, _⟩
  · have new : opened steps + 1 = g := same
    omega
  · exact kept ⟨same ▸ ends, same ▸ waits⟩

/-- Notices are about generations that were opened. -/
theorem generation_le_opened {ordering : ResponseOrdering} {steps : List (Step α)} :
    ∀ e ∈ (run ordering steps).events, 0 < e.generation ∧ e.generation ≤ opened steps := by
  induction steps using List.reverseRecOn with
  | nil => simp [run_nil, initial]
  | append_singleton steps s ih =>
    intro e he
    rw [events_append_singleton] at he
    rw [opened_append]
    rcases List.mem_append.mp he with earlier | now
    · have := ih e earlier
      omega
    · rcases of_notice? (Option.mem_toList.mp now) with ⟨rfl, rfl⟩ | ⟨_, waits, _⟩
      · have one : opened [(.begin : Step α)] = 1 := rfl
        rw [one]
        exact ⟨Nat.succ_pos _, Nat.le_refl _⟩
      · have live := (mem_waiting_run ordering steps _).mpr waits
        have positive := ((orderly_run ordering steps).opened _ live).1
        have bound := waits.le_opened
        omega

theorem about_eq_nil_of_lt {ordering : ResponseOrdering} {steps : List (Step α)} {g : Nat}
    (new : opened steps < g) : about g (run ordering steps).events = [] := by
  refine List.filter_eq_nil_iff.mpr fun e he hg => ?_
  have same : e.generation = g := of_decide_eq_true hg
  have bound := (generation_le_opened e he).2
  omega

/-- The openings are announced one by one, as they are numbered. -/
theorem openings_run (ordering : ResponseOrdering) (steps : List (Step α)) :
    (run ordering steps).events.filterMap Event.opening? = List.range' 1 (opened steps) := by
  induction steps using List.reverseRecOn with
  | nil => rfl
  | append_singleton steps s ih =>
    rw [events_append_singleton, List.filterMap_append, ih, opened_append]
    by_cases hs : s = .begin
    · subst hs
      have one : opened [(.begin : Step α)] = 1 := rfl
      rw [one, List.range'_concat, Nat.one_mul, Nat.add_comm]
      rfl
    · have none_opened : opened [s] = 0 := opened_eq_zero_iff.mpr (by simpa using Ne.symm hs)
      have silent : (Moment.notice? ordering ⟨steps, s⟩).toList.filterMap Event.opening? = [] := by
        refine List.filterMap_eq_nil_iff.mpr fun e he => ?_
        rcases of_notice? (Option.mem_toList.mp he) with ⟨begins, _⟩ | ⟨_, _, quiet⟩
        · exact absurd begins hs
        · exact quiet
      rw [silent, none_opened, List.append_nil, Nat.add_zero]

/-- Of a generation that waits only the opening was announced. -/
theorem about_of_waits {ordering : ResponseOrdering} {steps : List (Step α)} {g : Nat}
    (waits : Waits steps g) : about g (run ordering steps).events = [.loading g] := by
  induction steps using List.reverseRecOn with
  | nil => exact absurd waits (not_waits_nil g)
  | append_singleton steps s ih =>
    rw [about_append_singleton]
    rcases waits_append_singleton.mp waits with ⟨rfl, rfl⟩ | ⟨waits, kept⟩
    · rw [about_eq_nil_of_lt (Nat.lt_succ_self _)]
      simp [Moment.notice?, about, Event.generation]
    · rw [ih waits, about_notice?_eq_nil waits.le_opened fun h => kept h.1]
      rfl

namespace EndsAt

variable {steps before : List (Step α)} {s t : Step α} {g : Nat}

theorem now (waits : Waits before g) (ends : s.Ends g) : EndsAt (before ++ [s]) before s g :=
  ⟨⟨[], rfl⟩, waits, ends⟩

theorem append_singleton (h : EndsAt steps before s g) : EndsAt (steps ++ [t]) before s g := by
  obtain ⟨⟨after, rfl⟩, waits, ends⟩ := h
  exact ⟨⟨after ++ [t], by simp⟩, waits, ends⟩

/-- A run with an end in it goes to that end and then on, one step at a time. -/
theorem run_after {P : List (Step α) → Prop} (h : EndsAt steps before s g)
    (stop : P (before ++ [s]))
    (next : ∀ steps t, EndsAt steps before s g → P steps → P (steps ++ [t])) : P steps := by
  obtain ⟨⟨after, rfl⟩, waits, ends⟩ := h
  induction after using List.reverseRecOn with
  | nil => exact stop
  | append_singleton after t ih =>
    have earlier : EndsAt (before ++ s :: after) before s g := ⟨⟨after, rfl⟩, waits, ends⟩
    have split : before ++ s :: (after ++ [t]) = (before ++ s :: after) ++ [t] := by simp
    rw [split]
    exact next _ t earlier ih

/-- What has ended was opened, and never waits again. -/
theorem spent (h : EndsAt steps before s g) : g ≤ opened steps ∧ ¬ Waits steps g := by
  refine h.run_after (P := fun steps => g ≤ opened steps ∧ ¬ Waits steps g) ?_ ?_
  · have bound := h.waits.le_opened
    refine ⟨?_, not_waits_after bound (Or.inl h.ends)⟩
    rw [opened_append]
    omega
  · intro steps t _ ih
    refine ⟨?_, not_waits_after ih.1 (Or.inr ih.2)⟩
    rw [opened_append]
    omega

/-- All that is ever said about a generation that has ended: its opening, and what was
said at its end. -/
theorem about_eq (ordering : ResponseOrdering) (h : EndsAt steps before s g) :
    about g (run ordering steps).events =
      .loading g :: (Moment.notice? ordering ⟨before, s⟩).toList := by
  refine h.run_after (P := fun steps => about g (run ordering steps).events =
    .loading g :: (Moment.notice? ordering ⟨before, s⟩).toList) ?_ ?_
  · have own : about g (Moment.notice? ordering ⟨before, s⟩).toList =
        (Moment.notice? ordering ⟨before, s⟩).toList := by
      refine List.filter_eq_self.mpr fun e he => decide_eq_true ?_
      rcases of_notice? (Option.mem_toList.mp he) with ⟨rfl, _⟩ | ⟨ends, _, _⟩
      · exact False.elim h.ends
      · exact ends.unique h.ends
    rw [about_append_singleton, about_of_waits h.waits, own]
    rfl
  · intro steps t ended ih
    have bound := ended.spent
    rw [about_append_singleton, ih, about_notice?_eq_nil bound.1 fun ends => bound.2 ends.2,
      List.append_nil]

end EndsAt

/-- An opened generation waits, or a step of the run has ended it. -/
theorem waits_or_endsAt {steps : List (Step α)} {g : Nat} (positive : 0 < g)
    (bound : g ≤ opened steps) : Waits steps g ∨ ∃ before s, EndsAt steps before s g := by
  induction steps using List.reverseRecOn with
  | nil =>
    have none_opened : opened ([] : List (Step α)) = 0 := rfl
    omega
  | append_singleton steps s ih =>
    by_cases old : g ≤ opened steps
    · rcases ih old with waits | ⟨before, t, ended⟩
      · by_cases ends : s.Ends g
        · exact Or.inr ⟨steps, s, .now waits ends⟩
        · exact Or.inl (waits_append_singleton.mpr (Or.inr ⟨waits, ends⟩))
      · exact Or.inr ⟨before, t, ended.append_singleton⟩
    · have begins : s = .begin := by
        refine Classical.byContradiction fun hs => old ?_
        rwa [opened_append_singleton hs] at bound
      subst begins
      have one : opened [(.begin : Step α)] = 1 := rfl
      rw [opened_append, one] at bound
      exact Or.inl (waits_append_singleton.mpr (Or.inl ⟨rfl, by omega⟩))

theorem about_settled {ordering : ResponseOrdering} {steps before : List (Step α)} {g : Nat}
    {outcome : Outcome α} (h : EndsAt steps before (.settle g outcome) g) :
    about g (run ordering steps).events = [.loading g,
      if g ≠ opened before ∧ ordering = .latestRequestWins then .discarded g
      else outcomeNotice g outcome] := by
  rw [h.about_eq ordering]
  by_cases stale : g ≠ opened before ∧ ordering = .latestRequestWins
  · have discarded : Moment.notice? ordering ⟨before, .settle g outcome⟩ = some (.discarded g) :=
      (if_pos h.waits).trans (if_pos stale)
    rw [discarded, if_pos stale]
    rfl
  · rw [notice?_applied h.waits (not_strict_and_stale_iff.mp stale), if_neg stale]
    rfl

theorem about_abandoned {ordering : ResponseOrdering} {steps before : List (Step α)} {g : Nat}
    (h : EndsAt steps before (.abandon g) g) :
    about g (run ordering steps).events =
      .loading g :: if g = opened before then [.failed g abandonedMessage] else [] := by
  rw [h.about_eq ordering]
  by_cases latest : g = opened before
  · have failed : Moment.notice? ordering ⟨before, .abandon g⟩ =
        some (.failed g abandonedMessage) := if_pos ⟨h.waits, latest⟩
    rw [failed, if_pos latest]
    rfl
  · have silent : Moment.notice? ordering ⟨before, .abandon g⟩ = none :=
      if_neg fun both => latest both.2
    rw [silent, if_neg latest]
    rfl

theorem mem_about_iff {e : Event} {events : List Event} :
    e ∈ about e.generation events ↔ e ∈ events := by
  simp [about]

/-- Discarded answers are those to superseded requests, if they are not to be applied. -/
theorem discarded_mem_iff (ordering : ResponseOrdering) (steps : List (Step α)) (g : Nat) :
    .discarded g ∈ (run ordering steps).events ↔
      ordering = .latestRequestWins ∧
        ∃ before outcome, EndsAt steps before (.settle g outcome) g ∧ g ≠ opened before := by
  constructor
  · intro he
    have positive : 0 < g := (generation_le_opened _ he).1
    have bound : g ≤ opened steps := (generation_le_opened _ he).2
    have mine : .discarded g ∈ about g (run ordering steps).events := mem_about_iff.mpr he
    rcases waits_or_endsAt positive bound with waits | ⟨before, s, ended⟩
    · rw [about_of_waits waits] at mine
      simp at mine
    · obtain ⟨outcome, rfl⟩ | rfl := ended.ends.cases
      · rw [about_settled ended] at mine
        by_cases stale : g ≠ opened before ∧ ordering = .latestRequestWins
        · exact ⟨stale.2, before, outcome, ended, stale.1⟩
        · rw [if_neg stale] at mine
          have other := outcomeNotice_ne_discarded g g outcome
          simp [other.symm] at mine
      · rw [about_abandoned ended] at mine
        by_cases latest : g = opened before
        · rw [if_pos latest] at mine
          simp at mine
        · rw [if_neg latest] at mine
          simp at mine
  · rintro ⟨strict, before, outcome, ended, stale⟩
    have mine : .discarded g ∈ about g (run ordering steps).events := by
      rw [about_settled ended, if_pos ⟨stale, strict⟩]
      simp
    exact mem_about_iff.mp mine

/-- Over a whole run each opened generation is announced once, in order, and then, in what
is said about it, at most once more. A settled one is announced as settled, failed or
discarded; an abandoned one as failed if it was the latest then, and else not at all. An
answer is announced as discarded exactly if it came for a superseded request under the
strict ordering. -/
theorem one_start_and_at_most_one_end (ordering : ResponseOrdering) (steps : List (Step α)) :
    let log := (run ordering steps).events
    log.filterMap Event.opening? = List.range' 1 (opened steps) ∧
    (∀ e ∈ log, 0 < e.generation ∧ e.generation ≤ opened steps) ∧
    (∀ g, 0 < g → g ≤ opened steps → Waits steps g ∨ ∃ before s, EndsAt steps before s g) ∧
    (∀ g, Waits steps g → about g log = [.loading g]) ∧
    (∀ g before outcome, EndsAt steps before (.settle g outcome) g →
      about g log = [.loading g,
        if g ≠ opened before ∧ ordering = .latestRequestWins then .discarded g
        else outcomeNotice g outcome]) ∧
    (∀ g before, EndsAt steps before (.abandon g) g →
      about g log =
        .loading g :: if g = opened before then [.failed g abandonedMessage] else []) ∧
    ∀ g, .discarded g ∈ log ↔
      ordering = .latestRequestWins ∧
        ∃ before outcome, EndsAt steps before (.settle g outcome) g ∧ g ≠ opened before := by
  intro log
  refine ⟨openings_run ordering steps, generation_le_opened, ?_, ?_, ?_, ?_, ?_⟩
  · intro g positive bound
    exact waits_or_endsAt positive bound
  · intro g waits
    exact about_of_waits waits
  · intro g before outcome ended
    exact about_settled ended
  · intro g before ended
    exact about_abandoned ended
  · exact discarded_mem_iff ordering steps

/-- A superseded request that is lost says nothing at its end, and the latest says that it
failed. -/
example : (run .latestRequestWins
      [.begin, .begin, .abandon 1, .abandon 2, (.settle 1 (.failure "late") : Step Nat)]).events =
    [.loading 1, .loading 2, .failed 2 abandonedMessage] := rfl

end Coordinator

end Listing
