import Listing.Proofs.Fetch.Moments

/-!
# The two orderings

An answer to a superseded request is all that the orderings disagree on. If each of them
is taken for no answer, then both orderings show the same after every step and give the
same notices, but for those of discarded answers.
-/

namespace Listing

/-- The generation whose answer was discarded. -/
def Event.discarded? : Event → Option Nat
  | .discarded generation => some generation
  | _ => none

namespace Coordinator

variable {α : Type}

namespace Moment

/-- The generation that a moment answers although a later one is open, if there is one. -/
def superseded? (m : Moment α) : Option Nat :=
  match m.step with
  | .settle g _ => if Waits m.before g ∧ g ≠ opened m.before then some g else none
  | _ => none

/-- The step of a moment, but no answer in place of one to a superseded request. -/
def timely (m : Moment α) : Step α :=
  match m.superseded? with
  | some g => .abandon g
  | none => m.step

theorem timely_of_superseded {m : Moment α} {g : Nat} (h : m.superseded? = some g) :
    m.timely = .abandon g := by
  rw [timely, h]

theorem timely_of_not_superseded {m : Moment α} (h : m.superseded? = none) :
    m.timely = m.step := by
  rw [timely, h]

theorem superseded?_eq_some {steps : List (Step α)} {g : Nat} (waits : Waits steps g)
    (stale : g ≠ opened steps) (outcome : Outcome α) :
    superseded? ⟨steps, .settle g outcome⟩ = some g :=
  if_pos ⟨waits, stale⟩

theorem superseded?_opened {steps : List (Step α)} {g : Nat} (latest : g = opened steps)
    (outcome : Outcome α) : superseded? ⟨steps, .settle g outcome⟩ = none :=
  if_neg fun h => h.2 latest

theorem superseded?_gone {steps : List (Step α)} {s : Step α} {g : Nat} (ends : s.Ends g)
    (gone : ¬ Waits steps g) : superseded? ⟨steps, s⟩ = none := by
  obtain ⟨outcome, rfl⟩ | rfl := ends.cases
  · exact if_neg fun h => gone h.1
  · rfl

/-- Under the strict ordering a discarded answer is one to a superseded request. -/
theorem discarded?_notice? (m : Moment α) :
    (m.notice? .latestRequestWins).bind Event.discarded? = m.superseded? := by
  obtain ⟨before, s⟩ := m
  cases s with
  | begin => rfl
  | settle g outcome =>
    by_cases waits : Waits before g
    · by_cases stale : g ≠ opened before
      · simp [notice?, superseded?, waits, stale, Event.discarded?]
      · have latest : g = opened before := not_not.mp stale
        rw [notice?_applied waits (Or.inl latest), superseded?_opened latest]
        cases outcome <;> rfl
    · simp [notice?, superseded?, waits]
  | abandon g =>
    by_cases h : Waits before g ∧ g = opened before
    · simp [notice?, superseded?, h, Event.discarded?]
    · simp [notice?, superseded?, h]

end Moment

/-- A run whose superseded requests are abandoned where they were answered. -/
def withoutStale (steps : List (Step α)) : List (Step α) := (moments steps).map Moment.timely

theorem withoutStale_append_singleton (steps : List (Step α)) (s : Step α) :
    withoutStale (steps ++ [s]) = withoutStale steps ++ [Moment.timely ⟨steps, s⟩] := by
  rw [withoutStale, moments_append_singleton, List.map_append]
  rfl

theorem withoutStale_take (steps : List (Step α)) (n : Nat) :
    withoutStale (steps.take n) = (withoutStale steps).take n := by
  rw [withoutStale, moments_take, List.map_take, withoutStale]

theorem withoutStale_eq_self {steps : List (Step α)}
    (h : ∀ m ∈ moments steps, m.superseded? = none) : withoutStale steps = steps := by
  have same : ∀ m ∈ moments steps, m.timely = m.step := by
    intro m hm
    exact Moment.timely_of_not_superseded (h m hm)
  rw [withoutStale, List.map_congr_left same, map_step_moments]

/-- The coordinator without its notices of discarded answers. -/
def quieted (c : Coordinator α) : Coordinator α :=
  { c with events := c.events.filter (·.discarded? = none) }

theorem quieted_eq_self {c : Coordinator α} (h : c.events.filterMap Event.discarded? = []) :
    c.quieted = c := by
  have kept : c.events.filter (·.discarded? = none) = c.events := by
    refine List.filter_eq_self.mpr fun e he => ?_
    exact decide_eq_true (List.filterMap_eq_nil_iff.mp h e he)
  rw [quieted, kept]

theorem quieted_notice (published : Published α) (latest : Nat) (waiting : List Nat)
    (events : List Event) {e : Event} (kept : e.discarded? = none) :
    quieted ⟨published, latest, waiting, events ++ [e]⟩ =
      ⟨published, latest, waiting, events.filter (·.discarded? = none) ++ [e]⟩ := by
  simp [quieted, kept]

/-- A move of the strict ordering is one of the lenient ordering, if an answer to a
superseded request is taken for none. -/
theorem quieted_move {steps : List (Step α)} {s : Step α} {c : Coordinator α}
    (m : Move .latestRequestWins (run .latestRequestWins steps) s c) :
    Move .lastResponseWins (run .latestRequestWins steps).quieted (Moment.timely ⟨steps, s⟩)
      c.quieted := by
  have waits (g : Nat) : g ∈ (run .latestRequestWins steps).waiting ↔ Waits steps g :=
    mem_waiting_run .latestRequestWins steps g
  have latest : (run .latestRequestWins steps).latest = opened steps := latest_run _ steps
  generalize run .latestRequestWins steps = c₀ at m waits latest ⊢
  -- Only the latest generation is applied, and its answer is no superseded one.
  have timely_applied {g : Nat} (outcome : Outcome α)
      (applied : g = c₀.latest ∨ ResponseOrdering.latestRequestWins = .lastResponseWins) :
      Moment.timely ⟨steps, .settle g outcome⟩ = .settle g outcome := by
    have last : g = opened steps := (eq_latest_of_applied applied).trans latest
    exact Moment.timely_of_not_superseded (Moment.superseded?_opened last outcome)
  cases m with
  | opened =>
    have same : c₀.begin.quieted = c₀.quieted.begin := quieted_notice _ _ _ _ rfl
    rw [same]
    exact .opened
  | spent ends gone =>
    have silent := Moment.superseded?_gone ends fun h => gone ((waits _).mpr h)
    rw [Moment.timely_of_not_superseded silent]
    exact .spent ends gone
  | @discarded g outcome live stale strict =>
    have superseded := Moment.superseded?_eq_some ((waits g).mp live) (latest ▸ stale) outcome
    have same : quieted { c₀ with
        waiting := c₀.waiting.erase g, events := c₀.events ++ [.discarded g] } =
          { c₀.quieted with waiting := c₀.quieted.waiting.erase g } := by
      simp [quieted, Event.discarded?]
    rw [Moment.timely_of_superseded superseded, same]
    exact .dropped live stale
  | @paged g page live applied =>
    have same : (c₀.paged g page).quieted = c₀.quieted.paged g page :=
      quieted_notice _ _ _ _ rfl
    rw [timely_applied (.page page) applied, same]
    exact .paged live (Or.inr rfl)
  | @failed g message live applied =>
    have same : (c₀.failed g message).quieted = c₀.quieted.failed g message :=
      quieted_notice _ _ _ _ rfl
    rw [timely_applied (.failure message) applied, same]
    exact .failed live (Or.inr rfl)
  | @abandoned g live last =>
    rw [quieted_notice _ _ _ _ rfl]
    exact .abandoned live last
  | dropped live stale => exact .dropped live stale

/-- Dropping the superseded answers of a run quiets the strict ordering into the lenient. -/
theorem run_withoutStale (steps : List (Step α)) :
    run .lastResponseWins (withoutStale steps) = (run .latestRequestWins steps).quieted := by
  induction steps using List.reverseRecOn with
  | nil => rfl
  | append_singleton steps s ih =>
    have move := quieted_move (move_step .latestRequestWins (run .latestRequestWins steps) s)
    rw [withoutStale_append_singleton, run_append_singleton, run_append_singleton, ih]
    exact move.eq_step.symm

theorem discarded_run (steps : List (Step α)) :
    (run .latestRequestWins steps).events.filterMap Event.discarded? =
      (moments steps).filterMap Moment.superseded? := by
  rw [events_run, List.filterMap_filterMap]
  exact congrArg (List.filterMap · _) (funext Moment.discarded?_notice?)

/-- The notice of a discarded answer is given exactly at the answers to superseded
requests. -/
theorem discarded_step_iff (steps : List (Step α)) (s : Step α) (g : Nat) :
    (run .latestRequestWins (steps ++ [s])).events =
        (run .latestRequestWins steps).events ++ [.discarded g] ↔
      Moment.superseded? ⟨steps, s⟩ = some g := by
  rw [events_append_singleton, List.append_cancel_left_eq, ← Moment.discarded?_notice?]
  cases h : Moment.notice? .latestRequestWins ⟨steps, s⟩ with
  | none => simp
  | some e => cases e <;> simp [Event.discarded?]

/-- After every prefix the strict ordering on a run and the lenient ordering on the run
without superseded answers show the same and give the same notices, but for those of
discarded answers, which stand exactly where an answer was dropped. -/
theorem orderings_differ_by_stale_answers (steps : List (Step α)) (n : Nat) :
    let strict := run .latestRequestWins (steps.take n)
    let lenient := run .lastResponseWins ((withoutStale steps).take n)
    strict.published = lenient.published ∧
    strict.latest = lenient.latest ∧
    strict.events.filter (·.discarded? = none) = lenient.events ∧
    strict.events.filterMap Event.discarded? =
      (moments (steps.take n)).filterMap Moment.superseded? ∧
    (∀ s g, (run .latestRequestWins (steps.take n ++ [s])).events =
        strict.events ++ [.discarded g] ↔
      Moment.superseded? ⟨steps.take n, s⟩ = some g) ∧
    ((∀ m ∈ moments steps, m.superseded? = none) →
      run .latestRequestWins steps = run .lastResponseWins steps) := by
  intro strict lenient
  have quiet : lenient = strict.quieted := by
    change run _ ((withoutStale steps).take n) = _
    rw [← withoutStale_take, run_withoutStale]
  refine ⟨?_, ?_, ?_, discarded_run _, discarded_step_iff _, ?_⟩
  · rw [quiet]; rfl
  · rw [quiet]; rfl
  · rw [quiet]; rfl
  · intro timely
    have silent : (moments steps).filterMap Moment.superseded? = [] :=
      List.filterMap_eq_nil_iff.mpr timely
    have same := run_withoutStale steps
    rw [withoutStale_eq_self timely, quieted_eq_self ((discarded_run steps).trans silent)] at same
    exact same.symm

example (page : Page Nat) :
    withoutStale [.begin, .begin, .settle 1 (.failure "down"), .settle 2 (.page page)] =
      [.begin, .begin, .abandon 1, .settle 2 (.page page)] := rfl

end Coordinator

end Listing
