import Listing.Proofs.Fetch.Moments

/-!
# Where the rows come from

Rows and pagination are those of one page, the one applied last. A page is applied if its
step announces it as settled; which pages these are depends on the ordering, and is said
by the history alone.
-/

namespace Listing

/-- A page for a generation, and the generation opened last when it came. -/
structure Arrival (α : Type) where
  generation : Nat
  latest : Nat
  page : Page α

def Published.content {α : Type} (p : Published α) : List α × Option Pagination :=
  (p.rows, p.pagination)

/-- The content that an applied page has as a whole. -/
def Arrival.content {α : Type} (a : Arrival α) : List α × Option Pagination :=
  (a.page.rows, some a.page.pagination)

namespace Coordinator

variable {α : Type}

/-- The page that a step applies to a coordinator: it is announced as settled. -/
def applied? (ordering : ResponseOrdering) (c : Coordinator α) :
    Step α → Option (Arrival α)
  | .settle g (.page page) =>
    if (c.step ordering (.settle g (.page page))).events =
        c.events ++ [.settled g page.rows.length page.pagination]
    then some ⟨g, c.latest, page⟩ else none
  | _ => none

def applied (ordering : ResponseOrdering) (steps : List (Step α)) : List (Arrival α) :=
  (moments steps).filterMap fun m => (run ordering m.before).applied? ordering m.step

/-- The page that ends a waiting generation, by the history alone. -/
def Moment.arrival? (m : Moment α) : Option (Arrival α) :=
  match m.step with
  | .settle g (.page page) =>
    if Waits m.before g then some ⟨g, opened m.before, page⟩ else none
  | _ => none

/-- The pages that end a waiting generation, in the order in which they come. -/
def arrivals (steps : List (Step α)) : List (Arrival α) :=
  (moments steps).filterMap Moment.arrival?

theorem applied?_eq_none {ordering : ResponseOrdering} {c : Coordinator α} {s : Step α}
    (h : ∀ g rowCount pagination,
      (c.step ordering s).events ≠ c.events ++ [.settled g rowCount pagination]) :
    c.applied? ordering s = none := by
  cases s with
  | begin => rfl
  | settle g outcome =>
    cases outcome with
    | page page => exact if_neg (h g _ _)
    | failure message => rfl
  | abandon g => rfl

theorem applied?_discarded {ordering : ResponseOrdering} {c : Coordinator α} {s : Step α}
    {g : Nat} (h : (c.step ordering s).events = c.events ++ [.discarded g]) :
    c.applied? ordering s = none := by
  refine applied?_eq_none fun _ _ _ settled => ?_
  have both := List.append_cancel_left (h.symm.trans settled)
  simp at both

/-- A move shows the page that it applies, and otherwise what was shown before. -/
theorem content_move {ordering : ResponseOrdering} {c c' : Coordinator α} {s : Step α}
    (m : Move ordering c s c') :
    c'.published.content = (c.applied? ordering s).elim c.published.content Arrival.content := by
  have now := m.eq_step
  cases m with
  | opened => rfl
  | spent ends gone =>
    have silent : c.applied? ordering s = none := applied?_eq_none (by simp [← now])
    rw [silent]
    rfl
  | discarded live stale strict =>
    rw [applied?_discarded (congrArg Coordinator.events now.symm)]
    rfl
  | @paged g page live applies =>
    have announced : c.applied? ordering (.settle g (.page page)) = some ⟨g, c.latest, page⟩ :=
      if_pos (congrArg Coordinator.events now.symm)
    rw [announced]
    rfl
  | failed live applies => rfl
  | abandoned live latest => rfl
  | dropped live stale => rfl

theorem applied_append_singleton (ordering : ResponseOrdering) (steps : List (Step α))
    (s : Step α) :
    applied ordering (steps ++ [s]) =
      applied ordering steps ++ ((run ordering steps).applied? ordering s).toList :=
  filterMap_moments_append_singleton _ steps s

theorem content_run (ordering : ResponseOrdering) (steps : List (Step α)) :
    (run ordering steps).published.content =
      (applied ordering steps).getLast?.elim ([], none) Arrival.content := by
  induction steps using List.reverseRecOn with
  | nil => rfl
  | append_singleton steps s ih =>
    have step := content_move (move_step ordering (run ordering steps) s)
    rw [run_append_singleton, step, applied_append_singleton]
    cases (run ordering steps).applied? ordering s with
    | none => simpa using ih
    | some a => simp

theorem announced_iff (ordering : ResponseOrdering) (steps : List (Step α)) (g : Nat)
    (page : Page α) :
    ((run ordering steps).step ordering (.settle g (.page page))).events =
        (run ordering steps).events ++ [.settled g page.rows.length page.pagination] ↔
      Waits steps g ∧ (g = opened steps ∨ ordering = .lastResponseWins) := by
  rw [← run_append_singleton, events_append_singleton, List.append_cancel_left_eq]
  by_cases waits : Waits steps g
  · by_cases stale : g ≠ opened steps ∧ ordering = .latestRequestWins
    · obtain ⟨stale, rfl⟩ := stale
      simp [Moment.notice?, waits, stale]
    · have applies := not_strict_and_stale_iff.mp stale
      rw [notice?_applied waits applies]
      exact iff_of_true rfl ⟨waits, applies⟩
  · simp [Moment.notice?, waits]

/-- Of the pages that arrive, the lenient ordering applies all, and the strict one those
for the latest generation. -/
theorem applied?_eq (ordering : ResponseOrdering) (m : Moment α) :
    (run ordering m.before).applied? ordering m.step =
      m.arrival?.filter fun a => a.generation = a.latest ∨ ordering = .lastResponseWins := by
  obtain ⟨before, s⟩ := m
  cases s with
  | begin => rfl
  | abandon g => rfl
  | settle g outcome =>
    cases outcome with
    | failure message => rfl
    | page page =>
      have announced := announced_iff ordering before g page
      by_cases waits : Waits before g
      · simp [applied?, Moment.arrival?, announced, waits, latest_run, Option.filter]
      · simp [applied?, Moment.arrival?, announced, waits]

theorem applied_eq (ordering : ResponseOrdering) (steps : List (Step α)) :
    applied ordering steps =
      (arrivals steps).filter fun a =>
        a.generation = a.latest ∨ ordering = .lastResponseWins := by
  rw [arrivals, List.filter_filterMap]
  exact congrArg (List.filterMap · _) (funext (applied?_eq ordering))

theorem applied_lastResponseWins (steps : List (Step α)) :
    applied .lastResponseWins steps = arrivals steps := by
  rw [applied_eq]
  simp

theorem applied_latestRequestWins (steps : List (Step α)) :
    applied .latestRequestWins steps =
      (arrivals steps).filter fun a => a.generation = a.latest := by
  rw [applied_eq]
  simp

theorem of_arrival? {m : Moment α} {a : Arrival α} (h : m.arrival? = some a) :
    m.step.Ends a.generation ∧ Waits m.before a.generation ∧ a.latest = opened m.before := by
  obtain ⟨before, s⟩ := m
  cases s with
  | begin => cases h
  | abandon g => cases h
  | settle g outcome =>
    cases outcome with
    | failure message => cases h
    | page page =>
      obtain ⟨waits, ⟨⟩⟩ := Option.ite_none_right_eq_some.mp h
      exact ⟨rfl, waits, rfl⟩

/-- Under the strict ordering an applied page ends the generation opened last. -/
theorem of_applied? {steps : List (Step α)} {s : Step α} {a : Arrival α}
    (h : (run .latestRequestWins steps).applied? .latestRequestWins s = some a) :
    s.Ends a.generation ∧ Waits steps a.generation ∧ a.generation = opened steps := by
  rw [applied?_eq .latestRequestWins ⟨steps, s⟩, Option.filter_eq_some_iff] at h
  obtain ⟨arrives, timely⟩ := h
  obtain ⟨ends, waits, latest⟩ := of_arrival? arrives
  refine ⟨ends, waits, ?_⟩
  rw [← latest]
  simpa using timely

theorem not_waits_after {steps : List (Step α)} {g : Nat} (old : g ≤ opened steps) {s : Step α}
    (ended : s.Ends g ∨ ¬ Waits steps g) : ¬ Waits (steps ++ [s]) g := by
  rw [waits_append_singleton]
  rintro (⟨_, new⟩ | ⟨waits, kept⟩)
  · omega
  · exact ended.elim kept fun gone => gone waits

/-- Applied pages are for generations that are over. -/
theorem ended_of_mem_applied {steps : List (Step α)} {a : Arrival α}
    (h : a ∈ applied .latestRequestWins steps) :
    a.generation ≤ opened steps ∧ ¬ Waits steps a.generation := by
  induction steps using List.reverseRecOn with
  | nil => cases h
  | append_singleton steps s ih =>
    rw [opened_append]
    rw [applied_append_singleton, List.mem_append, Option.mem_toList] at h
    rcases h with earlier | now
    · obtain ⟨old, gone⟩ := ih earlier
      exact ⟨by omega, not_waits_after old (Or.inr gone)⟩
    · obtain ⟨ends, _, latest⟩ := of_applied? now
      exact ⟨by omega, not_waits_after (Nat.le_of_eq latest) (Or.inl ends)⟩

/-- Under the strict ordering no older page follows a newer one, and none is applied
twice. -/
theorem applied_increasing (steps : List (Step α)) :
    ((applied .latestRequestWins steps).map Arrival.generation).Pairwise (· < ·) := by
  induction steps using List.reverseRecOn with
  | nil => exact List.Pairwise.nil
  | append_singleton steps s ih =>
    rw [applied_append_singleton, List.map_append, List.pairwise_append]
    refine ⟨ih, ?_, ?_⟩
    · cases (run .latestRequestWins steps).applied? .latestRequestWins s <;> simp
    · intro old hold new hnew
      obtain ⟨a, ha, rfl⟩ := List.mem_map.mp hold
      obtain ⟨b, hb, rfl⟩ := List.mem_map.mp hnew
      obtain ⟨bound, gone⟩ := ended_of_mem_applied ha
      obtain ⟨_, waits, latest⟩ := of_applied? (Option.mem_toList.mp hb)
      -- The page that comes now is for the latest generation, which still waited.
      have differ : a.generation ≠ b.generation := fun same => gone (same ▸ waits)
      omega

theorem content_kept (ordering : ResponseOrdering) {c : Coordinator α} (s : Step α)
    (h : c.applied? ordering s = none) :
    (c.step ordering s).published.content = c.published.content := by
  rw [content_move (move_step ordering c s), h]
  rfl

/-- After every run the content is that of the page applied last. The lenient ordering
applies every page that ends a generation, the strict one those that end the latest, in
increasing order. Failures, discarded answers and abandonments leave the content alone. -/
theorem content_is_last_applied (steps : List (Step α)) :
    (∀ ordering, (run ordering steps).published.content =
      (applied ordering steps).getLast?.elim ([], none) Arrival.content) ∧
    applied .lastResponseWins steps = arrivals steps ∧
    applied .latestRequestWins steps =
      (arrivals steps).filter (fun a => a.generation = a.latest) ∧
    ((applied .latestRequestWins steps).map Arrival.generation).Pairwise (· < ·) ∧
    ∀ ordering,
      let c := run ordering steps
      (∀ g message,
        (c.settle ordering g (.failure message)).published.content = c.published.content) ∧
      (∀ g outcome, (c.settle ordering g outcome).events = c.events ++ [.discarded g] →
        (c.settle ordering g outcome).published.content = c.published.content) ∧
      ∀ g, (c.abandon g).published.content = c.published.content := by
  refine ⟨fun ordering => content_run ordering steps, applied_lastResponseWins steps,
    applied_latestRequestWins steps, applied_increasing steps, ?_⟩
  intro ordering c
  refine ⟨?_, ?_, ?_⟩
  · intro g message
    exact content_kept ordering (.settle g (.failure message)) rfl
  · intro g outcome discarded
    exact content_kept ordering (.settle g outcome) (applied?_discarded discarded)
  · intro g
    exact content_kept ordering (.abandon g) rfl

end Coordinator

end Listing
