import Listing.Proofs.Fetch.History

/-!
# Moments of a run

What a step does depends on the steps before it through two facts alone: which
generations wait, and which was opened last. So the notices of a run can be read off its
steps. A step gives one notice or none.
-/

namespace Listing.Coordinator

variable {α : Type}

instance decidableWaits (steps : List (Step α)) (g : Nat) : Decidable (Waits steps g) :=
  decidable_of_iff _ (mem_waiting_run .lastResponseWins steps g)

/-- A step of a run, with the steps before it. -/
structure Moment (α : Type) where
  before : List (Step α)
  step : Step α

def momentsAfter (before : List (Step α)) : List (Step α) → List (Moment α)
  | [] => []
  | s :: rest => ⟨before, s⟩ :: momentsAfter (before ++ [s]) rest

def moments (steps : List (Step α)) : List (Moment α) := momentsAfter [] steps

theorem momentsAfter_append_singleton (before steps : List (Step α)) (s : Step α) :
    momentsAfter before (steps ++ [s]) =
      momentsAfter before steps ++ [⟨before ++ steps, s⟩] := by
  induction steps generalizing before with
  | nil => simp [momentsAfter]
  | cons first rest ih => simp [momentsAfter, ih]

theorem moments_append_singleton (steps : List (Step α)) (s : Step α) :
    moments (steps ++ [s]) = moments steps ++ [⟨steps, s⟩] :=
  momentsAfter_append_singleton [] steps s

theorem moments_take (steps : List (Step α)) (n : Nat) :
    moments (steps.take n) = (moments steps).take n := by
  have taken (before steps : List (Step α)) (n : Nat) :
      momentsAfter before (steps.take n) = (momentsAfter before steps).take n := by
    induction steps generalizing before n with
    | nil => simp [momentsAfter]
    | cons first rest ih => cases n <;> simp [momentsAfter, ih]
  exact taken [] steps n

theorem map_step_moments (steps : List (Step α)) : (moments steps).map Moment.step = steps := by
  induction steps using List.reverseRecOn with
  | nil => rfl
  | append_singleton steps s ih => rw [moments_append_singleton, List.map_append, ih]; rfl

theorem filterMap_moments_append_singleton {β : Type} (f : Moment α → Option β)
    (steps : List (Step α)) (s : Step α) :
    (moments (steps ++ [s])).filterMap f =
      (moments steps).filterMap f ++ (f ⟨steps, s⟩).toList := by
  rw [moments_append_singleton, List.filterMap_append]
  cases h : f ⟨steps, s⟩ <;> simp [h]

def outcomeNotice (generation : Nat) : Outcome α → Event
  | .page page => .settled generation page.rows.length page.pagination
  | .failure message => .failed generation message

/-- The notice that a moment gives, by the history alone. -/
def Moment.notice? (ordering : ResponseOrdering) (m : Moment α) : Option Event :=
  match m.step with
  | .begin => some (.loading (opened m.before + 1))
  | .settle g outcome =>
    if Waits m.before g then
      if g ≠ opened m.before ∧ ordering = .latestRequestWins then some (.discarded g)
      else some (outcomeNotice g outcome)
    else none
  | .abandon g =>
    if Waits m.before g ∧ g = opened m.before then some (.failed g abandonedMessage) else none

theorem notice?_eq_none {ordering : ResponseOrdering} {steps : List (Step α)} {s : Step α}
    {g : Nat} (ends : s.Ends g) (gone : ¬ Waits steps g) :
    Moment.notice? ordering ⟨steps, s⟩ = none := by
  obtain ⟨outcome, rfl⟩ | rfl := ends.cases
  · exact if_neg gone
  · exact if_neg fun h => gone h.1

theorem notice?_applied {ordering : ResponseOrdering} {steps : List (Step α)} {g : Nat}
    (waits : Waits steps g) (applied : g = opened steps ∨ ordering = .lastResponseWins)
    (outcome : Outcome α) :
    Moment.notice? ordering ⟨steps, .settle g outcome⟩ = some (outcomeNotice g outcome) :=
  (if_pos waits).trans (if_neg (not_strict_and_stale_iff.mpr applied))

theorem events_move {ordering : ResponseOrdering} {steps : List (Step α)} {s : Step α}
    {c : Coordinator α} (m : Move ordering (run ordering steps) s c) :
    c.events = (run ordering steps).events ++ (Moment.notice? ordering ⟨steps, s⟩).toList := by
  have waits (g : Nat) : g ∈ (run ordering steps).waiting ↔ Waits steps g :=
    mem_waiting_run ordering steps g
  have latest : (run ordering steps).latest = opened steps := latest_run ordering steps
  cases m with
  | opened => simp [begin, Moment.notice?, latest]
  | spent ends gone => simp [notice?_eq_none ends fun h => gone ((waits _).mpr h)]
  | discarded live stale strict =>
    rw [latest] at stale
    simp [Moment.notice?, (waits _).mp live, stale, strict]
  | paged live applied =>
    rw [latest] at applied
    rw [notice?_applied ((waits _).mp live) applied]
    rfl
  | failed live applied =>
    rw [latest] at applied
    rw [notice?_applied ((waits _).mp live) applied]
    rfl
  | @abandoned g live last =>
    rw [latest] at last
    have notice : Moment.notice? ordering ⟨steps, .abandon g⟩ =
        some (.failed g abandonedMessage) := if_pos ⟨(waits g).mp live, last⟩
    rw [notice]
    rfl
  | @dropped g live stale =>
    rw [latest] at stale
    have silent : Moment.notice? ordering ⟨steps, .abandon g⟩ = none :=
      if_neg fun h => stale h.2
    simp [silent]

/-- Each step adds its notice to those before it. -/
theorem events_append_singleton (ordering : ResponseOrdering) (steps : List (Step α))
    (s : Step α) :
    (run ordering (steps ++ [s])).events =
      (run ordering steps).events ++ (Moment.notice? ordering ⟨steps, s⟩).toList := by
  rw [run_append_singleton]
  exact events_move (move_step ordering _ s)

theorem events_run (ordering : ResponseOrdering) (steps : List (Step α)) :
    (run ordering steps).events = (moments steps).filterMap (Moment.notice? ordering) := by
  induction steps using List.reverseRecOn with
  | nil => rfl
  | append_singleton steps s ih =>
    rw [events_append_singleton, filterMap_moments_append_singleton, ih]

end Listing.Coordinator
