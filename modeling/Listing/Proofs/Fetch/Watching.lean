import Listing.Proofs.Fetch.Moments

/-!
# Watching the notices

Whoever takes every notice from the start knows, without asking, what is shown: all but
the rows themselves. No step changes what is shown in silence, and no notice tells of a
change that did not happen.
-/

namespace Listing

/-- What a watcher makes of the notices. Of the rows only the number is known. -/
structure View where
  latest : Nat
  loading : Bool
  phase : Phase
  rowCount : Nat
  pagination : Option Pagination
  lastError : Option String
deriving DecidableEq, Repr

namespace View

def initial : View := ⟨0, false, .idle, 0, none, none⟩

/-- Only the end of the latest generation ends the loading. -/
def loadingAfter (v : View) (generation : Nat) : Bool :=
  if generation = v.latest then false else v.loading

def observe (v : View) : Event → View
  | .loading generation => { v with latest := generation, loading := true, phase := .loading }
  | .settled generation rowCount pagination =>
    let loading := v.loadingAfter generation
    { v with
      loading
      phase := if loading then .loading else .settled
      rowCount
      pagination := some pagination
      lastError := none }
  | .failed generation message =>
    let loading := v.loadingAfter generation
    { v with
      loading
      phase := if loading then .loading else .failed
      lastError := some message }
  | .discarded _ => v

/-- The view from all notices so far. -/
def ofNotices (events : List Event) : View := events.foldl observe initial

theorem ofNotices_append_singleton (events : List Event) (e : Event) :
    ofNotices (events ++ [e]) = (ofNotices events).observe e := by
  simp [ofNotices]

/-- What there is to know about a coordinator. -/
def ofCoordinator {α : Type} (c : Coordinator α) : View where
  latest := c.latest
  loading := c.published.loading
  phase := c.published.phase
  rowCount := c.published.rows.length
  pagination := c.published.pagination
  lastError := c.published.lastError

end View

namespace Coordinator

variable {α : Type}

theorem loadingAfter_ofCoordinator (c : Coordinator α) (g : Nat) :
    (View.ofCoordinator c).loadingAfter g = (c.published.loading && g ≠ c.latest) := by
  by_cases h : g = c.latest <;> simp [View.loadingAfter, View.ofCoordinator, h]

theorem observe_settled (c : Coordinator α) (g : Nat) (page : Page α) :
    (View.ofCoordinator c).observe (.settled g page.rows.length page.pagination) =
      View.ofCoordinator (c.paged g page) := by
  rw [View.observe, loadingAfter_ofCoordinator]
  rfl

theorem observe_failed (c : Coordinator α) (g : Nat) (message : String) :
    (View.ofCoordinator c).observe (.failed g message) =
      View.ofCoordinator (c.failed g message) := by
  rw [View.observe, loadingAfter_ofCoordinator]
  rfl

/-- A view that was right before a move is right after it, by the notices of the move. -/
theorem ofNotices_move {ordering : ResponseOrdering} {c c' : Coordinator α} {s : Step α}
    (h : View.ofNotices c.events = View.ofCoordinator c) (m : Move ordering c s c') :
    View.ofNotices c'.events = View.ofCoordinator c' := by
  cases m with
  | opened =>
    change View.ofNotices (c.events ++ [_]) = _
    rw [View.ofNotices_append_singleton, h]
    rfl
  | spent ends gone => exact h
  | discarded live stale strict =>
    rw [View.ofNotices_append_singleton, h]
    rfl
  | @paged g page live applied =>
    change View.ofNotices (c.events ++ [_]) = _
    rw [View.ofNotices_append_singleton, h, observe_settled]
  | @failed g message live applied =>
    change View.ofNotices (c.events ++ [_]) = _
    rw [View.ofNotices_append_singleton, h, observe_failed]
  | @abandoned g live latest =>
    rw [View.ofNotices_append_singleton, h, observe_failed]
    simp [View.ofCoordinator, failed, phaseAfter, latest]
  | dropped live stale => exact h

theorem ofNotices_run (ordering : ResponseOrdering) (steps : List (Step α)) :
    View.ofNotices (run ordering steps).events = View.ofCoordinator (run ordering steps) :=
  run_induction (P := fun c => View.ofNotices c.events = View.ofCoordinator c) rfl
    (fun _ _ _ => ofNotices_move) steps

/-- No notice is taken back. -/
theorem events_take (ordering : ResponseOrdering) (steps : List (Step α)) (n : Nat) :
    ∃ later, (run ordering steps).events = (run ordering (steps.take n)).events ++ later := by
  refine ⟨((moments steps).drop n).filterMap (Moment.notice? ordering), ?_⟩
  rw [events_run, events_run, moments_take, ← List.filterMap_append, List.take_append_drop]

/-- A watcher of all notices has the state of the coordinator after every step, and goes on
from there with the notices that are still to come. -/
theorem notices_reproduce_state (ordering : ResponseOrdering) (steps : List (Step α))
    (n : Nat) :
    let c := run ordering (steps.take n)
    View.ofNotices c.events =
      ⟨c.latest, c.published.loading, c.published.phase, c.published.rows.length,
        c.published.pagination, c.published.lastError⟩ ∧
    ∃ later, (run ordering steps).events = c.events ++ later ∧
      later.foldl View.observe (View.ofNotices c.events) =
        View.ofCoordinator (run ordering steps) := by
  intro c
  obtain ⟨later, split⟩ := events_take ordering steps n
  refine ⟨ofNotices_run ordering _, later, split, ?_⟩
  rw [← ofNotices_run ordering steps, split, View.ofNotices, View.ofNotices, List.foldl_append]

/-- The failure of a superseded request shows, but does not end the loading. -/
example : View.ofNotices [.loading 1, .loading 2, .failed 1 "down"] =
    ⟨2, true, .loading, 0, none, some "down"⟩ := rfl

end Coordinator

end Listing
