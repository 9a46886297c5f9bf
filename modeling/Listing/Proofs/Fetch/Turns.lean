import Listing.Proofs.Fetch.Moments

/-!
# Requests in turn

Each request is answered before the next one is issued. Then no generation is ever stale,
and the coordinator is a function of the outcomes: how responses are ordered plays no part.
-/

namespace Listing

variable {α : Type}

namespace Outcome

def page? : Outcome α → Option (Page α)
  | .page p => some p
  | .failure _ => none

def message? : Outcome α → Option String
  | .page _ => none
  | .failure text => some text

def phase : Outcome α → Phase
  | .page _ => .settled
  | .failure _ => .failed

end Outcome

namespace Coordinator

/-- Requests that come to these outcomes, one after another. -/
def turns (outcomes : List (Outcome α)) : List (Step α) :=
  (outcomes.zipIdx 1).flatMap fun (outcome, g) => [.begin, .settle g outcome]

/-- The notices of requests in turn: each is announced only after the one before has ended. -/
def turnNotices (outcomes : List (Outcome α)) : List Event :=
  (outcomes.zipIdx 1).flatMap fun (outcome, g) => [.loading g, outcomeNotice g outcome]

def lastPage? (outcomes : List (Outcome α)) : Option (Page α) :=
  (outcomes.filterMap Outcome.page?).getLast?

/-- The coordinator after requests in turn. Rows are those of the last success, and how the
last request ended is all that is told about the requests before. -/
def afterTurns (outcomes : List (Outcome α)) : Coordinator α where
  published :=
    { rows := ((lastPage? outcomes).map Page.rows).getD []
      pagination := (lastPage? outcomes).map Page.pagination
      loading := false
      phase := (outcomes.getLast?.map Outcome.phase).getD .idle
      lastError := outcomes.getLast?.bind Outcome.message? }
  latest := outcomes.length
  waiting := []
  events := turnNotices outcomes

theorem turns_append_singleton (outcomes : List (Outcome α)) (outcome : Outcome α) :
    turns (outcomes ++ [outcome]) =
      turns outcomes ++ [.begin, .settle (outcomes.length + 1) outcome] := by
  rw [turns, List.zipIdx_append, List.flatMap_append, Nat.add_comm]
  rfl

theorem turnNotices_append_singleton (outcomes : List (Outcome α)) (outcome : Outcome α) :
    turnNotices (outcomes ++ [outcome]) = turnNotices outcomes ++
      [.loading (outcomes.length + 1), outcomeNotice (outcomes.length + 1) outcome] := by
  rw [turnNotices, List.zipIdx_append, List.flatMap_append, Nat.add_comm]
  rfl

theorem lastPage?_append_page (outcomes : List (Outcome α)) (page : Page α) :
    lastPage? (outcomes ++ [.page page]) = some page := by
  simp [lastPage?, Outcome.page?]

theorem lastPage?_append_failure (outcomes : List (Outcome α)) (message : String) :
    lastPage? (outcomes ++ [.failure message]) = lastPage? outcomes := by
  simp [lastPage?, Outcome.page?]

/-- One more turn. The request is the latest when it is answered, so its outcome is applied
in either ordering. -/
theorem settle_begin_afterTurns (ordering : ResponseOrdering) (outcomes : List (Outcome α))
    (outcome : Outcome α) :
    (afterTurns outcomes).begin.settle ordering (outcomes.length + 1) outcome =
      afterTurns (outcomes ++ [outcome]) := by
  have live : outcomes.length + 1 ∈ (afterTurns outcomes).begin.waiting := List.mem_singleton_self _
  have latest : ¬(outcomes.length + 1 ≠ (afterTurns outcomes).begin.latest ∧
      ordering = .latestRequestWins) := fun stale => stale.1 rfl
  have events := turnNotices_append_singleton outcomes outcome
  rw [settle, if_pos live, if_neg latest]
  cases outcome with
  | page page =>
    simp [begin, apply, afterTurns, phaseAfter, events, lastPage?_append_page, outcomeNotice,
      Outcome.phase, Outcome.message?]
  | failure message =>
    simp [begin, apply, afterTurns, phaseAfter, events, lastPage?_append_failure, outcomeNotice,
      Outcome.phase, Outcome.message?]

theorem run_turns (ordering : ResponseOrdering) (outcomes : List (Outcome α)) :
    run ordering (turns outcomes) = afterTurns outcomes := by
  induction outcomes using List.reverseRecOn with
  | nil => rfl
  | append_singleton outcomes outcome ih =>
    rw [turns_append_singleton, run, List.foldl_append, ← run, ih]
    exact settle_begin_afterTurns ordering outcomes outcome

end Coordinator

end Listing
