import Listing.Fetch.Basic

/-!
# The fetch coordinator

Each request opens a generation. It ends once: an outcome settles it, or it is abandoned
without one. Only the end of the latest generation lowers the loading flag, so the flag
says whether the latest request is still waiting, whatever became of the others.
-/

namespace Listing

structure Coordinator (α : Type) where
  published : Published α
  /-- The generation opened last; zero before the first. -/
  latest : Nat
  /-- The generations that were neither settled nor abandoned. -/
  waiting : List Nat
  /-- Every notice so far, oldest first. -/
  events : List Event

/-- Why an abandoned request has no rows. -/
def abandonedMessage : String := "list request ended before a response arrived"

namespace Coordinator

variable {α : Type}

def initial : Coordinator α := ⟨⟨[], none, false, .idle, none⟩, 0, [], []⟩

instance : Inhabited (Coordinator α) := ⟨initial⟩

def begin (c : Coordinator α) : Coordinator α :=
  let generation := c.latest + 1
  { published := { c.published with loading := true, phase := .loading }
    latest := generation
    waiting := c.waiting ++ [generation]
    events := c.events ++ [.loading generation] }

/-- The phase once an outcome was applied: still loading while the latest request waits. -/
def phaseAfter (loading : Bool) (phase : Phase) : Phase := if loading then .loading else phase

/-- What is shown once an outcome was applied, and the notice of it. -/
def apply (p : Published α) (loading : Bool) (generation : Nat) :
    Outcome α → Published α × Event
  | .page page =>
    (⟨page.rows, some page.pagination, loading, phaseAfter loading .settled, none⟩,
      .settled generation page.rows.length page.pagination)
  | .failure message =>
    (⟨p.rows, p.pagination, loading, phaseAfter loading .failed, some message⟩,
      .failed generation message)

def settle (ordering : ResponseOrdering) (generation : Nat) (outcome : Outcome α)
    (c : Coordinator α) : Coordinator α :=
  if generation ∈ c.waiting then
    let waiting := c.waiting.erase generation
    if generation ≠ c.latest ∧ ordering = .latestRequestWins then
      { c with waiting, events := c.events ++ [.discarded generation] }
    else
      let loading := c.published.loading && generation ≠ c.latest
      let (published, event) := apply c.published loading generation outcome
      { c with published, waiting, events := c.events ++ [event] }
  else c

/-- Ends a waiting generation without an outcome. It shows only if it is the latest. -/
def abandon (generation : Nat) (c : Coordinator α) : Coordinator α :=
  if generation ∈ c.waiting then
    let waiting := c.waiting.erase generation
    if generation = c.latest then
      let published :=
        { c.published with loading := false, phase := .failed, lastError := some abandonedMessage }
      { c with published, waiting, events := c.events ++ [.failed generation abandonedMessage] }
    else { c with waiting }
  else c

inductive Step (α : Type) where
  | begin
  | settle (generation : Nat) (outcome : Outcome α)
  | abandon (generation : Nat)

def step (ordering : ResponseOrdering) (c : Coordinator α) : Step α → Coordinator α
  | .begin => c.begin
  | .settle generation outcome => c.settle ordering generation outcome
  | .abandon generation => c.abandon generation

def run (ordering : ResponseOrdering) (steps : List (Step α)) : Coordinator α :=
  steps.foldl (step ordering) initial

end Coordinator

end Listing
