import Listing.Fetch.Coordinator
import Mathlib.Data.List.Induction

/-!
# Moves and histories of the coordinator

What one step does is said once, with a case for each way it can turn out. A run is known
by its steps alone: the latest generation is the number of openings, and a generation
waits if the run has opened it and not ended it since.
-/

namespace Listing.Coordinator

variable {α : Type}

namespace Step

def isBegin : Step α → Bool
  | .begin => true
  | _ => false

/-- The step uses up what stands for a generation, with an outcome or without one. -/
def Ends (generation : Nat) : Step α → Prop
  | .begin => False
  | .settle g _ => g = generation
  | .abandon g => g = generation

theorem eq_begin_of_isBegin {s : Step α} (h : s.isBegin = true) : s = .begin := by
  cases s with
  | begin => rfl
  | settle g outcome => cases h
  | abandon g => cases h

theorem Ends.unique {s : Step α} {g g' : Nat} (h : s.Ends g) (h' : s.Ends g') : g = g' := by
  cases s with
  | begin => exact False.elim h
  | settle k outcome => exact h.symm.trans h'
  | abandon k => exact h.symm.trans h'

theorem Ends.cases {s : Step α} {g : Nat} (h : s.Ends g) :
    (∃ outcome, s = .settle g outcome) ∨ s = .abandon g := by
  cases s with
  | begin => exact False.elim h
  | settle k outcome =>
    obtain rfl : k = g := h
    exact Or.inl ⟨outcome, rfl⟩
  | abandon k =>
    obtain rfl : k = g := h
    exact Or.inr rfl

theorem isBegin_eq_false_of_ends {s : Step α} {g : Nat} (h : s.Ends g) : s.isBegin = false := by
  cases s with
  | begin => exact False.elim h
  | settle g' outcome => rfl
  | abandon g' => rfl

end Step

theorem phaseAfter_eq_loading_iff {loading : Bool} {phase : Phase} (h : phase ≠ .loading) :
    phaseAfter loading phase = .loading ↔ loading = true := by
  cases loading with
  | true => simp [phaseAfter]
  | false => simpa [phaseAfter] using h

theorem eq_of_phaseAfter_eq {loading : Bool} {phase p : Phase}
    (h : phaseAfter loading phase = p) (hp : p ≠ .loading) : phase = p := by
  cases loading with
  | true => exact False.elim (hp h.symm)
  | false => exact h

def paged (c : Coordinator α) (g : Nat) (page : Page α) : Coordinator α :=
  let loading := c.published.loading && g ≠ c.latest
  { c with
    published := ⟨page.rows, some page.pagination, loading, phaseAfter loading .settled, none⟩
    waiting := c.waiting.erase g
    events := c.events ++ [.settled g page.rows.length page.pagination] }

def failed (c : Coordinator α) (g : Nat) (message : String) : Coordinator α :=
  let loading := c.published.loading && g ≠ c.latest
  { c with
    published := ⟨c.published.rows, c.published.pagination, loading,
      phaseAfter loading .failed, some message⟩
    waiting := c.waiting.erase g
    events := c.events ++ [.failed g message] }

/-- The ways a step can turn out. A step for a generation that does not wait is spent. -/
inductive Move (ordering : ResponseOrdering) (c : Coordinator α) :
    Step α → Coordinator α → Prop where
  | opened : Move ordering c .begin c.begin
  | spent {s : Step α} {g : Nat} (ends : s.Ends g) (gone : g ∉ c.waiting) :
      Move ordering c s c
  | discarded {g : Nat} {outcome : Outcome α} (live : g ∈ c.waiting) (stale : g ≠ c.latest)
      (strict : ordering = .latestRequestWins) :
      Move ordering c (.settle g outcome)
        { c with waiting := c.waiting.erase g, events := c.events ++ [.discarded g] }
  | paged {g : Nat} {page : Page α} (live : g ∈ c.waiting)
      (applied : g = c.latest ∨ ordering = .lastResponseWins) :
      Move ordering c (.settle g (.page page)) (c.paged g page)
  | failed {g : Nat} {message : String} (live : g ∈ c.waiting)
      (applied : g = c.latest ∨ ordering = .lastResponseWins) :
      Move ordering c (.settle g (.failure message)) (c.failed g message)
  | abandoned {g : Nat} (live : g ∈ c.waiting) (latest : g = c.latest) :
      Move ordering c (.abandon g)
        { c with
          published :=
            { c.published with
              loading := false, phase := .failed, lastError := some abandonedMessage }
          waiting := c.waiting.erase g
          events := c.events ++ [.failed g abandonedMessage] }
  | dropped {g : Nat} (live : g ∈ c.waiting) (stale : g ≠ c.latest) :
      Move ordering c (.abandon g) { c with waiting := c.waiting.erase g }

/-- An outcome is applied unless it is stale and the ordering strict. -/
theorem not_strict_and_stale_iff {ordering : ResponseOrdering} {g latest : Nat} :
    ¬(g ≠ latest ∧ ordering = .latestRequestWins) ↔
      g = latest ∨ ordering = .lastResponseWins := by
  cases ordering with
  | lastResponseWins => simp
  | latestRequestWins => simp

theorem eq_latest_of_applied {g latest : Nat}
    (applied : g = latest ∨ ResponseOrdering.latestRequestWins = .lastResponseWins) :
    g = latest :=
  applied.resolve_right (by decide)

theorem move_settle (ordering : ResponseOrdering) (c : Coordinator α) (g : Nat)
    (outcome : Outcome α) :
    Move ordering c (.settle g outcome) (c.settle ordering g outcome) := by
  by_cases live : g ∈ c.waiting
  · by_cases stale : g ≠ c.latest ∧ ordering = .latestRequestWins
    · rw [settle, if_pos live, if_pos stale]
      exact .discarded live stale.1 stale.2
    · have applied := not_strict_and_stale_iff.mp stale
      rw [settle, if_pos live, if_neg stale]
      cases outcome with
      | page page => exact .paged live applied
      | failure message => exact .failed live applied
  · rw [settle, if_neg live]
    exact .spent (g := g) rfl live

theorem move_abandon (ordering : ResponseOrdering) (c : Coordinator α) (g : Nat) :
    Move ordering c (.abandon g) (c.abandon g) := by
  by_cases live : g ∈ c.waiting
  · by_cases latest : g = c.latest
    · rw [abandon, if_pos live, if_pos latest]
      exact .abandoned live latest
    · rw [abandon, if_pos live, if_neg latest]
      exact .dropped live latest
  · rw [abandon, if_neg live]
    exact .spent (g := g) rfl live

theorem move_step (ordering : ResponseOrdering) (c : Coordinator α) (s : Step α) :
    Move ordering c s (c.step ordering s) := by
  cases s with
  | begin => exact .opened
  | settle g outcome => exact move_settle ordering c g outcome
  | abandon g => exact move_abandon ordering c g

/-- A step has no other move. -/
theorem Move.eq_step {ordering : ResponseOrdering} {c c' : Coordinator α} {s : Step α}
    (m : Move ordering c s c') : c' = c.step ordering s := by
  cases m with
  | opened => rfl
  | spent ends gone =>
    obtain ⟨outcome, rfl⟩ | rfl := ends.cases
    · exact (if_neg gone).symm
    · exact (if_neg gone).symm
  | discarded live stale strict => simp [step, settle, live, stale, strict]
  | paged live applied =>
    rw [step, settle, if_pos live, if_neg (not_strict_and_stale_iff.mpr applied)]
    rfl
  | failed live applied =>
    rw [step, settle, if_pos live, if_neg (not_strict_and_stale_iff.mpr applied)]
    rfl
  | abandoned live latest => rw [step, abandon, if_pos live, if_pos latest]
  | dropped live stale => rw [step, abandon, if_pos live, if_neg stale]

theorem run_nil (ordering : ResponseOrdering) : run ordering ([] : List (Step α)) = initial :=
  rfl

theorem run_append_singleton (ordering : ResponseOrdering) (steps : List (Step α))
    (s : Step α) :
    run ordering (steps ++ [s]) = (run ordering steps).step ordering s := by
  simp [run]

/-- What holds at the start and is kept by every move holds after every run. -/
theorem run_induction {P : Coordinator α → Prop} {ordering : ResponseOrdering}
    (start : P initial)
    (move : ∀ c s c', P c → Move ordering c s c' → P c') (steps : List (Step α)) :
    P (run ordering steps) := by
  induction steps using List.reverseRecOn with
  | nil => exact start
  | append_singleton steps s ih =>
    rw [run_append_singleton]
    exact move _ s _ ih (move_step ordering _ s)

def opened (steps : List (Step α)) : Nat := steps.countP Step.isBegin

theorem opened_append (before after : List (Step α)) :
    opened (before ++ after) = opened before + opened after :=
  List.countP_append

theorem opened_cons_begin (steps : List (Step α)) :
    opened (.begin :: steps) = opened steps + 1 :=
  List.countP_cons_of_pos rfl

theorem opened_eq_zero_iff {steps : List (Step α)} : opened steps = 0 ↔ .begin ∉ steps := by
  rw [opened, List.countP_eq_zero]
  constructor
  · intro h hmem
    exact h _ hmem rfl
  · intro h s hs hb
    exact h (Step.eq_begin_of_isBegin hb ▸ hs)

theorem opened_append_singleton {steps : List (Step α)} {s : Step α} (hs : s ≠ .begin) :
    opened (steps ++ [s]) = opened steps := by
  have none_opened : opened [s] = 0 := opened_eq_zero_iff.mpr (by simpa using hs.symm)
  rw [opened_append, none_opened, Nat.add_zero]

theorem latest_move {ordering : ResponseOrdering} {c c' : Coordinator α} {s : Step α}
    (m : Move ordering c s c') : c'.latest = c.latest + opened [s] := by
  cases m with
  | opened => rfl
  | spent ends gone => simp [opened, Step.isBegin_eq_false_of_ends ends]
  | discarded live stale strict => rfl
  | paged live applied => rfl
  | failed live applied => rfl
  | abandoned live latest => rfl
  | dropped live stale => rfl

theorem latest_run (ordering : ResponseOrdering) (steps : List (Step α)) :
    (run ordering steps).latest = opened steps := by
  induction steps using List.reverseRecOn with
  | nil => rfl
  | append_singleton steps s ih =>
    rw [run_append_singleton, latest_move (move_step ordering _ s), ih, opened_append]

/-- Generations wait once, and only those that were opened. -/
structure Orderly (c : Coordinator α) : Prop where
  distinct : c.waiting.Nodup
  opened : ∀ g ∈ c.waiting, 0 < g ∧ g ≤ c.latest

theorem Orderly.erase {c c' : Coordinator α} (h : Orderly c) (g : Nat)
    (waiting : c'.waiting = c.waiting.erase g) (latest : c'.latest = c.latest) : Orderly c' where
  distinct := waiting ▸ h.distinct.erase g
  opened := by
    intro k hk
    rw [latest]
    exact h.opened k (List.mem_of_mem_erase (waiting ▸ hk))

theorem Orderly.begin {c : Coordinator α} (h : Orderly c) : Orderly c.begin where
  distinct := by
    refine List.nodup_append.mpr ⟨h.distinct, List.pairwise_singleton _ _, ?_⟩
    intro old hold new hnew
    have := (h.opened old hold).2
    have := List.mem_singleton.mp hnew
    omega
  opened := by
    intro g hg
    change g ∈ c.waiting ++ [c.latest + 1] at hg
    change 0 < g ∧ g ≤ c.latest + 1
    rcases List.mem_append.mp hg with old | new
    · have := h.opened g old
      omega
    · have := List.mem_singleton.mp new
      omega

theorem Orderly.move {ordering : ResponseOrdering} {c c' : Coordinator α} {s : Step α}
    (h : Orderly c) (m : Move ordering c s c') : Orderly c' := by
  cases m with
  | opened => exact h.begin
  | spent ends gone => exact h
  | discarded live stale strict => exact h.erase _ rfl rfl
  | paged live applied => exact h.erase _ rfl rfl
  | failed live applied => exact h.erase _ rfl rfl
  | abandoned live latest => exact h.erase _ rfl rfl
  | dropped live stale => exact h.erase _ rfl rfl

theorem orderly_initial : Orderly (initial : Coordinator α) where
  distinct := List.nodup_nil
  opened := by simp [initial]

theorem orderly_run (ordering : ResponseOrdering) (steps : List (Step α)) :
    Orderly (run ordering steps) :=
  run_induction orderly_initial (fun _ _ _ => Orderly.move) steps

/-- The run has opened the generation and has not ended it since. -/
def Waits (steps : List (Step α)) (g : Nat) : Prop :=
  ∃ before after, steps = before ++ .begin :: after ∧ opened before + 1 = g ∧
    ∀ s ∈ after, ¬ s.Ends g

theorem not_waits_nil (g : Nat) : ¬ Waits ([] : List (Step α)) g := by
  rintro ⟨before, after, split, _⟩
  simp at split

theorem waits_append_singleton {steps : List (Step α)} {s : Step α} {g : Nat} :
    Waits (steps ++ [s]) g ↔
      (s = .begin ∧ g = opened steps + 1) ∨ (Waits steps g ∧ ¬ s.Ends g) := by
  constructor
  · rintro ⟨before, after, split, number, kept⟩
    rcases List.eq_nil_or_concat after with rfl | ⟨after, last, rfl⟩
    · obtain ⟨rfl, hs⟩ := List.append_inj' split rfl
      exact Or.inl ⟨List.singleton_inj.mp hs, number.symm⟩
    · simp only [List.concat_eq_append] at split kept
      rw [← List.cons_append, ← List.append_assoc] at split
      obtain ⟨rfl, hs⟩ := List.append_inj' split rfl
      obtain rfl := List.singleton_inj.mp hs
      exact Or.inr ⟨⟨before, after, rfl, number, fun t ht => kept t (by simp [ht])⟩,
        kept s (by simp)⟩
  · rintro (⟨rfl, rfl⟩ | ⟨⟨before, after, rfl, number, kept⟩, hs⟩)
    · exact ⟨steps, [], rfl, rfl, by simp⟩
    · refine ⟨before, after ++ [s], by simp, number, ?_⟩
      intro t ht
      rcases List.mem_append.mp ht with old | new
      · exact kept t old
      · exact List.mem_singleton.mp new ▸ hs

theorem mem_waiting_move {ordering : ResponseOrdering} {c c' : Coordinator α} {s : Step α}
    (h : Orderly c) (m : Move ordering c s c') {g : Nat} :
    g ∈ c'.waiting ↔ (s = .begin ∧ g = c.latest + 1) ∨ (g ∈ c.waiting ∧ ¬ s.Ends g) := by
  have erased {g' : Nat} {s : Step α} (hb : s.isBegin = false) (hs : s.Ends g ↔ g' = g) :
      g ∈ c.waiting.erase g' ↔
        (s = .begin ∧ g = c.latest + 1) ∨ (g ∈ c.waiting ∧ ¬ s.Ends g) := by
    have hne : s ≠ .begin := by rintro rfl; cases hb
    rw [h.distinct.mem_erase_iff, hs]
    simp [hne, and_comm, eq_comm]
  cases m with
  | opened => simp [begin, Step.Ends, or_comm]
  | spent ends gone =>
    constructor
    · intro hg
      exact Or.inr ⟨hg, fun hs => gone (hs.unique ends ▸ hg)⟩
    · rintro (⟨rfl, _⟩ | ⟨hg, _⟩)
      · exact False.elim ends
      · exact hg
  | discarded live stale strict => exact erased rfl Iff.rfl
  | paged live applied => exact erased rfl Iff.rfl
  | failed live applied => exact erased rfl Iff.rfl
  | abandoned live latest => exact erased rfl Iff.rfl
  | dropped live stale => exact erased rfl Iff.rfl

/-- The generations that wait are those of the history, in either ordering. -/
theorem mem_waiting_run (ordering : ResponseOrdering) (steps : List (Step α)) (g : Nat) :
    g ∈ (run ordering steps).waiting ↔ Waits steps g := by
  induction steps using List.reverseRecOn with
  | nil => simp [run_nil, initial, not_waits_nil]
  | append_singleton steps s ih =>
    rw [run_append_singleton, mem_waiting_move (orderly_run ordering steps)
      (move_step ordering _ s), waits_append_singleton, ih, latest_run]

end Listing.Coordinator
