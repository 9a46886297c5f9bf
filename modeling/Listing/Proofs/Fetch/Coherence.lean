import Listing.Proofs.Fetch.History

/-!
# Coherence of what is shown

Openings, outcomes and abandonments all write the loading flag, the phase and the error.
The invariant ties the three to each other and to the generations that still wait, so the
flag can neither stick nor fall early, in either ordering and whatever the outcomes were.
-/

namespace Listing.Coordinator

variable {α : Type}

structure Coherent (c : Coordinator α) : Prop where
  loading : c.published.loading = true ↔ c.latest ∈ c.waiting
  phase_loading : c.published.phase = .loading ↔ c.published.loading = true
  phase_idle : c.published.phase = .idle ↔ c.latest = 0
  settled : c.published.phase = .settled → c.published.lastError = none
  failed : c.published.phase = .failed → c.published.lastError ≠ none

theorem latest_mem_erase_iff {c : Coordinator α} (o : Orderly c) (g : Nat) :
    c.latest ∈ c.waiting.erase g ↔ c.latest ∈ c.waiting ∧ g ≠ c.latest := by
  rw [o.distinct.mem_erase_iff]
  exact ⟨fun h => ⟨h.2, h.1.symm⟩, fun h => ⟨h.2.symm, h.1⟩⟩

/-- An applied outcome lowers the flag exactly if it is that of the latest generation. -/
theorem loading_applied_iff {c : Coordinator α} (h : Coherent c) (o : Orderly c) (g : Nat) :
    (c.published.loading && decide (g ≠ c.latest)) = true ↔ c.latest ∈ c.waiting.erase g := by
  rw [Bool.and_eq_true, decide_eq_true_iff, h.loading, latest_mem_erase_iff o]

theorem latest_ne_zero {c : Coordinator α} (o : Orderly c) {g : Nat} (live : g ∈ c.waiting) :
    c.latest ≠ 0 := by
  have := o.opened g live
  omega

theorem Coherent.begin (c : Coordinator α) : Coherent c.begin where
  loading := by simp [Coordinator.begin]
  phase_loading := by simp [Coordinator.begin]
  phase_idle := by simp [Coordinator.begin]
  settled := by simp [Coordinator.begin]
  failed := by simp [Coordinator.begin]

theorem Coherent.paged {c : Coordinator α} (h : Coherent c) (o : Orderly c) {g : Nat}
    (live : g ∈ c.waiting) (page : Page α) : Coherent (c.paged g page) where
  loading := loading_applied_iff h o g
  phase_loading := phaseAfter_eq_loading_iff (by decide)
  phase_idle := by
    have opened : c.latest ≠ 0 := latest_ne_zero o live
    refine iff_of_false ?_ opened
    intro hp
    cases eq_of_phaseAfter_eq hp (by decide)
  settled := fun _ => rfl
  failed := by
    intro hp
    cases eq_of_phaseAfter_eq hp (by decide)

theorem Coherent.failure {c : Coordinator α} (h : Coherent c) (o : Orderly c) {g : Nat}
    (live : g ∈ c.waiting) (message : String) : Coherent (c.failed g message) where
  loading := loading_applied_iff h o g
  phase_loading := phaseAfter_eq_loading_iff (by decide)
  phase_idle := by
    have opened : c.latest ≠ 0 := latest_ne_zero o live
    refine iff_of_false ?_ opened
    intro hp
    cases eq_of_phaseAfter_eq hp (by decide)
  settled := by
    intro hp
    cases eq_of_phaseAfter_eq hp (by decide)
  failed := fun _ => Option.some_ne_none message

/-- A superseded generation may go without a trace in what is shown. -/
theorem Coherent.erase {c c' : Coordinator α} (h : Coherent c) (o : Orderly c) {g : Nat}
    (stale : g ≠ c.latest) (published : c'.published = c.published)
    (latest : c'.latest = c.latest) (waiting : c'.waiting = c.waiting.erase g) :
    Coherent c' where
  loading := by
    rw [published, latest, waiting, latest_mem_erase_iff o, h.loading]
    exact ⟨fun hw => ⟨hw, stale⟩, fun hw => hw.1⟩
  phase_loading := by rw [published]; exact h.phase_loading
  phase_idle := by rw [published, latest]; exact h.phase_idle
  settled := by rw [published]; exact h.settled
  failed := by rw [published]; exact h.failed

theorem Coherent.move {ordering : ResponseOrdering} {c c' : Coordinator α} {s : Step α}
    (h : Coherent c) (o : Orderly c) (m : Move ordering c s c') : Coherent c' := by
  cases m with
  | opened => exact Coherent.begin c
  | spent ends gone => exact h
  | discarded live stale strict => exact h.erase o stale rfl rfl rfl
  | paged live applied => exact h.paged o live _
  | failed live applied => exact h.failure o live _
  | abandoned live latest =>
    subst latest
    exact {
      loading := by simp [latest_mem_erase_iff o]
      phase_loading := by simp
      phase_idle := by simpa using latest_ne_zero o live
      settled := by simp
      failed := by simp }
  | dropped live stale => exact h.erase o stale rfl rfl rfl

theorem coherent_initial : Coherent (initial : Coordinator α) where
  loading := by simp [initial]
  phase_loading := by simp [initial]
  phase_idle := by simp [initial]
  settled := by simp [initial]
  failed := by simp [initial]

theorem coherent_run (ordering : ResponseOrdering) (steps : List (Step α)) :
    Coherent (run ordering steps) := by
  have both : Orderly (run ordering steps) ∧ Coherent (run ordering steps) := by
    refine run_induction (P := fun c => Orderly c ∧ Coherent c) ?_ ?_ steps
    · exact ⟨orderly_initial, coherent_initial⟩
    · intro c s c' h m
      exact ⟨h.1.move m, h.2.move h.1 m⟩
  exact both.2

/-- The status after every run, in terms of its steps alone. The flag is up exactly while
the latest generation waits, so it is down once no generation does. -/
theorem status_coherent (ordering : ResponseOrdering) (steps : List (Step α)) :
    let c := run ordering steps
    c.latest = opened steps ∧
    (c.published.loading = true ↔ Waits steps c.latest) ∧
    (c.published.phase = .loading ↔ c.published.loading = true) ∧
    (c.published.phase = .idle ↔ .begin ∉ steps) ∧
    (c.published.phase = .settled → c.published.lastError = none) ∧
    (c.published.phase = .failed → ∃ message, c.published.lastError = some message) ∧
    ((∀ g, ¬ Waits steps g) → c.published.loading = false) := by
  intro c
  have h : Coherent c := coherent_run ordering steps
  have latest : c.latest = opened steps := latest_run ordering steps
  have loading : c.published.loading = true ↔ Waits steps c.latest :=
    h.loading.trans (mem_waiting_run ordering steps c.latest)
  have idle : c.published.phase = .idle ↔ .begin ∉ steps := by
    rw [h.phase_idle, latest, opened_eq_zero_iff]
  refine ⟨latest, loading, h.phase_loading, idle, h.settled, ?_, ?_⟩
  · intro hp
    exact Option.ne_none_iff_exists'.mp (h.failed hp)
  · intro none_waits
    exact Bool.eq_false_iff.mpr fun hl => none_waits _ (loading.mp hl)

end Listing.Coordinator
