import Listing.Proofs.Fetch.History

/-!
# The latest request

If only the latest request may be answered, settled rows have one origin: the page that
ended the latest generation. Earlier generations may end before it or after it, with any
outcome or with none, and leave no trace in what is shown. Nor does anything after that
page, until the next request.
-/

namespace Listing

/-- What is shown once a page has answered the latest request. -/
def Published.ofPage {α : Type} (page : Page α) : Published α :=
  ⟨page.rows, some page.pagination, false, .settled, none⟩

namespace Coordinator

variable {α : Type}

/-- The page ended the generation, which is the one that the run opened last. -/
def Answered (steps : List (Step α)) (g : Nat) (page : Page α) : Prop :=
  ∃ before between later,
    steps = before ++ .begin :: (between ++ .settle g (.page page) :: later) ∧
    opened before + 1 = g ∧ .begin ∉ between ++ later ∧ ∀ s ∈ between, ¬ s.Ends g

theorem Answered.append_singleton {steps : List (Step α)} {g : Nat} {page : Page α}
    (h : Answered steps g page) {s : Step α} (hs : s ≠ .begin) :
    Answered (steps ++ [s]) g page := by
  obtain ⟨before, between, later, rfl, number, quiet, kept⟩ := h
  refine ⟨before, between, later ++ [s], by simp, number, ?_, kept⟩
  rw [← List.append_assoc]
  intro hmem
  rcases List.mem_append.mp hmem with old | new
  · exact quiet old
  · exact hs (List.mem_singleton.mp new).symm

/-- A page for the latest generation answers it if it still waits. -/
theorem Waits.answered {steps : List (Step α)} {g : Nat} (h : Waits steps g)
    (latest : g = opened steps) (page : Page α) :
    Answered (steps ++ [.settle g (.page page)]) g page := by
  obtain ⟨before, after, rfl, number, kept⟩ := h
  have quiet : .begin ∉ after := by
    rw [opened_append, opened_cons_begin] at latest
    exact opened_eq_zero_iff.mp (by omega)
  exact ⟨before, after, [], by simp, number, by simpa using quiet, kept⟩

/-- Settled rows and pagination are those of a page that ended the latest generation. -/
def ShowsAnswer (steps : List (Step α)) (p : Published α) : Prop :=
  p.phase = .settled →
    ∃ page, Answered steps (opened steps) page ∧ p.rows = page.rows ∧
      p.pagination = some page.pagination

theorem ShowsAnswer.append_singleton {steps : List (Step α)} {p : Published α}
    (h : ShowsAnswer steps p) {s : Step α} (hs : s ≠ .begin) :
    ShowsAnswer (steps ++ [s]) p := by
  intro settled
  obtain ⟨page, answered, shown⟩ := h settled
  rw [opened_append_singleton hs]
  exact ⟨page, answered.append_singleton hs, shown⟩

theorem showsAnswer_move {steps : List (Step α)} {c c' : Coordinator α} {s : Step α}
    (h : ShowsAnswer steps c.published) (latest : c.latest = opened steps)
    (waits : ∀ g ∈ c.waiting, Waits steps g) (m : Move .latestRequestWins c s c') :
    ShowsAnswer (steps ++ [s]) c'.published := by
  cases m with
  | opened => intro settled; cases settled
  | spent ends gone =>
    refine h.append_singleton ?_
    rintro rfl
    exact ends
  | discarded live stale strict => exact h.append_singleton (by simp)
  | @paged g page live applied =>
    intro _
    have hg : g = opened steps := by
      rcases applied with applied | lenient
      · exact applied.trans latest
      · cases lenient
    rw [opened_append_singleton (by simp), ← hg]
    exact ⟨page, (waits g live).answered hg page, rfl, rfl⟩
  | failed live applied =>
    intro settled
    cases eq_of_phaseAfter_eq settled (by decide)
  | abandoned live latest => intro settled; cases settled
  | dropped live stale => exact h.append_singleton (by simp)

theorem showsAnswer_run (steps : List (Step α)) :
    ShowsAnswer steps (run .latestRequestWins steps).published := by
  induction steps using List.reverseRecOn with
  | nil => intro settled; cases settled
  | append_singleton steps s ih =>
    rw [run_append_singleton]
    exact showsAnswer_move ih (latest_run _ steps)
      (fun g => (mem_waiting_run _ steps g).mp) (move_step _ _ s)

/-- The run ends the generation with the page, while it waits. -/
def Settles (steps : List (Step α)) (g : Nat) (page : Page α) : Prop :=
  ∃ before after, steps = before ++ .settle g (.page page) :: after ∧ Waits before g

/-- The page is shown, and the generation that it answered is over. -/
structure Final (page : Page α) (c : Coordinator α) : Prop where
  shown : c.published = .ofPage page
  ended : c.latest ∉ c.waiting

theorem final_paged {c : Coordinator α} (o : Orderly c) {g : Nat} (latest : g = c.latest)
    (page : Page α) : Final page (c.paged g page) where
  shown := by simp [paged, latest, phaseAfter, Published.ofPage]
  ended := by
    subst latest
    exact o.distinct.not_mem_erase

/-- With the latest generation over, no answer is applied and no loss is shown. -/
theorem Final.move {page : Page α} {c c' : Coordinator α} {s : Step α} (h : Final page c)
    (m : Move .latestRequestWins c s c') (hs : s ≠ .begin) : Final page c' := by
  have still_ended (g : Nat) : c.latest ∉ c.waiting.erase g :=
    fun hmem => h.ended (List.mem_of_mem_erase hmem)
  have not_latest {g : Nat} (live : g ∈ c.waiting) : g ≠ c.latest := by
    rintro rfl
    exact h.ended live
  cases m with
  | opened => exact False.elim (hs rfl)
  | spent ends gone => exact h
  | discarded live stale strict => exact ⟨h.shown, still_ended _⟩
  | paged live applied => exact False.elim (not_latest live (eq_latest_of_applied applied))
  | failed live applied => exact False.elim (not_latest live (eq_latest_of_applied applied))
  | abandoned live latest => exact False.elim (not_latest live latest)
  | dropped live stale => exact ⟨h.shown, still_ended _⟩

theorem Final.foldl {page : Page α} {c : Coordinator α} (h : Final page c)
    {later : List (Step α)} (quiet : .begin ∉ later) :
    Final page (later.foldl (step .latestRequestWins) c) := by
  induction later generalizing c with
  | nil => exact h
  | cons s rest ih =>
    rw [List.mem_cons, not_or] at quiet
    exact ih (h.move (move_step _ c s) (Ne.symm quiet.1)) quiet.2

theorem Waits.le_opened {steps : List (Step α)} {g : Nat} (h : Waits steps g) :
    g ≤ opened steps := by
  have live := (mem_waiting_run .latestRequestWins steps g).mpr h
  rw [← latest_run .latestRequestWins steps]
  exact ((orderly_run _ steps).opened g live).2

/-- The page of the generation opened last decides what is shown at the end. -/
theorem final_of_settles {steps : List (Step α)} {n : Nat} {page : Page α}
    (opens : opened steps = n) (settles : Settles steps n page) :
    Final page (run .latestRequestWins steps) := by
  obtain ⟨before, after, rfl, waits⟩ := settles
  have number : opened before + opened (.settle n (.page page) :: after) = n := by
    rw [← opened_append, opens]
  have bound := waits.le_opened
  have latest : n = (run .latestRequestWins before).latest := by
    rw [latest_run]
    omega
  have quiet : .begin ∉ after := by
    have none_opened : opened (.settle n (.page page) :: after) = 0 := by omega
    exact fun hmem => opened_eq_zero_iff.mp none_opened (List.mem_cons_of_mem _ hmem)
  have live := (mem_waiting_run .latestRequestWins before n).mpr waits
  have answer : (run .latestRequestWins before).step .latestRequestWins (.settle n (.page page)) =
      (run .latestRequestWins before).paged n page :=
    (Move.paged live (Or.inl latest)).eq_step.symm
  have split : run .latestRequestWins (before ++ .settle n (.page page) :: after) =
      after.foldl (step .latestRequestWins) ((run .latestRequestWins before).paged n page) := by
    rw [← answer]
    simp [run]
  rw [split]
  exact (final_paged (orderly_run _ before) latest page).foldl quiet

/-- Two runs that open the same number of generations, and in which the same page answers
the last of them, show the same: that page. Whatever became of the other requests, and
when, does not matter. Once the page is there, only a new request changes what is shown. -/
theorem last_answer_decides {left right : List (Step α)} {n : Nat} {page : Page α}
    (left_opens : opened left = n) (right_opens : opened right = n)
    (left_settles : Settles left n page) (right_settles : Settles right n page) :
    (run .latestRequestWins left).published = (run .latestRequestWins right).published ∧
    (run .latestRequestWins left).published =
      ⟨page.rows, some page.pagination, false, .settled, none⟩ ∧
    ∀ steps, opened steps = n → Settles steps n page → ∀ s ≠ .begin,
      (run .latestRequestWins (steps ++ [s])).published =
        (run .latestRequestWins steps).published := by
  have left_final := final_of_settles left_opens left_settles
  have right_final := final_of_settles right_opens right_settles
  refine ⟨left_final.shown.trans right_final.shown.symm, left_final.shown, ?_⟩
  intro steps opens settles s hs
  have now := final_of_settles opens settles
  have next := now.move (move_step _ _ s) hs
  rw [run_append_singleton, next.shown, now.shown]

/-- The second of two requests is answered before the first, or after it failed. -/
theorem last_answer_decides_in_two_orders :
    (opened [.begin, .begin, .settle 2 (.page ⟨[7], default⟩),
        .settle 1 (.page (⟨[1, 2], default⟩ : Page Nat))] = 2 ∧
      opened [.begin, .settle 1 (.failure "down"), .begin,
        .settle 2 (.page (⟨[7], default⟩ : Page Nat))] = 2 ∧
      Settles (α := Nat) [.begin, .begin, .settle 2 (.page ⟨[7], default⟩),
        .settle 1 (.page ⟨[1, 2], default⟩)] 2 ⟨[7], default⟩ ∧
      Settles (α := Nat) [.begin, .settle 1 (.failure "down"), .begin,
        .settle 2 (.page ⟨[7], default⟩)] 2 ⟨[7], default⟩) ∧
    (run (α := Nat) .latestRequestWins [.begin, .begin, .settle 2 (.page ⟨[7], default⟩),
        .settle 1 (.page ⟨[1, 2], default⟩)]).published =
      (run .latestRequestWins [.begin, .settle 1 (.failure "down"), .begin,
        .settle 2 (.page ⟨[7], default⟩)]).published := by
  have left_settles : Settles (α := Nat) [.begin, .begin, .settle 2 (.page ⟨[7], default⟩),
      .settle 1 (.page ⟨[1, 2], default⟩)] 2 ⟨[7], default⟩ :=
    ⟨[.begin, .begin], [.settle 1 (.page ⟨[1, 2], default⟩)], rfl, [.begin], [], rfl, rfl,
      by simp⟩
  have right_settles : Settles (α := Nat) [.begin, .settle 1 (.failure "down"), .begin,
      .settle 2 (.page ⟨[7], default⟩)] 2 ⟨[7], default⟩ :=
    ⟨[.begin, .settle 1 (.failure "down"), .begin], [], rfl,
      [.begin, .settle 1 (.failure "down")], [], rfl, rfl, by simp⟩
  refine ⟨⟨rfl, rfl, left_settles, right_settles⟩, ?_⟩
  refine (last_answer_decides ?_ ?_ left_settles right_settles).1 <;> rfl

end Coordinator

end Listing
