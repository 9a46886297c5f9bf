import Listing.Console.Layout
import Listing.Proofs.Text.Parts
import Mathlib.Data.List.DropRight
import Mathlib.Data.List.Forall2
import Mathlib.Data.List.GetD
import Mathlib.Data.List.MinMax
import Mathlib.Tactic.Ring

/-!
# Aligned columns

Every line of a table, when it is filled up with spaces to the width of the table, holds the
cell of each column at the same place. Two things have to be shown for that: the widths that
grow line by line are the largest lengths of the columns, and what is trimmed from a line is
nothing but spaces, so that filling it up gives back the line before the trim.
-/

namespace Listing

/-- The cell of a line in a column; a missing one is empty. -/
def cellIn (cells : List String) (j : Nat) : String := cells.getD j ""

/-- The largest number of cells in one of the lines. -/
def columnCount (lines : List (List String)) : Nat := (lines.map List.length).foldr max 0

/-- The largest number of characters that a line has in the column. -/
def columnWidth (lines : List (List String)) (j : Nat) : Nat :=
  (lines.map fun cells => (cellIn cells j).length).foldr max 0

/-- The first character of a column, after the columns before it and two spaces for each. -/
def columnStart (w : Nat → Nat) (j : Nat) : Nat := ((List.range j).map fun i => w i + 2).sum

/-- The characters of all columns, with two spaces between each two. -/
def fullWidth (n : Nat) (w : Nat → Nat) : Nat := ((List.range n).map w).sum + 2 * (n - 1)

/-- No cell has a blank other than the space. -/
def OnlySpaces (cells : List String) : Prop :=
  ∀ cell ∈ cells, ∀ c ∈ cell.toList, Text.isBlank c = true → c = ' '

instance (cells : List String) : Decidable (OnlySpaces cells) :=
  -- The characters of the cell are tried, not all characters there are.
  have (cell : String) : Decidable (∀ c ∈ cell.toList, Text.isBlank c = true → c = ' ') :=
    List.decidableBAll _ _
  List.decidableBAll _ cells

/-- The line shows every cell in its column, where there are `n` columns and column `j` is `w j`
wide. Filled up with spaces to the full width, the line has from the start of each column on the
cell, filled up as well, and two spaces if another column comes after it. -/
structure Aligned (n : Nat) (w : Nat → Nat) (cells : List String) (line : List Char) : Prop where
  held : cells.length ≤ n
  fits : line.length ≤ fullWidth n w
  cell : ∀ j < n, (cellIn cells j).length ≤ w j ∧
    ((line.rightpad (fullWidth n w) ' ').drop (columnStart w j)).take (w j) =
      (cellIn cells j).toList.rightpad (w j) ' '
  gap : ∀ j, j + 1 < n →
    ((line.rightpad (fullWidth n w) ' ').drop (columnStart w j + w j)).take 2 = [' ', ' ']

/-! ## Widths -/

section Widths

theorem length_widen (widths : List Nat) (cells : List String) :
    (widen widths cells).length = max widths.length cells.length := by
  fun_induction widen widths cells with
  | case1 => simp
  | case2 cell rest ih => simp [ih]
  | case3 w widths cell rest ih => simp [ih]

/-- One more line makes each column at least as wide as its cell there. -/
theorem getD_widen (widths : List Nat) (cells : List String) (j : Nat) :
    (widen widths cells).getD j 0 = max (widths.getD j 0) (cellIn cells j).length := by
  induction widths, cells using widen.induct generalizing j with
  | case1 widths => simp [widen, cellIn]
  | case2 cell rest ih => cases j <;> simp_all [widen, cellIn]
  | case3 w widths cell rest ih => cases j <;> simp_all [widen, cellIn]

theorem length_foldl_widen (lines : List (List String)) (widths : List Nat) :
    (lines.foldl widen widths).length = max widths.length (columnCount lines) := by
  induction lines generalizing widths with
  | nil => simp [columnCount]
  | cons cells lines ih =>
    rw [List.foldl_cons, ih, length_widen, max_assoc]
    rfl

theorem getD_foldl_widen (lines : List (List String)) (widths : List Nat) (j : Nat) :
    (lines.foldl widen widths).getD j 0 = max (widths.getD j 0) (columnWidth lines j) := by
  induction lines generalizing widths with
  | nil => simp [columnWidth]
  | cons cells lines ih =>
    rw [List.foldl_cons, ih, getD_widen, max_assoc]
    rfl

/-- The widths that grew over the lines are the largest lengths of their columns. -/
theorem columnWidths_eq (lines : List (List String)) :
    columnWidths lines = (List.range (columnCount lines)).map (columnWidth lines) := by
  have length : (columnWidths lines).length = columnCount lines := by
    simpa [columnWidths] using length_foldl_widen lines []
  apply List.ext_getElem
  · simpa using length
  · intro j h _
    have grown : (columnWidths lines).getD j 0 = columnWidth lines j := by
      simpa [columnWidths] using getD_foldl_widen lines [] j
    rw [List.getElem_map, List.getElem_range, ← grown, List.getD_eq_getElem _ _ h]

theorem length_le_columnCount {lines : List (List String)} {cells : List String}
    (h : cells ∈ lines) : cells.length ≤ columnCount lines :=
  List.le_max_of_le' 0 (List.mem_map_of_mem h) le_rfl

theorem length_cellIn_le {lines : List (List String)} {cells : List String} (h : cells ∈ lines)
    (j : Nat) : (cellIn cells j).length ≤ columnWidth lines j :=
  List.le_max_of_le' 0 (List.mem_map_of_mem h) le_rfl

end Widths

/-! ## Places in a joined line -/

section Joined

variable {α : Type} (sep : List α)

/-- A joined list from one of its blocks on is the blocks from there on, joined. -/
theorem drop_intercalate (blocks : List (List α)) {j : Nat} (h : j < blocks.length) :
    (sep.intercalate blocks).drop ((blocks.take j).map fun b => b.length + sep.length).sum =
      sep.intercalate (blocks.drop j) := by
  induction j generalizing blocks with
  | zero => simp
  | succ j ih =>
    obtain ⟨b, rest, rfl⟩ := List.exists_cons_of_length_pos (Nat.zero_lt_of_lt h)
    have inside : j < rest.length := by simpa using h
    have more : rest ≠ [] := List.ne_nil_of_length_pos (Nat.zero_lt_of_lt inside)
    rw [List.intercalate_cons_of_ne_nil more, List.take_succ_cons, List.map_cons, List.sum_cons,
      ← List.drop_drop, ← List.length_append, List.drop_left, ih rest inside,
      List.drop_succ_cons]

variable {sep} in
theorem mem_of_mem_intercalate {blocks : List (List α)} {x : α} (h : x ∈ sep.intercalate blocks) :
    x ∈ sep ∨ ∃ b ∈ blocks, x ∈ b := by
  induction blocks with
  | nil => simp at h
  | cons b rest ih =>
    cases rest with
    | nil => exact .inr ⟨b, List.mem_cons_self, by simpa using h⟩
    | cons c rest =>
      rw [List.intercalate_cons_cons, List.mem_append, List.mem_append] at h
      rcases h with (first | gap) | later
      · exact .inr ⟨b, List.mem_cons_self, first⟩
      · exact .inl gap
      · exact (ih later).imp_right fun ⟨b, hb, hx⟩ => ⟨b, List.mem_cons_of_mem _ hb, hx⟩

theorem length_intercalate (blocks : List (List α)) :
    (sep.intercalate blocks).length =
      (blocks.map List.length).sum + sep.length * (blocks.length - 1) := by
  induction blocks with
  | nil => simp
  | cons b rest ih =>
    cases rest with
    | nil => simp
    | cons c rest =>
      rw [List.intercalate_cons_cons, List.length_append, List.length_append, ih]
      simp only [List.map_cons, List.sum_cons, List.length_cons, Nat.add_sub_cancel]
      ring

/-- A block is where the blocks before it and the separators after them end. -/
theorem take_intercalate (b : List α) (rest : List (List α)) :
    (sep.intercalate (b :: rest)).take b.length = b := by
  cases rest with
  | nil => simp
  | cons c rest => rw [List.intercalate_cons_cons, List.append_assoc, List.take_left]

theorem take_drop_intercalate (b : List α) {rest : List (List α)} (h : rest ≠ []) :
    ((sep.intercalate (b :: rest)).drop b.length).take sep.length = sep := by
  rw [List.intercalate_cons_of_ne_nil h, List.append_assoc, List.drop_left, List.take_left]

end Joined

/-! ## Lines -/

/-- Filling up with spaces restores a text whose blanks are spaces from what a trim left. -/
theorem rightpad_trimEnd {s : List Char} (h : ∀ c ∈ s, Text.isBlank c = true → c = ' ') :
    (Text.trimEnd s).rightpad s.length ' ' = s := by
  have split : Text.trimEnd s ++ s.rtakeWhile Text.isBlank = s :=
    List.rdropWhile_append_rtakeWhile
  have spaces : s.rtakeWhile Text.isBlank =
      List.replicate (s.length - (Text.trimEnd s).length) ' ' := by
    refine List.eq_replicate_iff.mpr ⟨?_, fun c hc => ?_⟩
    · have := congrArg List.length split
      rw [List.length_append] at this
      omega
    · exact h c (split ▸ List.mem_append_right _ hc) (List.mem_rtakeWhile_imp hc)
  rw [List.rightpad, ← spaces, split]

/-- A text with a trimmed end does not end in a blank. -/
theorem isBlank_getLast?_trimEnd (s : List Char) :
    ∀ c ∈ (Text.trimEnd s).getLast?, Text.isBlank c = false := by
  intro c hc
  obtain ⟨nonempty, rfl⟩ := List.mem_getLast?_eq_getLast hc
  exact Bool.eq_false_iff.mpr (List.rdropWhile_last_not Text.isBlank s nonempty)

/-- A blank of a cell is a space, also where the cell is missing. -/
theorem OnlySpaces.cellIn {cells : List String} (spaced : OnlySpaces cells) (j : Nat) :
    ∀ c ∈ (Listing.cellIn cells j).toList, Text.isBlank c = true → c = ' ' := by
  rcases Nat.lt_or_ge j cells.length with h | h
  · rw [Listing.cellIn, List.getD_eq_getElem _ _ h]
    exact spaced _ (List.getElem_mem h)
  · rw [Listing.cellIn, List.getD_eq_default _ _ h]
    simp

/-- A cell as wide as its column. -/
def block (w : Nat → Nat) (cells : List String) (j : Nat) : List Char :=
  (cellIn cells j).toList.rightpad (w j) ' '

/-- A line before its end is trimmed. -/
def untrimmed (n : Nat) (w : Nat → Nat) (cells : List String) : List Char :=
  List.intercalate [' ', ' '] ((List.range n).map (block w cells))

section Line

variable {n : Nat} {w : Nat → Nat} {cells : List String}

theorem fill_map_range :
    fill ((List.range n).map w) cells = (List.range n).map (block w cells) := by
  induction n generalizing w cells with
  | zero => simp [fill]
  | succ n ih =>
    rw [List.range_succ_eq_map, List.map_cons, List.map_map, List.map_cons, List.map_map]
    cases cells with
    | nil => rw [fill, ih]; simp [block, cellIn, List.rightpad, Function.comp_def]
    | cons cell rest =>
      rw [fill, ih, ← String.length_toList]
      simp [block, cellIn, List.rightpad, Function.comp_def]

theorem lineOf_map_range :
    lineOf ((List.range n).map w) cells = Text.trimEnd (untrimmed n w cells) ++ ['\n'] := by
  rw [lineOf, fill_map_range, untrimmed]

theorem eq_space_of_mem_untrimmed (spaced : OnlySpaces cells) :
    ∀ c ∈ untrimmed n w cells, Text.isBlank c = true → c = ' ' := by
  intro c hc blank
  rcases mem_of_mem_intercalate hc with gap | ⟨b, hb, hc⟩
  · simpa using gap
  · obtain ⟨j, -, rfl⟩ := List.mem_map.mp hb
    rcases List.mem_append.mp hc with inside | padding
    · exact spaced.cellIn j c inside blank
    · exact List.eq_of_mem_replicate padding

theorem length_block {j : Nat} (h : (cellIn cells j).length ≤ w j) :
    (block w cells j).length = w j := by
  rw [block, List.length_rightpad, String.length_toList, max_eq_left h]

variable (fits : ∀ j < n, (cellIn cells j).length ≤ w j)

include fits

theorem length_untrimmed : (untrimmed n w cells).length = fullWidth n w := by
  rw [untrimmed, length_intercalate, List.map_map, List.length_map, List.length_range, fullWidth]
  congr 2
  exact List.map_congr_left fun j hj => length_block (fits j (List.mem_range.mp hj))

/-- An untrimmed line from the start of a column on is that cell and the later ones. -/
theorem drop_untrimmed {j : Nat} (h : j < n) :
    (untrimmed n w cells).drop (columnStart w j) =
      List.intercalate [' ', ' ']
        (block w cells j :: ((List.range n).drop (j + 1)).map (block w cells)) := by
  have start : columnStart w j =
      ((((List.range n).map (block w cells)).take j).map fun b => b.length + 2).sum := by
    rw [← List.map_take, List.take_range, Nat.min_eq_left h.le, List.map_map, columnStart]
    congr 1
    apply List.map_congr_left
    intro i hi
    have earlier : i < n := (List.mem_range.mp hi).trans h
    exact congrArg (· + 2) (length_block (fits i earlier)).symm
  have inside : j < ((List.range n).map (block w cells)).length := by simpa using h
  rw [untrimmed, start]
  refine (drop_intercalate [' ', ' '] _ inside).trans ?_
  rw [List.drop_eq_getElem_cons inside, List.getElem_map, List.getElem_range, List.map_drop]

/-- A line shows its cells in their columns when its trimmed end was nothing but spaces. -/
theorem aligned_trimEnd (held : cells.length ≤ n) (spaced : OnlySpaces cells) :
    Aligned n w cells (Text.trimEnd (untrimmed n w cells)) := by
  have full := length_untrimmed fits
  have restored : (Text.trimEnd (untrimmed n w cells)).rightpad (fullWidth n w) ' ' =
      untrimmed n w cells := by
    rw [← full, rightpad_trimEnd (eq_space_of_mem_untrimmed spaced)]
  constructor
  case held => exact held
  case fits => exact full ▸ List.IsPrefix.length_le (List.rdropWhile_prefix ..)
  case cell =>
    intro j h
    have shown := take_intercalate [' ', ' '] (block w cells j)
      (((List.range n).drop (j + 1)).map (block w cells))
    rw [length_block (fits j h), ← drop_untrimmed fits h, ← restored] at shown
    exact ⟨fits j h, shown⟩
  case gap =>
    intro j h
    have inside : j < n := Nat.lt_of_succ_lt h
    have more : ((List.range n).drop (j + 1)).map (block w cells) ≠ [] :=
      List.ne_nil_of_length_pos (by simpa using h)
    have shown := take_drop_intercalate [' ', ' '] (block w cells j) more
    rwa [length_block (fits j inside), ← drop_untrimmed fits inside, List.drop_drop,
      ← restored] at shown

end Line

/-! ## The table -/

/-- The rule under the titles has a cell of dashes in every column. -/
def ruleCells (n : Nat) (w : Nat → Nat) : List String :=
  (List.range n).map fun j => String.ofList (List.replicate (w j) '-')

theorem ruleOf_map_range (n : Nat) (w : Nat → Nat) :
    ruleOf ((List.range n).map w) = ruleCells n w :=
  List.map_map

theorem onlySpaces_ruleCells (n : Nat) (w : Nat → Nat) : OnlySpaces (ruleCells n w) := by
  intro cell hc c hd blank
  obtain ⟨j, -, rfl⟩ := List.mem_map.mp hc
  rw [String.toList_ofList] at hd
  rw [List.eq_of_mem_replicate hd] at blank
  exact absurd blank (by decide)

theorem length_cellIn_ruleCells {n : Nat} {w : Nat → Nat} {j : Nat} (h : j < n) :
    (cellIn (ruleCells n w) j).length = w j := by
  simp [cellIn, ruleCells, h]

/-- What the lines of a table hold: the titles, the rule and the rows, trimmed. -/
def tableLines (titles : List String) (rows : List (List String)) : List (List Char) :=
  let n := columnCount (titles :: rows)
  let w := columnWidth (titles :: rows)
  (titles :: ruleCells n w :: rows).map fun cells => Text.trimEnd (untrimmed n w cells)

theorem toList_renderTable (titles : List String) (rows : List (List String)) :
    (renderTable titles rows).toList = (tableLines titles rows).flatMap (· ++ ['\n']) := by
  rw [renderTable, String.toList_ofList, columnWidths_eq, ruleOf_map_range, tableLines,
    List.flatMap_map]
  exact List.flatMap_congr fun cells _ => lineOf_map_range

/-- A table has one line for the titles, the rule and each row, ended and without blanks at its
end, and every line shows all its cells in columns as wide as the widest of their cells. -/
theorem columns_aligned {titles : List String} {rows : List (List String)}
    (spaced : ∀ cells ∈ titles :: rows, OnlySpaces cells) :
    let n := columnCount (titles :: rows)
    let w := columnWidth (titles :: rows)
    ∃ printed : List (List Char),
      printed.length = rows.length + 2 ∧
      (renderTable titles rows).toList = printed.flatMap (· ++ ['\n']) ∧
      (∀ line ∈ printed, '\n' ∉ line ∧ ∀ c ∈ line.getLast?, Text.isBlank c = false) ∧
      List.Forall₂ (Aligned n w) (titles :: ruleCells n w :: rows) printed := by
  intro n w
  have kinds : ∀ cells ∈ titles :: ruleCells n w :: rows,
      cells = ruleCells n w ∨ cells ∈ titles :: rows := by
    intro cells hc
    simp only [List.mem_cons] at hc ⊢
    exact or_left_comm.mp hc
  have spaces : ∀ cells ∈ titles :: ruleCells n w :: rows, OnlySpaces cells := by
    intro cells hc
    rcases kinds cells hc with rfl | hc
    · exact onlySpaces_ruleCells n w
    · exact spaced cells hc
  have held : ∀ cells ∈ titles :: ruleCells n w :: rows, cells.length ≤ n := by
    intro cells hc
    rcases kinds cells hc with rfl | hc
    · simp [ruleCells]
    · exact length_le_columnCount hc
  have fits : ∀ cells ∈ titles :: ruleCells n w :: rows,
      ∀ j < n, (cellIn cells j).length ≤ w j := by
    intro cells hc j h
    rcases kinds cells hc with rfl | hc
    · exact (length_cellIn_ruleCells h).le
    · exact length_cellIn_le hc j
  refine ⟨tableLines titles rows, by simp [tableLines], toList_renderTable titles rows, ?_, ?_⟩
  · intro line hl
    obtain ⟨cells, hc, rfl⟩ := List.mem_map.mp hl
    refine ⟨fun newline => ?_, isBlank_getLast?_trimEnd _⟩
    have before := (List.rdropWhile_prefix ..).mem newline
    exact absurd (eq_space_of_mem_untrimmed (spaces cells hc) _ before rfl) (by decide)
  · rw [tableLines, List.forall₂_map_right_iff, List.forall₂_same]
    exact fun cells hc => aligned_trimEnd (fits cells hc) (held cells hc) (spaces cells hc)

/-- Rows shorter and longer than the titles, with blank, empty and spaced cells. -/
theorem columns_aligned_of_ragged :
    let titles := ["Project"]
    let rows := [["é", "", "b  "], [], ["a b", " "]]
    (∀ cells ∈ titles :: rows, OnlySpaces cells) ∧
      ∃ printed : List (List Char),
        printed.length = 5 ∧
        (renderTable titles rows).toList = printed.flatMap (· ++ ['\n']) ∧
        (∀ line ∈ printed, '\n' ∉ line ∧ ∀ c ∈ line.getLast?, Text.isBlank c = false) ∧
        List.Forall₂ (Aligned 3 (columnWidth (titles :: rows)))
          (titles :: ["-------", "-", "---"] :: rows) printed := by
  intro titles rows
  have spaced : ∀ cells ∈ titles :: rows, OnlySpaces cells := by decide
  have rule : ruleCells 3 (columnWidth (titles :: rows)) = ["-------", "-", "---"] := by decide
  exact ⟨spaced, rule ▸ columns_aligned spaced⟩

/-- Titles are no exception: over no rows at all, one with a break takes up a line too many. -/
theorem columns_misaligned_by_line_break :
    let titles := ["a\nb"]
    let rows : List (List String) := []
    (∀ cells ∈ rows, OnlySpaces cells) ∧ renderTable titles rows = "a\nb\n---\n" ∧
      ¬ ∃ printed : List (List Char),
        printed.length = rows.length + 2 ∧
        (renderTable titles rows).toList = printed.flatMap (· ++ ['\n']) ∧
        ∀ line ∈ printed, '\n' ∉ line := by
  intro titles rows
  have shown : renderTable titles rows = "a\nb\n---\n" := by decide
  refine ⟨fun cells none => absurd none List.not_mem_nil, shown, ?_⟩
  rintro ⟨printed, two, lines, clean⟩
  have apart := Text.splitOn_flatMap_ended clean
  rw [← lines, shown] at apart
  have four := congrArg List.length apart
  rw [List.length_append, two] at four
  exact absurd four (by decide)

end Listing
