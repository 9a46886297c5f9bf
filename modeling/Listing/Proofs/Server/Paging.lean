import Listing.Server.Envelope
import Listing.Table.Basic
import Mathlib.Data.List.Basic
import Mathlib.Order.Bounds.Basic
import Mathlib.Tactic.IntervalCases

/-!
# Pages of a whole collection

A collection that comes whole is cut into pages. Rows and pages are counted here without
bounds: in a collection whose length is a word, the words of the cut neither wrap around
nor miss a row where a product is too great for them.
-/

namespace Listing

namespace Pagination

/-- The number of pages is the quotient, and one more for the rows that remain. -/
theorem toNat_pageCount {p : Pagination} (positive : 0 < p.pageSize.toNat) :
    p.pageCount.toNat = p.total.toNat / p.pageSize.toNat +
      if p.total.toNat % p.pageSize.toNat = 0 then 0 else 1 := by
  have bound : p.total.toNat < 2 ^ 64 := p.total.toNat_lt
  have split := Nat.div_add_mod p.total.toNat p.pageSize.toNat
  have scaled : p.total.toNat / p.pageSize.toNat ≤
      p.pageSize.toNat * (p.total.toNat / p.pageSize.toNat) :=
    Nat.le_mul_of_pos_left _ positive
  have full : p.pageSize ≠ 0 := by
    intro h
    rw [h] at positive
    exact absurd positive (by decide)
  have same : p.total % p.pageSize = 0 ↔ p.total.toNat % p.pageSize.toNat = 0 := by
    rw [← UInt64.toNat_inj, UInt64.toNat_mod]
    rfl
  rw [pageCount, if_neg full, UInt64.toNat_add, UInt64.toNat_div]
  by_cases whole : p.total.toNat % p.pageSize.toNat = 0
  · have none_left : (0 : UInt64).toNat = 0 := rfl
    rw [if_pos (same.mpr whole), if_pos whole, none_left]
    exact Nat.mod_eq_of_lt (by omega)
  · rw [if_neg fun h => whole (same.mp h), if_neg whole]
    have one : (1 : UInt64).toNat = 1 := rfl
    rw [one]
    exact Nat.mod_eq_of_lt (by omega)

/-- So many pages are enough exactly if they hold all rows. -/
theorem pageCount_le_iff {p : Pagination} (positive : 0 < p.pageSize.toNat) {n : Nat} :
    p.pageCount.toNat ≤ n ↔ p.total.toNat ≤ n * p.pageSize.toNat := by
  have split := Nat.div_add_mod' p.total.toNat p.pageSize.toNat
  have remainder := Nat.mod_lt p.total.toNat positive
  rw [toNat_pageCount positive]
  constructor
  · intro enough
    have filled := Nat.mul_le_mul_right p.pageSize.toNat enough
    rw [Nat.add_mul] at filled
    split at filled
    · omega
    · rw [Nat.one_mul] at filled
      omega
  · intro held
    by_cases whole : p.total.toNat % p.pageSize.toNat = 0
    · rw [if_pos whole]
      rw [whole, Nat.add_zero] at split
      rw [← split] at held
      exact Nat.le_of_mul_le_mul_right held positive
    · rw [if_neg whole]
      refine Nat.lt_of_not_le fun few => ?_
      have short := Nat.mul_le_mul_right p.pageSize.toNat few
      omega

theorem pageCount_isLeast {p : Pagination} (positive : 0 < p.pageSize.toNat) :
    IsLeast {n | p.total.toNat ≤ n * p.pageSize.toNat} p.pageCount.toNat := by
  constructor
  · exact (pageCount_le_iff positive).mp (Nat.le_refl _)
  · intro n held
    exact (pageCount_le_iff positive).mpr held

end Pagination

/-- The items of a list from one place to before another. -/
def itemsBetween {α : Type} (l : List α) (low high : Nat) : List α :=
  (l.zipIdx.filter fun e => low ≤ e.2 ∧ e.2 < high).map Prod.fst

theorem take_drop_eq_itemsBetween {α : Type} (l : List α) (low size : Nat) :
    (l.drop low).take size = itemsBetween l low (low + size) := by
  -- The places start anywhere: a row before the cut lowers it by one.
  have shifted (start : Nat) (l : List α) (skip size : Nat) :
      (l.drop skip).take size =
        ((l.zipIdx start).filter fun e =>
          start + skip ≤ e.2 ∧ e.2 < start + skip + size).map Prod.fst := by
    induction l generalizing start skip size with
    | nil => simp
    | cons a rest ih =>
      rw [List.zipIdx_cons, List.filter_cons]
      cases skip with
      | succ skip =>
        have before : ¬ (start + (skip + 1) ≤ start ∧ start < start + (skip + 1) + size) := by
          omega
        have step : start + (skip + 1) = start + 1 + skip := by omega
        rw [if_neg (mt of_decide_eq_true before), List.drop_succ_cons, ih (start + 1) skip size,
          step]
      | zero =>
        cases size with
        | zero =>
          have none_left : ∀ e ∈ rest.zipIdx (start + 1),
              ¬ (decide (start + 0 ≤ e.2 ∧ e.2 < start + 0 + 0) = true) := by
            intro e _ inside
            have := of_decide_eq_true inside
            omega
          have outside : ¬ (start + 0 ≤ start ∧ start < start + 0 + 0) := by omega
          rw [if_neg (mt of_decide_eq_true outside), List.filter_eq_nil_iff.mpr none_left]
          rfl
        | succ size =>
          have inside : start + 0 ≤ start ∧ start < start + 0 + (size + 1) := by omega
          have later : ∀ e ∈ rest.zipIdx (start + 1),
              decide (start + 0 ≤ e.2 ∧ e.2 < start + 0 + (size + 1)) =
                decide (start + 1 + 0 ≤ e.2 ∧ e.2 < start + 1 + 0 + size) := by
            intro e he
            have := List.le_snd_of_mem_zipIdx he
            exact decide_eq_decide.mpr (by omega)
          rw [if_pos (decide_eq_true inside), List.filter_congr later, List.map_cons,
            ← ih (start + 1) 0 size]
          rfl
  simp [itemsBetween, shifted 0 l low size]

namespace Page

variable {α : Type}

/-- The number of the page that is asked for, and one if there is none. -/
def askedNumber (requested : Fields) : Nat :=
  max 1 ((requested.word? currentKey).elim 1 UInt64.toNat)

/-- The number of rows on a page that are asked for, and ten if there is none. -/
def askedSize (requested : Fields) : Nat :=
  max 1 ((requested.word? pageSizeKey).elim 10 UInt64.toNat)

theorem askedNumber_pos (requested : Fields) : 0 < askedNumber requested :=
  Nat.lt_of_lt_of_le Nat.zero_lt_one (Nat.le_max_left _ _)

theorem askedSize_pos (requested : Fields) : 0 < askedSize requested :=
  Nat.lt_of_lt_of_le Nat.zero_lt_one (Nat.le_max_left _ _)

theorem toNat_getD_max_one (w : Option UInt64) (default : UInt64) :
    (max (w.getD default) 1).toNat = max 1 (w.elim default.toNat UInt64.toNat) := by
  have one : (1 : UInt64).toNat = 1 := rfl
  rw [UInt64.toNat_max, one, Nat.max_comm]
  cases w <;> rfl

/-- Twice clamped is clamped. -/
theorem pagination_ofCollection (rows : List α) (requested : Fields) :
    let p := (ofCollection rows requested).pagination
    p.current.toNat = askedNumber requested ∧ p.pageSize.toNat = askedSize requested := by
  have twice (w : UInt64) : (max (max w 1) 1).toNat = (max w 1).toNat := by
    have one : (1 : UInt64).toNat = 1 := rfl
    rw [UInt64.toNat_max, UInt64.toNat_max, one]
    omega
  constructor
  · exact (twice _).trans (toNat_getD_max_one _ _)
  · exact (twice _).trans (toNat_getD_max_one _ _)

theorem total_ofCollection {rows : List α} (bounded : rows.length ≤ Word.greatest)
    (requested : Fields) : (ofCollection rows requested).pagination.total.toNat = rows.length := by
  have fits : rows.length < UInt64.size := Nat.lt_of_le_of_lt bounded (by decide)
  exact UInt64.toNat_ofNat_of_lt' fits

/-- A product that is too great for a word skips every row, as the true product would. -/
theorem rows_ofCollection {rows : List α} (bounded : rows.length ≤ Word.greatest)
    (requested : Fields) :
    (ofCollection rows requested).rows =
      (rows.drop ((askedNumber requested - 1) * askedSize requested)).take
        (askedSize requested) := by
  have number := toNat_getD_max_one (requested.word? currentKey) Pagination.defaultCurrent
  have size := toNat_getD_max_one (requested.word? pageSizeKey) Pagination.defaultPageSize
  have positive := askedNumber_pos requested
  unfold ofCollection
  simp only
  generalize max ((requested.word? currentKey).getD Pagination.defaultCurrent) 1 = c at number
  generalize max ((requested.word? pageSizeKey).getD Pagination.defaultPageSize) 1 = p at size
  change c.toNat = askedNumber requested at number
  change p.toNat = askedSize requested at size
  have before : (c - 1).toNat = c.toNat - 1 := by
    have one : (1 : UInt64).toNat = 1 := rfl
    have first : (1 : UInt64) ≤ c := by
      rw [UInt64.le_iff_toNat_le, one]
      omega
    rw [UInt64.toNat_sub_of_le _ _ first, one]
  rw [boundedProduct, before, number, size]
  by_cases fits : (askedNumber requested - 1) * askedSize requested ≤ Word.greatest
  · rw [Nat.min_eq_left fits]
  · have past : rows.length ≤ (askedNumber requested - 1) * askedSize requested := by omega
    rw [Nat.min_eq_right (by omega), List.drop_eq_nil_of_le bounded, List.drop_eq_nil_of_le past]

/-- The first pages together are the first rows. -/
theorem flatMap_pages (rows : List α) (p n : Nat) :
    (List.range' 1 n).flatMap (fun c => (rows.drop ((c - 1) * p)).take p) =
      rows.take (n * p) := by
  induction n with
  | zero => simp
  | succ n ih =>
    have last : 1 + 1 * n - 1 = n := by omega
    rw [List.range'_concat, List.flatMap_append, ih, List.flatMap_singleton, last, Nat.succ_mul,
      List.take_add]

/-- The published number of pages is the least with which all rows have a place. -/
theorem pageCount_ofCollection {rows : List α} (bounded : rows.length ≤ Word.greatest)
    (requested : Fields) :
    IsLeast {n | rows.length ≤ n * askedSize requested}
      (ofCollection rows requested).pagination.pageCount.toNat := by
  obtain ⟨_, size⟩ := pagination_ofCollection rows requested
  have positive : 0 < (ofCollection rows requested).pagination.pageSize.toNat := by
    rw [size]
    exact askedSize_pos requested
  have least := Pagination.pageCount_isLeast positive
  rwa [total_ofCollection bounded, size] at least

theorem rows_ne_nil_iff {rows : List α} (bounded : rows.length ≤ Word.greatest)
    (requested : Fields) :
    (ofCollection rows requested).rows ≠ [] ↔
      askedNumber requested ≤ (ofCollection rows requested).pagination.pageCount.toNat := by
  have least := pageCount_ofCollection bounded requested
  have number := askedNumber_pos requested
  have size := askedSize_pos requested
  have here : (ofCollection rows requested).rows ≠ [] ↔
      (askedNumber requested - 1) * askedSize requested < rows.length := by
    rw [rows_ofCollection bounded, ← List.length_pos_iff, List.length_take, List.length_drop]
    omega
  rw [here]
  constructor
  · intro before
    refine Nat.le_of_not_lt fun past => ?_
    have enough : (ofCollection rows requested).pagination.pageCount.toNat ≤
        askedNumber requested - 1 := by omega
    have held : rows.length ≤ _ * askedSize requested := least.1
    have scaled := Nat.mul_le_mul_right (askedSize requested) enough
    omega
  · intro counted
    refine Nat.lt_of_not_le fun held => ?_
    have fewer := least.2 (show askedNumber requested - 1 ∈ _ from held)
    omega

/-- Local pages partition a collection. A page has the rows from its first place to before
the first place of the next one, whatever number and size are asked for. The published
number of pages is the least with which every row has a place, and a page has rows exactly
if it is one of these. One after another the pages are the collection. -/
theorem local_pages_partition (rows : List α) (bounded : rows.length ≤ Word.greatest) :
    let page (requested : Fields) := (Payload.plain rows).toPage requested
    let count (requested : Fields) := (page requested).pagination.pageCount.toNat
    (∀ requested,
      let c := askedNumber requested
      let p := askedSize requested
      (page requested).rows = itemsBetween rows ((c - 1) * p) (c * p) ∧
      (page requested).pagination.current.toNat = c ∧
      (page requested).pagination.pageSize.toNat = p ∧
      (page requested).pagination.total.toNat = rows.length ∧
      IsLeast {n | rows.length ≤ n * p} (count requested) ∧
      ((page requested).rows ≠ [] ↔ c ≤ count requested)) ∧
    ∀ (requested : Nat → Fields) (p : Nat),
      (∀ c, 1 ≤ c → c ≤ max 1 (count (requested 1)) →
        askedNumber (requested c) = c ∧ askedSize (requested c) = p) →
      (List.range' 1 (count (requested 1))).flatMap (fun c => (page (requested c)).rows) =
        rows := by
  intro page count
  constructor
  · intro requested c p
    obtain ⟨number, size⟩ := pagination_ofCollection rows requested
    refine ⟨?_, number, size, total_ofCollection bounded requested,
      pageCount_ofCollection bounded requested, rows_ne_nil_iff bounded requested⟩
    have next : (c - 1) * p + p = c * p := by
      have first := askedNumber_pos requested
      rw [← Nat.succ_mul, Nat.succ_eq_add_one, Nat.sub_add_cancel first]
    have cut := rows_ofCollection bounded requested
    rwa [take_drop_eq_itemsBetween, next] at cut
  · intro requested p asked
    have each : ∀ c ∈ List.range' 1 (count (requested 1)),
        (page (requested c)).rows = (rows.drop ((c - 1) * p)).take p := by
      intro c hc
      have place := List.mem_range'_1.mp hc
      obtain ⟨number, size⟩ := asked c place.1 (by omega)
      have cut := rows_ofCollection bounded (requested c)
      rwa [number, size] at cut
    have least := pageCount_ofCollection bounded (requested 1)
    rw [(asked 1 (Nat.le_refl 1) (Nat.le_max_left _ _)).2] at least
    rw [List.flatMap_congr each, flatMap_pages]
    exact List.take_of_length_le least.1

/-- Three rows on pages of two, asked for as the pages of a table are. -/
theorem local_pages_partition_of_three_rows :
    [7, 8, 9].length ≤ Word.greatest ∧
    (List.range' 1 2).flatMap (fun c =>
      ((Payload.plain [7, 8, 9]).toPage (pagePatch (UInt64.ofNat c) 2)).rows) = [7, 8, 9] := by
  have bounded : [7, 8, 9].length ≤ Word.greatest := by decide
  refine ⟨bounded, ?_⟩
  have partition := (local_pages_partition [7, 8, 9] bounded).2
    (fun c => pagePatch (UInt64.ofNat c) 2) 2
  refine partition ?_
  intro c first last
  have two : c ≤ 2 := last
  interval_cases c
  · exact ⟨rfl, rfl⟩
  · exact ⟨rfl, rfl⟩

/-- Where a product saturates no row is left. -/
example : (ofCollection [7, 8, 9] (((∅ : Fields).insert currentKey
      (.text "18446744073709551615")).insert pageSizeKey (.text "18446744073709551615"))).rows =
    [] := rfl

end Page

end Listing
