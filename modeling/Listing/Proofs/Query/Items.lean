import Listing.Proofs.Query.Gathering
import Mathlib.Data.List.Pairwise

/-!
# The items of a query

A query brings an item for each value, and several for one that is cut at its commas. Reading
groups the items by their keys and puts those of one key in the order of their places. It
loses none, makes none up, and sees neither the order of items with other keys nor that of
items with other places.
-/

namespace Listing

open Text

section

variable {α : Type} (place : α → Nat)

/-- A list in the order of places in which elements with one place stand as they came. -/
structure InPlace (items ordered : List α) : Prop where
  perm : ordered.Perm items
  sorted : ordered.Pairwise fun a b => place a ≤ place b
  stable : ∀ n, ordered.filter (place · = n) = items.filter (place · = n)

theorem inPlace_mergeSort (items : List α) :
    InPlace place items (items.mergeSort fun a b => place a ≤ place b) := by
  have trans (a b c : α) (hab : decide (place a ≤ place b) = true)
      (hbc : decide (place b ≤ place c) = true) : decide (place a ≤ place c) = true := by
    rw [decide_eq_true_eq] at hab hbc ⊢
    exact Nat.le_trans hab hbc
  have total (a b : α) : (decide (place a ≤ place b) || decide (place b ≤ place a)) = true := by
    rw [Bool.or_eq_true, decide_eq_true_eq, decide_eq_true_eq]
    exact Nat.le_total _ _
  have perm := items.mergeSort_perm fun a b => place a ≤ place b
  refine ⟨perm, ?_, ?_⟩
  · exact (List.pairwise_mergeSort trans total items).imp of_decide_eq_true
  · intro n
    have level : (items.filter (place · = n)).Pairwise
        fun a b => decide (place a ≤ place b) = true := by
      apply List.pairwise_of_forall_mem_list
      intro a ha b hb
      rw [List.mem_filter, decide_eq_true_eq] at ha hb
      rw [decide_eq_true_eq]
      omega
    have kept := (List.sublist_mergeSort trans total level List.filter_sublist).filter (place · = n)
    simp only [List.filter_filter, Bool.and_self] at kept
    exact (kept.eq_of_length (perm.filter _).length_eq.symm).symm

theorem mem_iff_of_filter_eq {l l' : List α}
    (same : ∀ n, l.filter (place · = n) = l'.filter (place · = n)) (a : α) : a ∈ l ↔ a ∈ l' := by
  have here := congrArg (a ∈ ·) (same (place a))
  simpa using here

/-- Lists in the order of places are equal if they hold the same at every place. -/
theorem eq_of_sorted_of_filter_eq {l l' : List α}
    (sorted : l.Pairwise fun a b => place a ≤ place b)
    (sorted' : l'.Pairwise fun a b => place a ≤ place b)
    (same : ∀ n, l.filter (place · = n) = l'.filter (place · = n)) : l = l' := by
  induction l generalizing l' with
  | nil =>
    cases l' with
    | nil => rfl
    | cons b r' =>
      exact absurd ((mem_iff_of_filter_eq place same b).mpr List.mem_cons_self) List.not_mem_nil
  | cons a r ih =>
    cases l' with
    | nil =>
      exact absurd ((mem_iff_of_filter_eq place same a).mp List.mem_cons_self) List.not_mem_nil
    | cons b r' =>
      obtain ⟨first, rest⟩ := List.pairwise_cons.mp sorted
      obtain ⟨first', rest'⟩ := List.pairwise_cons.mp sorted'
      -- Both heads have the least place, so each is the first element there.
      have level : place a = place b := by
        have ha := (mem_iff_of_filter_eq place same a).mp List.mem_cons_self
        have hb := (mem_iff_of_filter_eq place same b).mpr List.mem_cons_self
        rcases List.mem_cons.mp ha with rfl | ha
        · rfl
        · rcases List.mem_cons.mp hb with rfl | hb
          · rfl
          · exact Nat.le_antisymm (first b hb) (first' a ha)
      have heads := same (place a)
      rw [List.filter_cons_of_pos (by simp), List.filter_cons_of_pos (by simp [level])] at heads
      obtain ⟨rfl, _⟩ := List.cons.inj heads
      have tails (n : Nat) : r.filter (place · = n) = r'.filter (place · = n) := by
        have here := same n
        by_cases h : place a = n
        · rw [List.filter_cons_of_pos (by simp [h]), List.filter_cons_of_pos (by simp [h])] at here
          exact (List.cons.inj here).2
        · rwa [List.filter_cons_of_neg (by simp [h]), List.filter_cons_of_neg (by simp [h])] at here
      rw [ih rest rest' tails]

end

/-- A value that a query brings, with the key under which it belongs. -/
structure QueryItem where
  base : String
  index? : Option UInt64
  text : String
  /-- The key had no brackets, and the value is all that stood under it. -/
  isWhole : Bool
deriving DecidableEq

namespace QueryItem

/-- Where an item belongs. Those without a number share the greatest one. -/
def place (item : QueryItem) : Nat := (item.index?.map UInt64.toNat).getD Word.greatest

/-- The items of one pair: in the comma format a value with commas is cut, and every part
belongs where the value does. -/
def ofPair (format : ArrayFormat) (p : String × String) : List QueryItem :=
  let shape := KeyShape.of p.1
  if format = .comma ∧ ',' ∈ p.2.toList then
    (p.2.toList.splitOn ',').map fun part => ⟨shape.base, shape.index?, String.ofList part, false⟩
  else [⟨shape.base, shape.index?, p.2, !shape.isItem⟩]

def ofPairs (format : ArrayFormat) (pairs : List (String × String)) : List QueryItem :=
  pairs.flatMap (ofPair format)

/-- The items under a key, in the order of the query. -/
def under (items : List QueryItem) (key : String) : List QueryItem :=
  items.filter (·.base = key)

/-- The texts under a key at a place, in the order of the query. -/
def textsAt (items : List QueryItem) (key : String) (n : Nat) : List String :=
  ((under items key).filter (·.place = n)).map (·.text)

/-- What is read from the items under a key, if there are any. -/
def value (items : List QueryItem) : FieldValue :=
  if items.length = 1 ∧ ∀ item ∈ items, item.isWhole = true then
    .text ((items.head?.map (·.text)).getD "")
  else .list ((items.mergeSort fun a b => a.place ≤ b.place).map fun item => .text item.text)

variable {format : ArrayFormat} {p : String × String}

theorem ofPair_ne_nil : ofPair format p ≠ [] := by
  unfold ofPair
  split
  · simp
  · exact List.cons_ne_nil _ _

theorem base_of_mem_ofPair {item : QueryItem} (h : item ∈ ofPair format p) :
    item.base = (KeyShape.of p.1).base := by
  unfold ofPair at h
  split at h
  · obtain ⟨part, _, rfl⟩ := List.mem_map.mp h
    rfl
  · rw [List.mem_singleton.mp h]

/-- Gathering forgets the key of an item and whether it is whole. -/
theorem map_ofPair (format : ArrayFormat) (p : String × String) :
    (ofPair format p).map (fun item => (item.index?, item.text)) =
      Gathered.itemsOf format p := by
  unfold ofPair Gathered.itemsOf
  split
  next cut => rw [if_pos (show Gathered.Several format p.2 from cut), List.map_map]; rfl
  next cut => rw [if_neg (show ¬Gathered.Several format p.2 from cut)]; rfl

/-- A pair makes a list by itself exactly if one of its items is not whole. -/
theorem any_ofPair (format : ArrayFormat) (p : String × String) :
    (ofPair format p).any (!·.isWhole) = Gathered.isListed format p := by
  unfold ofPair Gathered.isListed
  split
  next cut =>
    have several : Gathered.Several format p.2 := cut
    have some := List.exists_mem_of_ne_nil _ (List.splitOn_ne_nil ',' p.2.toList)
    simp [several, some]
  next cut =>
    have whole : ¬Gathered.Several format p.2 := cut
    simp [whole]

theorem filter_ofPair (key : String) :
    (ofPair format p).filter (·.base = key) =
      if (KeyShape.of p.1).base = key then ofPair format p else [] := by
  split
  next here =>
    apply List.filter_eq_self.mpr
    intro item hitem
    rw [base_of_mem_ofPair hitem, here, decide_eq_true rfl]
  next elsewhere =>
    apply List.filter_eq_nil_iff.mpr
    intro item hitem
    rw [base_of_mem_ofPair hitem, decide_eq_true_eq]
    exact elsewhere

/-- The items under a key are those of the pairs whose keys have it as their base. -/
theorem under_ofPairs (pairs : List (String × String)) (key : String) :
    under (ofPairs format pairs) key =
      (pairs.filter fun p => (KeyShape.of p.1).base = key).flatMap (ofPair format) := by
  induction pairs with
  | nil => rfl
  | cons p rest ih =>
    have first : under (ofPairs format (p :: rest)) key =
        (if (KeyShape.of p.1).base = key then ofPair format p else []) ++
          under (ofPairs format rest) key := by
      rw [← filter_ofPair]
      exact List.filter_append ..
    rw [first, ih]
    by_cases here : (KeyShape.of p.1).base = key
    · rw [if_pos here, List.filter_cons_of_pos (by simpa using here), List.flatMap_cons]
    · rw [if_neg here, List.filter_cons_of_neg (by simpa using here), List.nil_append]

theorem under_ofPairs_eq_nil_iff {pairs : List (String × String)} {key : String} :
    under (ofPairs format pairs) key = [] ↔
      (pairs.filter fun p => (KeyShape.of p.1).base = key) = [] := by
  rw [under_ofPairs, List.flatMap_eq_nil_iff, List.eq_nil_iff_forall_not_mem]
  constructor
  · intro none p hp
    exact ofPair_ne_nil (none p hp)
  · intro none p hp
    exact absurd hp (none p)

/-- What is gathered from the pairs of a key are its items. -/
theorem gathered_ofPairs (pairs : List (String × String)) (key : String) :
    Gathered.ofPairs format (pairs.filter fun p => (KeyShape.of p.1).base = key) =
      ⟨(under (ofPairs format pairs) key).map fun item => (item.index?, item.text),
        (under (ofPairs format pairs) key).any (!·.isWhole)⟩ := by
  rw [under_ofPairs, List.map_flatMap, List.any_flatMap, Gathered.ofPairs]
  simp only [map_ofPair, any_ofPair]

/-- What is gathered of some items is read as their value. -/
theorem value_gathered {items : List QueryItem} (some : items ≠ []) :
    Gathered.value ⟨items.map fun item => (item.index?, item.text), items.any (!·.isWhole)⟩ =
      value items := by
  have length := List.length_pos_of_ne_nil some
  unfold Gathered.value value
  by_cases whole : items.length = 1 ∧ ∀ item ∈ items, item.isWhole = true
  · have single : (items.any (!·.isWhole) || decide (1 < items.length)) = false := by
      simpa [whole.1] using whole.2
    rw [if_pos whole, List.length_map, single, List.head?_map, Option.map_map]
    rfl
  · have list : (items.any (!·.isWhole) || decide (1 < items.length)) = true := by
      rw [Bool.or_eq_true, List.any_eq_true, decide_eq_true_eq]
      by_cases long : 1 < items.length
      · exact Or.inr long
      · left
        apply Classical.byContradiction
        intro all
        apply whole
        refine ⟨by omega, ?_⟩
        intro item hitem
        simpa using fun broken => all ⟨item, hitem, broken⟩
    have ordered : (items.map fun item => (item.index?, item.text)).mergeSort
          (fun a b => Gathered.place a ≤ Gathered.place b) =
        (items.mergeSort fun a b => a.place ≤ b.place).map
          fun item => (item.index?, item.text) := by
      symm
      apply List.map_mergeSort
      intro a _ b _
      rfl
    rw [if_neg whole, List.length_map, list, if_pos rfl, ordered, List.map_map]
    rfl

theorem value_eq_text_iff {items : List QueryItem} {text : String} :
    value items = .text text ↔
      ∃ item, items = [item] ∧ item.isWhole = true ∧ item.text = text := by
  unfold value
  constructor
  · intro h
    split at h
    next whole =>
      obtain ⟨item, rfl⟩ := List.length_eq_one_iff.mp whole.1
      refine ⟨item, rfl, whole.2 item List.mem_cons_self, ?_⟩
      exact Scalar.text.inj (FieldValue.scalar.inj h)
    next => cases h
  · rintro ⟨item, rfl, whole, rfl⟩
    rw [if_pos ⟨rfl, by simpa using whole⟩]
    rfl

/-- What is not read as a text is read as a list of the texts in their places. -/
theorem exists_inPlace_of_value {items : List QueryItem} (list : ∀ text, value items ≠ .text text) :
    ∃ ordered, InPlace place items ordered ∧
      value items = .list (ordered.map fun item => .text item.text) := by
  refine ⟨_, inPlace_mergeSort place items, ?_⟩
  unfold value at list ⊢
  split at list
  next => exact absurd rfl (list _)
  next whole => rw [if_neg whole]

/-- The texts in the order of their places, each with its place. -/
def placed (items : List QueryItem) : List (Nat × String) :=
  (items.mergeSort fun a b => a.place ≤ b.place).map fun item => (item.place, item.text)

theorem filter_placed (items : List QueryItem) (n : Nat) :
    (placed items).filter (·.1 = n) =
      ((items.filter (·.place = n)).map (·.text)).map (n, ·) := by
  rw [placed, List.filter_map, ← (inPlace_mergeSort place items).stable n, List.map_map]
  apply List.map_congr_left
  intro item hitem
  have here : item.place = n := of_decide_eq_true (List.mem_filter.mp hitem).2
  rw [here]
  rfl

/-- The texts at each place are all that counts for the order of the texts. -/
theorem placed_congr {items items' : List QueryItem}
    (same : ∀ n, (items.filter (·.place = n)).map (·.text) =
      (items'.filter (·.place = n)).map (·.text)) : placed items = placed items' := by
  apply eq_of_sorted_of_filter_eq Prod.fst
  · exact List.pairwise_map.mpr (inPlace_mergeSort place items).sorted
  · exact List.pairwise_map.mpr (inPlace_mergeSort place items').sorted
  · intro n
    rw [filter_placed, filter_placed, same]

/-- Items in another order have the same value if the texts at each place come in the same. -/
theorem value_congr {items items' : List QueryItem} (perm : items.Perm items')
    (same : ∀ n, (items.filter (·.place = n)).map (·.text) =
      (items'.filter (·.place = n)).map (·.text)) : value items = value items' := by
  by_cases whole : items.length = 1 ∧ ∀ item ∈ items, item.isWhole = true
  · obtain ⟨item, rfl⟩ := List.length_eq_one_iff.mp whole.1
    rw [List.singleton_perm.mp perm]
  · have whole' : ¬(items'.length = 1 ∧ ∀ item ∈ items', item.isWhole = true) := by
      simpa only [perm.length_eq, perm.mem_iff] using whole
    have texts := congrArg (List.map fun e => Scalar.text e.2) (placed_congr same)
    rw [placed, placed, List.map_map, List.map_map] at texts
    rw [value, value, if_neg whole, if_neg whole']
    exact congrArg FieldValue.list texts

end QueryItem

namespace Fields

/-- A query without the question mark that may stand before it. -/
def body (query : String) : String :=
  match query.toList with
  | '?' :: r => String.ofList r
  | _ => query

/-- The pairs of a query that have a key. -/
def namedPairs (query : String) : List (String × String) :=
  (FormPairs.read (body query)).filter (·.1 ≠ "")

/-- The items of a query, in its order. -/
def itemsOf (query : String) (format : ArrayFormat) : List QueryItem :=
  QueryItem.ofPairs format (namedPairs query)

open QueryItem

theorem pairsAt_read (query key : String) :
    pairsAt key (FormPairs.read (body query)) =
      (namedPairs query).filter fun p => (KeyShape.of p.1).base = key := by
  rw [pairsAt, namedPairs, List.filter_filter]
  apply List.filter_congr
  intro p _
  rw [Bool.decide_and, Bool.and_comm]

/-- What is read under a key is the value of its items. -/
theorem get?_ofQuery (query : String) (format : ArrayFormat) (key : String) :
    (ofQuery query format).get? key =
      if under (itemsOf query format) key = [] then none
      else some (value (under (itemsOf query format) key)) := by
  change (ofPairs format (FormPairs.read (body query))).get? key = _
  rw [get?_ofPairs, pairsAt_read, itemsOf, gathered_ofPairs]
  by_cases none : under (QueryItem.ofPairs format (namedPairs query)) key = []
  · rw [if_pos none, if_pos (under_ofPairs_eq_nil_iff.mp none)]
  · rw [if_neg none, if_neg (mt under_ofPairs_eq_nil_iff.mpr none), value_gathered none]

theorem contains_ofQuery_iff {query : String} {format : ArrayFormat} {key : String} :
    (ofQuery query format).contains key = true ↔
      ∃ item ∈ itemsOf query format, item.base = key := by
  have some_iff : under (itemsOf query format) key ≠ [] ↔
      ∃ item ∈ itemsOf query format, item.base = key := by
    rw [under, ne_eq, List.filter_eq_nil_iff]
    simp
  rw [← some_iff, KeyMap.contains, get?_ofQuery]
  by_cases none : under (itemsOf query format) key = []
  · simp [none]
  · simp [none]

theorem get?_ofQuery_eq_text_iff {query : String} {format : ArrayFormat} {key text : String} :
    (ofQuery query format).get? key = some (.text text) ↔
      ∃ item, under (itemsOf query format) key = [item] ∧ item.isWhole = true ∧
        item.text = text := by
  rw [get?_ofQuery, ← value_eq_text_iff]
  by_cases none : under (itemsOf query format) key = []
  · rw [if_pos none, none]
    constructor
    · rintro ⟨⟩
    · rintro ⟨⟩
  · rw [if_neg none, Option.some_inj]

theorem exists_inPlace_of_get?_ofQuery {query : String} {format : ArrayFormat} {key : String}
    {value : FieldValue} (found : (ofQuery query format).get? key = some value)
    (list : ∀ text, value ≠ .text text) :
    ∃ ordered, InPlace place (under (itemsOf query format) key) ordered ∧
      value = .list (ordered.map fun item => .text item.text) := by
  rw [get?_ofQuery] at found
  split at found
  next => cases found
  next =>
    obtain rfl := Option.some_inj.mp found
    exact exists_inPlace_of_value list

theorem ofQuery_congr {query other : String} {format : ArrayFormat}
    (perm : (namedPairs query).Perm (namedPairs other))
    (same : ∀ key n,
      textsAt (itemsOf query format) key n = textsAt (itemsOf other format) key n) :
    ofQuery query format = ofQuery other format := by
  apply KeyMap.ext_get?
  intro key
  have permUnder : (under (itemsOf query format) key).Perm (under (itemsOf other format) key) :=
    (perm.flatMap_right _).filter _
  have none_iff : under (itemsOf query format) key = [] ↔
      under (itemsOf other format) key = [] := by
    rw [← List.length_eq_zero_iff, permUnder.length_eq, List.length_eq_zero_iff]
  rw [get?_ofQuery, get?_ofQuery, value_congr permUnder (same key)]
  simp only [none_iff]

/-- Reading loses no item of a query, makes none up and keeps their order. A key is there if
it has items; a single whole item is a text, and others are a list by their places. Of the
order of the pairs only that within one place of one key counts. -/
theorem ofQuery_keeps_items (query : String) (format : ArrayFormat) :
    (∀ key,
      ((ofQuery query format).contains key = true ↔
        ∃ item ∈ itemsOf query format, item.base = key) ∧
      (∀ text, (ofQuery query format).get? key = some (.text text) ↔
        ∃ item, under (itemsOf query format) key = [item] ∧ item.isWhole = true ∧
          item.text = text) ∧
      (∀ value, (ofQuery query format).get? key = some value → (∀ text, value ≠ .text text) →
        ∃ ordered, InPlace place (under (itemsOf query format) key) ordered ∧
          value = .list (ordered.map fun item => .text item.text))) ∧
    ∀ other, (namedPairs query).Perm (namedPairs other) →
      (∀ key n, textsAt (itemsOf query format) key n = textsAt (itemsOf other format) key n) →
      ofQuery query format = ofQuery other format := by
  constructor
  · intro key
    refine ⟨contains_ofQuery_iff, fun text => get?_ofQuery_eq_text_iff, ?_⟩
    intro value found list
    exact exists_inPlace_of_get?_ofQuery found list
  · intro other perm same
    exact ofQuery_congr perm same

/-- Pairs of other keys and other places are moved past each other, and a nameless one is lost. -/
theorem ofQuery_keeps_items_of_shuffled_query :
    let query := "?k[2]=x&b=1&=lost&k[0]=z,w"
    let other := "k[0]=z,w&b=1&k[2]=x"
    (ofQuery query .comma).get? "k" = some (.list [.text "z", .text "w", .text "x"]) ∧
    (∃ ordered, InPlace place (under (itemsOf query .comma) "k") ordered ∧
      FieldValue.list [.text "z", .text "w", .text "x"] =
        .list (ordered.map fun item => .text item.text)) ∧
    (namedPairs query).Perm (namedPairs other) ∧
    (∀ key n, textsAt (itemsOf query .comma) key n = textsAt (itemsOf other .comma) key n) ∧
    ofQuery query .comma = ofQuery other .comma := by
  intro query other
  obtain ⟨keys, orders⟩ := ofQuery_keeps_items query .comma
  have perm : (namedPairs query).Perm (namedPairs other) := by decide +kernel
  have items : itemsOf query .comma =
      [⟨"k", some 2, "x", false⟩, ⟨"b", none, "1", true⟩, ⟨"k", some 0, "z", false⟩,
        ⟨"k", some 0, "w", false⟩] := by decide +kernel
  have found : (ofQuery query .comma).get? "k" =
      some (.list [.text "z", .text "w", .text "x"]) := by
    rw [get?_ofQuery, items]
    simp [under, value, place, List.mergeSort, List.MergeSort.Internal.splitInTwo]
  have items' : itemsOf other .comma =
      [⟨"k", some 0, "z", false⟩, ⟨"k", some 0, "w", false⟩, ⟨"b", none, "1", true⟩,
        ⟨"k", some 2, "x", false⟩] := by decide +kernel
  have same : ∀ key n,
      textsAt (itemsOf query .comma) key n = textsAt (itemsOf other .comma) key n := by
    intro key n
    rw [items, items', textsAt, textsAt, under, under]
    by_cases hk : "k" = key
    · subst hk
      by_cases first : n = 0
      · subst first
        decide
      · simp [List.filter_cons, place, Ne.symm first]
    · simp [List.filter_cons, hk]
  refine ⟨found, (keys "k").2.2 _ found ?_, perm, same, orders other perm same⟩
  rintro text ⟨⟩

end Fields

end Listing
