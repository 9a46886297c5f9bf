import Listing.Proofs.KeyMap
import Listing.Proofs.Query.KeyShape
import Listing.Proofs.Text.FormPairs
import Listing.Query.Encoding

/-!
# Gathering pairs by key

Reading collects what it finds under the base of each key. The order of pairs with other
bases does not matter, so what is found under a key is a function of its own pairs, in
their order.
-/

namespace Listing

open Text

/-- The pairs whose values belong under a key. -/
def pairsAt (key : String) (pairs : List (String × String)) : List (String × String) :=
  pairs.filter fun p => p.1 ≠ "" ∧ (KeyShape.of p.1).base = key

theorem pairsAt_eq_self {key : String} {pairs : List (String × String)}
    (h : ∀ p ∈ pairs, p.1 ≠ "" ∧ (KeyShape.of p.1).base = key) : pairsAt key pairs = pairs :=
  List.filter_eq_self.mpr fun p hp => decide_eq_true (h p hp)

theorem pairsAt_eq_nil {key : String} {pairs : List (String × String)}
    (h : ∀ p ∈ pairs, (KeyShape.of p.1).base ≠ key) : pairsAt key pairs = [] := by
  refine List.filter_eq_nil_iff.mpr fun p hp => ?_
  rw [decide_eq_true_iff]
  exact fun hk => h p hp hk.2

theorem pairsAt_append (key : String) (ps qs : List (String × String)) :
    pairsAt key (ps ++ qs) = pairsAt key ps ++ pairsAt key qs :=
  List.filter_append ..

namespace Gathered

/-- A value is written with commas and stands for several. -/
def Several (format : ArrayFormat) (value : String) : Prop :=
  format = .comma ∧ ',' ∈ value.toList

instance (format : ArrayFormat) (value : String) : Decidable (Several format value) :=
  inferInstanceAs (Decidable (_ ∧ _))

/-- The items that one pair adds. -/
def itemsOf (format : ArrayFormat) (p : String × String) : List (Option UInt64 × String) :=
  if Several format p.2 then
    (p.2.toList.splitOn ',').map fun part => ((KeyShape.of p.1).index?, String.ofList part)
  else [((KeyShape.of p.1).index?, p.2)]

/-- One pair is enough to make a list. -/
def isListed (format : ArrayFormat) (p : String × String) : Bool :=
  decide (Several format p.2) || (KeyShape.of p.1).isItem

def addPair (format : ArrayFormat) (g : Gathered) (p : String × String) : Gathered :=
  g.add format (KeyShape.of p.1) p.2

theorem addPair_eq (format : ArrayFormat) (g : Gathered) (p : String × String) :
    g.addPair format p = ⟨g.items ++ itemsOf format p, g.isList || isListed format p⟩ := by
  unfold addPair add itemsOf isListed
  by_cases several : Several format p.2
  · rw [if_pos (show format = .comma ∧ ',' ∈ p.2.toList from several), if_pos several]
    simp [several]
  · rw [if_neg (show ¬(format = .comma ∧ ',' ∈ p.2.toList) from several), if_neg several]
    simp [several]

theorem foldl_addPair (format : ArrayFormat) (pairs : List (String × String)) (g : Gathered) :
    pairs.foldl (addPair format) g =
      ⟨g.items ++ pairs.flatMap (itemsOf format), g.isList || pairs.any (isListed format)⟩ := by
  induction pairs generalizing g with
  | nil => simp
  | cons p rest ih =>
    rw [List.foldl_cons, ih, addPair_eq]
    simp [Bool.or_assoc]

/-- What is gathered from the pairs of one key. -/
def ofPairs (format : ArrayFormat) (pairs : List (String × String)) : Gathered :=
  ⟨pairs.flatMap (itemsOf format), pairs.any (isListed format)⟩

theorem foldl_addPair_empty (format : ArrayFormat) (pairs : List (String × String)) :
    pairs.foldl (addPair format) empty = ofPairs format pairs := by
  rw [foldl_addPair]
  rfl

/-- Items that came in the order of their places stay as they came. -/
theorem value_of_pairwise {g : Gathered}
    (sorted : g.items.Pairwise fun a b => place a ≤ place b) :
    g.value = if g.isList || 1 < g.items.length then
        .list (g.items.map fun item => .text item.2)
      else .text ((g.items.head?.map (·.2)).getD "") := by
  have kept : (g.items.mergeSort fun a b => place a ≤ place b) = g.items :=
    List.mergeSort_of_pairwise (sorted.imp decide_eq_true)
  rw [value, kept]

end Gathered

/-- Gathering a list of pairs changes what is under a key by the pairs of that key. -/
theorem get?_foldl_gather (format : ArrayFormat) (pairs : List (String × String))
    (found : KeyMap Gathered) (key : String) :
    (pairs.foldl (gather format) found).get? key =
      if pairsAt key pairs = [] then found.get? key
      else some ((pairsAt key pairs).foldl (Gathered.addPair format)
        ((found.get? key).getD Gathered.empty)) := by
  induction pairs generalizing found with
  | nil => rfl
  | cons p rest ih =>
    rw [List.foldl_cons, ih]
    by_cases named : p.1 = ""
    · have skipped : pairsAt key (p :: rest) = pairsAt key rest := by
        simp [pairsAt, named]
      rw [skipped, gather, if_pos named]
    · rw [gather, if_neg named]
      by_cases hk : (KeyShape.of p.1).base = key
      · have first : pairsAt key (p :: rest) = p :: pairsAt key rest := by
          simp [pairsAt, named, hk]
        rw [first, KeyMap.get?_insert, if_pos hk.symm, if_neg (List.cons_ne_nil _ _)]
        simp only [hk, Option.getD_some]
        split
        next none => rw [none]; rfl
        next some => rfl
      · have skipped : pairsAt key (p :: rest) = pairsAt key rest := by
          simp [pairsAt, named, hk]
        have apart : key ≠ (KeyShape.of p.1).base := fun he => hk he.symm
        simp only [skipped, KeyMap.get?_insert, if_neg apart]

namespace Fields

/-- What is read under a key. -/
theorem get?_ofPairs (format : ArrayFormat) (pairs : List (String × String)) (key : String) :
    (ofPairs format pairs).get? key =
      if pairsAt key pairs = [] then none
      else some (Gathered.ofPairs format (pairsAt key pairs)).value := by
  rw [ofPairs, KeyMap.get?_filterMap, get?_foldl_gather]
  split
  · rfl
  · rw [KeyMap.get?_empty, Option.getD_none, Gathered.foldl_addPair_empty, Option.bind_some]

/-- The pairs that are written for the fields. -/
def pairs (fields : Fields) (format : ArrayFormat) : List (String × String) :=
  fields.entries.flatMap fun e => e.2.pairs format e.1

/-- A written query is read as the pairs that it was made of. -/
theorem ofQuery_write (pairs : List (String × String)) (format : ArrayFormat) :
    ofQuery (FormPairs.write pairs) format = ofPairs format pairs := by
  unfold ofQuery
  split
  next r he => exact False.elim (FormPairs.head?_write_ne pairs (congrArg List.head? he))
  next => exact congrArg (ofPairs format) (FormPairs.read_write pairs)

theorem ofQuery_toQuery (fields : Fields) (format : ArrayFormat) :
    ofQuery (fields.toQuery format) format = ofPairs format (fields.pairs format) :=
  ofQuery_write (fields.pairs format) format

end Fields

end Listing
