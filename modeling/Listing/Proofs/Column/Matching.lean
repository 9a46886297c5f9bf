import Listing.Column.Basic
import Listing.Json.Tree
import Mathlib.Data.List.Find

/-!
# Labels in both ways of matching

Loose comparison is symmetric, holds wherever the strict one does, and fails on a scalar and
itself only for NaN. So of the same labels the loose search never stops behind the strict one.
A value of structured data is the same scalar as a label and as a cell, and so is found unless
it is NaN.
-/

namespace Listing

namespace Double

theorem equal_comm (x y : Double) : x.equal y = y.equal x := by
  cases x with
  | nan => cases y <;> rfl
  | infinite s =>
    cases y with
    | nan => rfl
    | infinite t => exact decide_eq_decide.mpr eq_comm
    | finite t b => rfl
  | finite s a =>
    cases y with
    | nan => rfl
    | infinite t => rfl
    | finite t b =>
      by_cases same : a = b
      · subst same
        simp [equal, eq_comm]
      · simp [equal, same, Ne.symm same]

theorem equal_self_iff {x : Double} : x.equal x = true ↔ x ≠ .nan := by
  cases x <;> simp [equal]

theorem ofRank_ne_nan (negative : Bool) (rank : Nat) : ofRank negative rank ≠ .nan := by
  unfold ofRank
  split <;> simp

theorem ofQuotient_ne_nan (negative : Bool) (num den : Nat) :
    ofQuotient negative num den ≠ .nan :=
  ofRank_ne_nan negative _

end Double

namespace Scalar

/-- Strictly, a scalar equals itself unless it is NaN. -/
theorem same_self_iff {a : Scalar} : a.same a = true ↔ a ≠ .float .nan := by
  cases a with
  | null => simp [same]
  | bool p => simp [same]
  | int i => simp [same]
  | float d => simp [same, Double.equal_self_iff]
  | text s => simp [same]

/-- Both scalars stand for numbers, and the numbers are equal. -/
def EqualAsNumbers (a b : Scalar) : Prop :=
  ∃ x y, a.number? = some x ∧ b.number? = some y ∧ x.equal y = true

theorem EqualAsNumbers.symm {a b : Scalar} (h : EqualAsNumbers a b) : EqualAsNumbers b a := by
  obtain ⟨x, y, hx, hy, equal⟩ := h
  refine ⟨y, x, hy, hx, ?_⟩
  rwa [Double.equal_comm]

theorem equalAsNumbers_bool_iff {p q : Bool} : EqualAsNumbers (.bool p) (.bool q) ↔ p = q := by
  have truth : (Double.ofNat p.toNat).equal (Double.ofNat q.toNat) = decide (p = q) := by
    cases p <;> cases q <;> decide +kernel
  simp [EqualAsNumbers, number?, truth]

/-- `null` equals itself, texts compare as texts, and all else as numbers. -/
theorem looselyEqual_iff {a b : Scalar} :
    a.looselyEqual b = true ↔ (a = .null ∧ b = .null) ∨ (∃ s, a = .text s ∧ b = .text s) ∨
      ¬((∃ s, a = .text s) ∧ ∃ t, b = .text t) ∧ EqualAsNumbers a b := by
  unfold looselyEqual
  split
  next => simp
  next other =>
    have other : b ≠ .null := other
    simp [EqualAsNumbers, number?, other]
  next other =>
    have other : a ≠ .null := other
    simp [EqualAsNumbers, number?, other]
  next s t => simp [eq_comm]
  next p q => simp [equalAsNumbers_bool_iff]
  next other _ _ texts _ =>
    -- What is left are kinds that differ and pairs of numbers.
    have mixed : ¬((∃ s, a = .text s) ∧ ∃ t, b = .text t) := by
      rintro ⟨⟨s, ha⟩, t, hb⟩
      exact texts s t ha hb
    unfold EqualAsNumbers
    grind

theorem looselyEqual_comm (a b : Scalar) : a.looselyEqual b = b.looselyEqual a := by
  have turned {a b : Scalar} (h : a.looselyEqual b = true) : b.looselyEqual a = true := by
    rw [looselyEqual_iff] at h ⊢
    rcases h with ⟨ha, hb⟩ | ⟨s, ha, hb⟩ | ⟨mixed, equal⟩
    · exact Or.inl ⟨hb, ha⟩
    · exact Or.inr (Or.inl ⟨s, hb, ha⟩)
    · exact Or.inr (Or.inr ⟨fun texts => mixed texts.symm, equal.symm⟩)
  exact Bool.eq_iff_iff.mpr ⟨turned, turned⟩

/-- What is strictly equal is loosely equal. -/
theorem looselyEqual_of_same {a b : Scalar} (h : a.same b = true) : a.looselyEqual b = true := by
  rw [looselyEqual_iff]
  unfold same at h
  split at h
  next => exact Or.inl ⟨rfl, rfl⟩
  next p q =>
    obtain rfl := of_decide_eq_true h
    exact Or.inr (Or.inr ⟨by simp, equalAsNumbers_bool_iff.mpr rfl⟩)
  next i j =>
    obtain rfl := of_decide_eq_true h
    refine Or.inr (Or.inr ⟨by simp, _, _, rfl, rfl, ?_⟩)
    exact Double.equal_self_iff.mpr (Double.ofQuotient_ne_nan _ _ _)
  next x y => exact Or.inr (Or.inr ⟨by simp, x, y, rfl, rfl, h⟩)
  next s t =>
    obtain rfl := of_decide_eq_true h
    exact Or.inr (Or.inl ⟨s, rfl, rfl⟩)
  next => cases h

/-- Loosely, too, a scalar equals itself unless it is NaN. -/
theorem looselyEqual_self_iff {a : Scalar} : a.looselyEqual a = true ↔ a ≠ .float .nan := by
  constructor
  · rintro equal rfl
    cases equal
  · intro number
    exact looselyEqual_of_same (same_self_iff.mpr number)

end Scalar

namespace ValueMatch

theorem holds_self (m : ValueMatch) {a : Scalar} (number : a ≠ .float .nan) :
    m.holds a a = true := by
  cases m with
  | loose => exact Scalar.looselyEqual_self_iff.mpr number
  | strict => exact Scalar.same_self_iff.mpr number

end ValueMatch

/-- The place of the first label that matches. -/
def labelIndex? (labels : List Label) (raw : Scalar) (matching : ValueMatch) : Option Nat :=
  labels.findIdx? fun l => matching.holds l.value raw

/-- The title that is shown is that of the label at this place. -/
theorem labelTitle_eq (labels : List Label) (raw : Scalar) (matching : ValueMatch) :
    labelTitle labels raw matching =
      (((labelIndex? labels raw matching).bind (labels[·]?)).map (·.title)).getD "" := by
  rw [labelTitle, labelIndex?, List.find?_eq_bind_findIdx?_getElem?]

/-- A label that matches is found, or one before it. -/
theorem exists_labelIndex?_le {labels : List Label} {raw : Scalar} {matching : ValueMatch}
    {i : Nat} {l : Label} (here : labels[i]? = some l)
    (holds : matching.holds l.value raw = true) :
    ∃ j ≤ i, labelIndex? labels raw matching = some j := by
  obtain ⟨inside, rfl⟩ := List.getElem?_eq_some_iff.mp here
  have found : (labelIndex? labels raw matching).isSome = true := by
    rw [labelIndex?, List.findIdx?_isSome, List.any_eq_true]
    exact ⟨labels[i], List.getElem_mem inside, holds⟩
  obtain ⟨j, hj⟩ := Option.isSome_iff_exists.mp found
  obtain ⟨_, _, first⟩ := List.findIdx?_eq_some_iff_getElem.mp hj
  refine ⟨j, ?_, hj⟩
  by_contra behind
  exact first i (Nat.not_le.mp behind) holds

/-- Where the strict search stops, the loose one stops there or before. -/
theorem exists_labelIndex?_loose_le {labels : List Label} {raw : Scalar} {i : Nat}
    (h : labelIndex? labels raw .strict = some i) :
    ∃ j ≤ i, labelIndex? labels raw .loose = some j :=
  List.findIdx?_eq_some_le_of_findIdx?_eq_some
    (fun _ _ same => Scalar.looselyEqual_of_same same) h

namespace Json

/-- A value that is no array and no object. -/
def IsSingle : Json → Prop
  | .array _ | .object _ => False
  | _ => True

end Json

namespace Scalar

/-- A value of structured data as a scalar of each kind, if it can be one of that kind. -/
def kinds : List (Json → Option Scalar) :=
  [fun | .null => some .null | _ => none,
    fun | .bool b => some (.bool b) | _ => none,
    fun | .integer i => (Word.signed? i).map .int | _ => none,
    fun | .integer i => some (.float (Double.ofInt i)) | .double d => some (.float d) | _ => none,
    fun | .string s => some (.text s) | _ => none]

/-- A scalar is read as the first kind that fits. -/
theorem ofJson?_eq_findSome? (v : Json) : ofJson? v = kinds.findSome? (· v) := by
  cases v with
  | integer i =>
    cases fits : Word.signed? i with
    | none => simp [ofJson?, ofInteger, kinds, fits]
    | some w => simp [ofJson?, ofInteger, kinds, fits]
  | null => rfl
  | bool b => rfl
  | double d => rfl
  | string s => rfl
  | array items => rfl
  | object members => rfl

/-- The scalar that a value is read as is the one that a cell with it shows. -/
theorem ofJson?_eq_some_iff {v : Json} {a : Scalar} :
    ofJson? v = some a ↔ v.IsSingle ∧ ofCell v = a := by
  cases v <;> simp [ofJson?, ofCell, Json.IsSingle]

theorem ofInteger_ne_nan (i : Int) : ofInteger i ≠ .float .nan := by
  have rounded : Double.ofInt i ≠ .nan := Double.ofQuotient_ne_nan _ _ _
  unfold ofInteger
  split
  next => simp
  next => simpa using rounded

theorem ofCell_ne_nan {v : Json} (number : v ≠ .double .nan) : ofCell v ≠ .float .nan := by
  cases v with
  | integer i => exact ofInteger_ne_nan i
  | double d => simpa [ofCell] using number
  | null => simp [ofCell]
  | bool b => simp [ofCell]
  | string s => simp [ofCell]
  | array items => simp [ofCell]
  | object members => simp [ofCell]

end Scalar

/-- Loose comparison is coherent with itself and with the strict one, and so is the search
among labels in both ways. Labels and cells agree on values that are no arrays and objects, so
the value of a label is found in both ways, at that label or before it. -/
theorem labels_match_coherently :
    (∀ a b : Scalar, a.looselyEqual b = b.looselyEqual a ∧
      (a.same b = true → a.looselyEqual b = true) ∧
      (a.looselyEqual a = true ↔ a ≠ .float .nan)) ∧
    (∀ (labels : List Label) (raw : Scalar) (i : Nat), labelIndex? labels raw .strict = some i →
      ∃ j ≤ i, labelIndex? labels raw .loose = some j) ∧
    (∀ v : Json, Scalar.ofJson? v = Scalar.kinds.findSome? (· v) ∧
      (v.IsSingle → Scalar.ofJson? v = some (Scalar.ofCell v))) ∧
    ∀ (labels : List Label) (i : Nat) (l : Label) (v row : Json) (key : String),
      labels[i]? = some l → Scalar.ofJson? v = some l.value → v ≠ .double .nan →
      row.get? key = some v → ∀ matching, ∃ raw, Record.cell row key = some raw ∧
        ∃ j ≤ i, ∃ found, labelIndex? labels raw matching = some j ∧ labels[j]? = some found ∧
          labelTitle labels raw matching = found.title := by
  refine ⟨?_, ?_, ?_, ?_⟩
  · intro a b
    exact ⟨Scalar.looselyEqual_comm a b, Scalar.looselyEqual_of_same,
      Scalar.looselyEqual_self_iff⟩
  · intro labels raw i
    exact exists_labelIndex?_loose_le
  · intro v
    exact ⟨Scalar.ofJson?_eq_findSome? v, fun single =>
      Scalar.ofJson?_eq_some_iff.mpr ⟨single, rfl⟩⟩
  · intro labels i l v row key here decoded number held matching
    obtain ⟨_, same⟩ := Scalar.ofJson?_eq_some_iff.mp decoded
    have cell : Record.cell row key = some l.value := by
      change (row.get? key).map Scalar.ofCell = _
      rw [held, Option.map_some, same]
    have holds : matching.holds l.value l.value = true :=
      matching.holds_self (same ▸ Scalar.ofCell_ne_nan number)
    obtain ⟨j, before, found⟩ := exists_labelIndex?_le here holds
    obtain ⟨inside, _⟩ := List.findIdx?_eq_some_iff_getElem.mp found
    have there := List.getElem?_eq_getElem inside
    refine ⟨l.value, cell, j, before, labels[j], found, there, ?_⟩
    rw [labelTitle_eq, found, Option.bind_some, there]
    rfl

/-- The label of the greatest word, behind one for its digits, and a row with that word. -/
theorem labels_match_coherently_of_greatest :
    let greatest := Json.integer 18446744073709551615
    let double := Double.ofInt 18446744073709551615
    let labels : List Label := [⟨.text "18446744073709551615", "digits"⟩, ⟨.float double, "word"⟩]
    let row := Json.object [("state", greatest)]
    Scalar.ofJson? greatest = some (.float double) ∧ greatest ≠ .double .nan ∧
      row.get? "state" = some greatest ∧
      ∀ matching, ∃ raw, Record.cell row "state" = some raw ∧
        ∃ j ≤ 1, labelIndex? labels raw matching = some j := by
  intro greatest double labels row
  have decoded : Scalar.ofJson? greatest = some (.float double) := by decide +kernel
  have number : greatest ≠ .double .nan := by simp [greatest]
  have held : row.get? "state" = some greatest := by simp [row, Json.get?]
  refine ⟨decoded, number, held, fun matching => ?_⟩
  obtain ⟨raw, cell, j, before, _, place, _⟩ := labels_match_coherently.2.2.2 labels 1
    ⟨.float double, "word"⟩ greatest row "state" rfl decoded number held matching
  exact ⟨raw, cell, j, before, place⟩

end Listing
