import Listing.Proofs.Text.FormPairs
import Listing.Server.Source
import Mathlib.Data.List.DropRight

/-!
# The query of a request

A request asks for the query that the location shows. The URL escapes once more what it is
given, so this rests on the alphabet of written pairs: none of its characters has to be
escaped in the query of a URL, whatever the scheme.
-/

namespace Listing

open Text

namespace Text

theorem Percent.encode_eq_self {keep : Char → Bool} {s : List Char}
    (kept : ∀ c ∈ s, keep c = true) : encode keep s = s := by
  induction s with
  | nil => rfl
  | cons c rest ih =>
    have others := ih fun d hd => kept d (List.mem_cons_of_mem c hd)
    rw [encode, List.flatMap_cons, if_pos (kept c List.mem_cons_self)]
    exact congrArg (c :: ·) others

namespace FormPairs

theorem of_mem_encodePair {p : String × String} {c : Char} (h : c ∈ encodePair p) :
    IsWritten c ∨ c = '=' := by
  rcases List.mem_append.mp h with name | rest
  · exact Or.inl (isWritten_of_mem_encode c name)
  · rcases List.mem_cons.mp rest with sign | value
    · exact Or.inr sign
    · exact Or.inl (isWritten_of_mem_encode c value)

theorem of_mem_write {pairs : List (String × String)} {c : Char}
    (h : c ∈ (write pairs).toList) : IsWritten c ∨ c = '=' ∨ c = '&' := by
  rw [write, String.toList_ofList] at h
  induction pairs with
  | nil => cases h
  | cons p rest ih =>
    have own {c : Char} (h : c ∈ encodePair p) : IsWritten c ∨ c = '=' ∨ c = '&' :=
      (of_mem_encodePair h).imp_right Or.inl
    cases rest with
    | nil => exact own (by simpa using h)
    | cons q others =>
      rw [List.map_cons, List.map_cons, List.intercalate_cons_cons, List.append_assoc] at h
      rcases List.mem_append.mp h with first | later
      · exact own first
      · rcases List.mem_append.mp later with sign | later
        · exact Or.inr (Or.inr (List.mem_singleton.mp sign))
        · exact ih later

end FormPairs

end Text

namespace Url

/-- The query of a URL holds its whole alphabet as it is. -/
theorem kept_of_isWritten {c : Char} (h : FormPairs.IsWritten c ∨ c = '=' ∨ c = '&')
    (special : Bool) : 0x1F < c.toNat ∧ c.toNat < 0x7F ∧ c ∉ querySet special := by
  have visible : 0x1F < c.toNat ∧ c.toNat < 0x7F := by
    rcases h with (plain | rfl | rfl) | rfl | rfl
    · rcases FormPairs.isPlain_iff.mp plain with letter | rfl | rfl | rfl | rfl
      · have := FormPairs.toNat_of_isAlphanum letter
        omega
      all_goals decide
    all_goals decide
  refine ⟨visible.1, visible.2, ?_⟩
  intro escaped
  rcases List.mem_append.mp escaped with always | quote
  · simp only [List.mem_cons, List.not_mem_nil, or_false] at always
    rcases always with rfl | rfl | rfl | rfl | rfl
    all_goals exact absurd h (by unfold FormPairs.IsWritten; decide)
  · cases special with
    | true =>
      obtain rfl := List.mem_singleton.mp quote
      exact absurd h (by unfold FormPairs.IsWritten; decide)
    | false => cases quote

theorem escapeSet_eq_self {set s : List Char}
    (kept : ∀ c ∈ s, 0x1F < c.toNat ∧ c.toNat < 0x7F ∧ c ∉ set) : escapeSet set s = s := by
  apply Percent.encode_eq_self
  intro c hc
  obtain ⟨low, high, free⟩ := kept c hc
  simp [low, high, free]

/-- Nothing but spaces is cut off, and all that stand at the end. -/
theorem spaces_cut_off (s : List Char) :
    let cut := s.rdropWhile (· = ' ')
    (∃ n, s = cut ++ List.replicate n ' ') ∧ cut.getLast? ≠ some ' ' := by
  intro cut
  constructor
  · have spaces : ∀ c ∈ s.rtakeWhile (· = ' '), c = ' ' := by
      intro c hc
      simpa using List.mem_rtakeWhile_imp hc
    refine ⟨(s.rtakeWhile (· = ' ')).length, ?_⟩
    rw [← List.eq_replicate_of_mem spaces]
    exact List.rdropWhile_append_rtakeWhile.symm
  · intro last
    obtain ⟨nonempty, space⟩ := List.mem_getLast?_eq_getLast last
    exact List.rdropWhile_last_not _ s nonempty (decide_eq_true space.symm)

/-- An opaque path at the very end of a URL. Only there spaces may be lost. -/
def endsOpaque (u : Url) : Prop := u.isOpaque = true ∧ u.fragment = none

theorem path_withQuery_none (u : Url) :
    (¬ u.endsOpaque → (u.withQuery none).path = u.path) ∧
    (u.endsOpaque →
      (∃ n, u.path = (u.withQuery none).path ++ String.ofList (List.replicate n ' ')) ∧
        (u.withQuery none).path.toList.getLast? ≠ some ' ') := by
  have condition : (u.isOpaque && u.fragment.isNone) = true ↔ u.endsOpaque := by
    rw [Bool.and_eq_true, Option.isNone_iff_eq_none, endsOpaque]
  constructor
  · intro segments
    exact if_neg (mt condition.mp segments)
  · intro ends
    have cut : (u.withQuery none).path = String.ofList (u.path.toList.rdropWhile (· = ' ')) :=
      if_pos (condition.mpr ends)
    obtain ⟨⟨n, spaces⟩, last⟩ := spaces_cut_off u.path.toList
    rw [cut, String.toList_ofList]
    refine ⟨⟨n, ?_⟩, last⟩
    rw [← String.ofList_append, ← spaces, String.ofList_toList]

end Url

namespace ListSource

variable {base path : String} {format : ArrayFormat} {source : ListSource}

theorem format_of_ofParts (valid : ofParts base path format = .ok source) :
    source.format = format := by
  unfold ofParts at valid
  simp only at valid
  split at valid
  · cases valid
    rfl
  · cases valid

/-- A query that is not empty is the query of the URL, as it was written. -/
theorem requestUrl_of_ne_empty {fields : Fields} (asked : fields.toQuery source.format ≠ "") :
    source.requestUrl fields =
      { source.endpoint with query := some (fields.toQuery source.format) } := by
  have kept : Url.escapeSet (Url.querySet (Url.isSpecial source.endpoint.scheme))
      (fields.toQuery source.format).toList = (fields.toQuery source.format).toList := by
    apply Url.escapeSet_eq_self
    intro c hc
    exact Url.kept_of_isWritten (FormPairs.of_mem_write hc) _
  rw [requestUrl]
  simp only [if_neg asked, Url.withQuery]
  rw [kept, String.ofList_toList]

theorem requestUrl_of_eq_empty {fields : Fields} (none_asked : fields.toQuery source.format = "") :
    source.requestUrl fields = source.endpoint.withQuery none := by
  rw [requestUrl]
  simp only [if_pos none_asked]

theorem requestUrl_parts (source : ListSource) (fields : Fields) :
    let url := source.requestUrl fields
    let query := fields.toQuery source.format
    url.query = (if query = "" then none else some query) ∧
    url = { source.endpoint with query := url.query, path := url.path } ∧
    (query ≠ "" ∨ ¬ source.endpoint.endsOpaque → url.path = source.endpoint.path) ∧
    (query = "" → source.endpoint.endsOpaque →
      (∃ n, source.endpoint.path = url.path ++ String.ofList (List.replicate n ' ')) ∧
        url.path.toList.getLast? ≠ some ' ') := by
  intro url query
  by_cases asked : query = ""
  · have bare : url = source.endpoint.withQuery none := requestUrl_of_eq_empty asked
    obtain ⟨kept, cut⟩ := Url.path_withQuery_none source.endpoint
    rw [bare, if_pos asked]
    refine ⟨rfl, rfl, ?_, fun _ => cut⟩
    intro segments
    exact kept (segments.resolve_left fun some_asked => some_asked asked)
  · have full : url = { source.endpoint with query := some query } :=
      requestUrl_of_ne_empty asked
    rw [full, if_neg asked]
    exact ⟨rfl, rfl, fun _ => rfl, fun empty => absurd empty asked⟩

/-- A request has the query of the location, character for character, or none where the
location has none. All else of its URL is the endpoint's, but where no query follows an
opaque path that ends the URL, the path loses the spaces at its end. -/
theorem request_carries_location_query (valid : ofParts base path format = .ok source)
    (fields : Fields) :
    let url := source.requestUrl fields
    let query := fields.toQuery format
    url.query = (if query = "" then none else some query) ∧
    (url.query = none ↔ fields.toLocation format = "") ∧
    (∀ q, url.query = some q → "?" ++ q = fields.toLocation format) ∧
    url = { source.endpoint with query := url.query, path := url.path } ∧
    (query ≠ "" ∨ ¬ source.endpoint.endsOpaque → url.path = source.endpoint.path) ∧
    (query = "" → source.endpoint.endsOpaque →
      (∃ n, source.endpoint.path = url.path ++ String.ofList (List.replicate n ' ')) ∧
        url.path.toList.getLast? ≠ some ' ') := by
  obtain rfl := format_of_ofParts valid
  intro url query
  obtain ⟨carried, others⟩ := requestUrl_parts source fields
  by_cases asked : query = ""
  · have location : fields.toLocation source.format = "" := if_pos asked
    have none_asked : url.query = none := carried.trans (if_pos asked)
    refine ⟨carried, by simp [none_asked, location], ?_, others⟩
    intro q impossible
    rw [none_asked] at impossible
    cases impossible
  · have location : fields.toLocation source.format = "?" ++ query := if_neg asked
    have some_asked : url.query = some query := carried.trans (if_neg asked)
    have shown : "?" ++ query ≠ "" := by
      intro empty
      have := congrArg String.toList empty
      simp at this
    refine ⟨carried, by simp [some_asked, location, shown], ?_, others⟩
    intro q same
    rw [location, Option.some.inj (some_asked.symm.trans same)]

theorem eq_ok_of_toOption {parts : Except ListError ListSource} (h : parts.toOption = some source) :
    parts = .ok source := by
  cases parts with
  | error e => cases h
  | ok found =>
    cases h
    rfl

/-- A query of the endpoint itself makes room for the one that is asked for, in front of the
fragment. -/
theorem request_carries_location_query_of_list :
    let fields : Fields := (∅ : Fields).insert "lang" (.list [.text "go", .text "vue"])
    ∃ source, ofParts "http://localhost:9999/" "/api?old#top" .indices = .ok source ∧
      (source.requestUrl fields).text =
        "http://localhost:9999/api?lang%5B0%5D=go&lang%5B1%5D=vue#top" ∧
      ∀ q, (source.requestUrl fields).query = some q → "?" ++ q = fields.toLocation .indices := by
  intro fields
  have valid : ofParts "http://localhost:9999/" "/api?old#top" .indices =
      .ok ⟨⟨"http", some ⟨none, "localhost", some 9999⟩, "/api", some "old", some "top"⟩,
        .indices⟩ := eq_ok_of_toOption (by decide +kernel)
  refine ⟨_, valid, ?_, ?_⟩
  · decide +kernel
  · exact (request_carries_location_query valid fields).2.2.1

/-- An opaque path that ends in a space loses it with the query of the endpoint. -/
theorem request_drops_end_space :
    ∃ source, ofParts "data:x" "y ?q" .repeated = .ok source ∧
      source.endpoint.path = "x/y " ∧ (source.requestUrl ∅).path = "x/y" ∧
      (source.requestUrl ∅).path ≠ source.endpoint.path := by
  have valid : ofParts "data:x" "y ?q" .repeated =
      .ok ⟨⟨"data", none, "x/y ", some "q", none⟩, .repeated⟩ :=
    eq_ok_of_toOption (by decide +kernel)
  refine ⟨_, valid, rfl, ?_, ?_⟩
  · decide +kernel
  · decide +kernel

end ListSource

end Listing
