import Listing.Proofs.Server.Paging
import Listing.Proofs.Table.Settled
import Listing.Server.Source

/-!
# Sane pages

However a server describes a page, by name or by position, in part or not at all, what is
published of it has a number from one on and room for a row. The number of pages is then
the quotient rounded up.
-/

namespace Listing

variable {α : Type}

namespace Pagination

/-- The first page has number one, and a page holds at least one row. -/
structure Sane (p : Pagination) : Prop where
  current : 1 ≤ p.current
  pageSize : 1 ≤ p.pageSize

theorem one_le_max_one (w : UInt64) : 1 ≤ max w 1 := by
  rw [UInt64.le_iff_toNat_le, UInt64.toNat_max]
  omega

theorem sane_clamped (current pageSize total : UInt64) : (clamped current pageSize total).Sane where
  current := one_le_max_one current
  pageSize := one_le_max_one pageSize

theorem Sane.pageCount_isLeast {p : Pagination} (h : p.Sane) :
    IsLeast {n | p.total.toNat ≤ n * p.pageSize.toNat} p.pageCount.toNat := by
  have room : 1 ≤ p.pageSize.toNat := UInt64.le_iff_toNat_le.mp h.pageSize
  exact Pagination.pageCount_isLeast room

/-- By name or by position, the three numbers that are found or made up are clamped. -/
theorem eq_clamped_of_ofTree? {t : Json.Tree} {p : Pagination} (h : ofTree? t = some p) :
    ∃ current pageSize total, p = clamped current pageSize total := by
  have ends (a b c : Option Json.Tree)
      (h : (wordD? a defaultCurrent).bind (fun current =>
        (wordD? b defaultPageSize).bind fun pageSize =>
          (wordD? c 0).bind fun total => some (clamped current pageSize total)) = some p) :
      ∃ current pageSize total, p = clamped current pageSize total := by
    simp only [Option.bind_eq_some_iff] at h
    obtain ⟨current, _, pageSize, _, total, _, made⟩ := h
    exact ⟨current, pageSize, total, (Option.some.inj made).symm⟩
  unfold ofTree? at h
  split at h
  · exact ends none none none h
  · next a => exact ends a none none h
  · next a b => exact ends a b none h
  · next a b c => exact ends a b c h
  · simp only [bind, Option.bind_eq_some_iff, Option.bind_some] at h
    obtain ⟨_, _, current, _, pageSize, _, total, _, rest⟩ := h
    exact ends current pageSize total (by simpa only [Option.bind_eq_some_iff] using rest)
  · cases h

theorem sane_of_ofTree? {t : Json.Tree} {p : Pagination} (h : ofTree? t = some p) : p.Sane := by
  obtain ⟨current, pageSize, total, rfl⟩ := eq_clamped_of_ofTree? h
  exact sane_clamped current pageSize total

end Pagination

theorem Page.sane_ofCollection (rows : List α) (requested : Fields) :
    (ofCollection rows requested).pagination.Sane :=
  Pagination.sane_clamped _ _ _

section

variable [ServerRow α]

theorem Page.sane_of_ofMembers? {rowsKey : String} {members : List (String × Json.Tree)}
    {page : Page α} (h : ofMembers? rowsKey members = some page) : page.pagination.Sane := by
  unfold ofMembers? at h
  simp only [bind, Option.bind_eq_some_iff] at h
  obtain ⟨_, _, _, _, rows, _, _, _, tree, _, pagination, read, made⟩ := h
  cases made
  exact Pagination.sane_of_ofTree? read

/-- A page from the server was clamped when it was read, and a collection is clamped when it
is cut. -/
theorem Payload.sane_toPage {t : Json.Tree} {payload : Payload α} (h : ofTree? t = some payload)
    (requested : Fields) : (payload.toPage requested).pagination.Sane := by
  cases payload with
  | plain rows => exact Page.sane_ofCollection rows requested
  | paged page =>
    unfold ofTree? at h
    split at h
    · obtain ⟨members, _, made⟩ := Option.bind_eq_some_iff.mp h
      obtain ⟨page', read, same⟩ := Option.map_eq_some_iff.mp made
      cases same
      exact Page.sane_of_ofMembers? read
    · obtain ⟨rows, _, same⟩ := Option.map_eq_some_iff.mp h
      cases same

namespace Envelope

theorem sane_of_dataOfTree? {t : Option Json.Tree} {data : Option (Payload α)}
    (h : dataOfTree? t = some data) (requested : Fields) :
    ((data.getD (.plain [])).toPage requested).pagination.Sane := by
  unfold dataOfTree? at h
  split at h
  · cases h
    exact Page.sane_ofCollection [] requested
  · cases h
    exact Page.sane_ofCollection [] requested
  · obtain ⟨_, _, made⟩ := Option.bind_eq_some_iff.mp h
    obtain ⟨payload, read, same⟩ := Option.map_eq_some_iff.mp made
    cases same
    exact Payload.sane_toPage read requested

/-- The data of an envelope is read as such, by name or by position. -/
theorem exists_dataOfTree?_of_ofTree? {t : Json.Tree} {envelope : Envelope α}
    (h : ofTree? t = some envelope) : ∃ data, dataOfTree? data = some envelope.data := by
  have ends (code : Json.Tree) (message data : Option Json.Tree)
      (h : (codeOfTree? code).bind (fun code =>
        (messageOfTree? message).bind fun message =>
          (dataOfTree? data).bind fun data => some (⟨code, message, data⟩ : Envelope α)) =
        some envelope) : ∃ data, dataOfTree? data = some envelope.data := by
    simp only [Option.bind_eq_some_iff] at h
    obtain ⟨_, _, _, _, found, read, made⟩ := h
    cases made
    exact ⟨data, read⟩
  unfold ofTree? at h
  split at h
  · next code message data => exact ends code message data h
  · simp only [bind, Option.bind_eq_some_iff, Option.bind_some] at h
    obtain ⟨_, _, _, _, message, _, data, _, code, _, rest⟩ := h
    exact ends code message data (by simpa only [Option.bind_eq_some_iff] using rest)
  · cases h

theorem sane_of_read? {body : String} {envelope : Envelope α} (h : read? body = some envelope)
    (requested : Fields) :
    ((envelope.data.getD (.plain [])).toPage requested).pagination.Sane := by
  obtain ⟨t, _, read⟩ := Option.bind_eq_some_iff.mp h
  obtain ⟨data, found⟩ := exists_dataOfTree?_of_ofTree? read
  exact sane_of_dataOfTree? found requested

end Envelope

namespace ListSource

theorem sane_of_pageOfResponse {fields : Fields} {url : String} {r : Response} {page : Page α}
    (h : pageOfResponse fields url r = .ok page) : page.pagination.Sane := by
  unfold pageOfResponse at h
  split at h
  · cases h
  · split at h
    · cases h
    · next envelope read =>
      unfold Envelope.result at h
      split at h
      · cases h
      · next data found =>
        split at found
        · cases found
          cases h
          exact Envelope.sane_of_read? read fields
        · cases found

/-- A page that a request comes to is sane. -/
theorem sane_of_request {source : ListSource} {fields : Fields} {exchange : String → Exchange}
    {page : Page α} (h : source.request fields exchange = .ok page) : page.pagination.Sane := by
  unfold request at h
  simp only at h
  split at h
  · cases h
  · split at h
    · cases h
    · exact sane_of_pageOfResponse h

end ListSource

end

namespace Coordinator

theorem pagination_move {ordering : ResponseOrdering} {c c' : Coordinator α} {s : Step α}
    (m : Move ordering c s c') :
    c'.published.pagination = c.published.pagination ∨
      ∃ g page, s = .settle g (.page page) ∧
        c'.published.pagination = some page.pagination := by
  cases m with
  | opened => exact Or.inl rfl
  | spent ends gone => exact Or.inl rfl
  | discarded live stale strict => exact Or.inl rfl
  | @paged g page live applied => exact Or.inr ⟨g, page, rfl, rfl⟩
  | failed live applied => exact Or.inl rfl
  | abandoned live latest => exact Or.inl rfl
  | dropped live stale => exact Or.inl rfl

/-- What holds of the pagination of every page that arrives holds of what is shown. -/
theorem pagination_run {P : Pagination → Prop} (ordering : ResponseOrdering)
    {steps : List (Step α)}
    (arriving : ∀ g page, .settle g (.page page) ∈ steps → P page.pagination) :
    ∀ p, (run ordering steps).published.pagination = some p → P p := by
  induction steps using List.reverseRecOn with
  | nil =>
    intro p shown
    cases shown
  | append_singleton steps s ih =>
    intro p shown
    rw [run_append_singleton] at shown
    rcases pagination_move (move_step ordering (run ordering steps) s) with
      kept | ⟨g, page, rfl, new⟩
    · rw [kept] at shown
      exact ih (fun g page hmem => arriving g page (List.mem_append_left _ hmem)) p shown
    · rw [new] at shown
      cases shown
      exact arriving g page (by simp)

end Coordinator

namespace Table

/-- Every answer is what a request to the source came to. -/
def AnsweredBy [ServerRow α] (source : ListSource) (actions : List (Action α)) : Prop :=
  ∀ g outcome, .respond g outcome ∈ actions →
    ∃ fields exchange, outcome = .ofResult (source.request fields exchange)

theorem sane_of_answeredBy [ServerRow α] {source : ListSource} {options : TableOptions}
    {location : String} {actions : List (Action α)} (answered : AnsweredBy source actions) :
    ∀ p, ((ofLocation options location).run actions).fetch.published.pagination = some p →
      p.Sane := by
  rw [fetch_run]
  apply Coordinator.pagination_run
  intro g page hmem
  obtain ⟨a, ha, step⟩ := List.mem_filterMap.mp hmem
  obtain rfl := eq_respond_of_step? step
  obtain ⟨fields, exchange, came⟩ := answered g _ ha
  cases result : source.request (α := α) fields exchange with
  | ok page' =>
    rw [result] at came
    cases came
    exact ListSource.sane_of_request result
  | error e =>
    rw [result] at came
    cases came

/-- A sound answer with code zero holds a sane page, whatever was asked for and in whatever
form the answer comes. So what a table over such a source shows is sane in every state, and
its number of pages is the least with which every row has a place. -/
theorem published_pagination_is_sane [ServerRow α] :
    (∀ (body : String) (requested : Fields) (envelope : Envelope α),
      Envelope.read? body = some envelope → envelope.code = 0 →
      ∃ data, envelope.result = .ok data ∧
        ((data.getD (.plain [])).toPage requested).pagination.Sane) ∧
    ∀ (source : ListSource) (options : TableOptions) (location : String)
      (actions : List (Action α)), AnsweredBy source actions →
      ∀ p, ((ofLocation options location).run actions).fetch.published.pagination = some p →
        p.Sane ∧ IsLeast {n | p.total.toNat ≤ n * p.pageSize.toNat} p.pageCount.toNat := by
  constructor
  · intro body requested envelope read success
    refine ⟨envelope.data, ?_, Envelope.sane_of_read? read requested⟩
    rw [Envelope.result, if_pos success]
  · intro source options location actions answered p shown
    have sane := sane_of_answeredBy answered p shown
    exact ⟨sane, sane.pageCount_isLeast⟩

/-- A page without a number and without room is the first of pages with one row each. -/
theorem published_pagination_is_sane_of_zeros :
    let body := "[0,\"\",\x7b\"list\":[],\"pagination\":[0,0,7]\x7d]"
    let source : ListSource := ⟨⟨"http", some ⟨none, "h", none⟩, "/", none, none⟩, .repeated⟩
    let answer := source.request ∅ fun _ => .answered ⟨200, "OK", body⟩
    let actions : List (Action Json) := [.search ∅, .respond 1 (.ofResult answer)]
    let shown : Option Pagination :=
      ((ofLocation ⟨.repeated, .latestRequestWins⟩ "").run actions).fetch.published.pagination
    (∃ (envelope : Envelope Json) (data : _), Envelope.read? body = some envelope ∧
      envelope.code = 0 ∧ envelope.result = .ok data ∧
      ((data.getD (.plain [])).toPage ∅).pagination.Sane) ∧
    AnsweredBy source actions ∧ shown = some ⟨1, 1, 7⟩ ∧
      IsLeast {n | 7 ≤ n * 1} (Pagination.pageCount ⟨1, 1, 7⟩).toNat := by
  intro body source answer actions shown
  have decoded : (Envelope.read? (α := Json) body).map Envelope.code = some 0 := by
    decide +kernel
  obtain ⟨envelope, read, success⟩ := Option.map_eq_some_iff.mp decoded
  obtain ⟨data, result, sane⟩ :=
    published_pagination_is_sane.1 body ∅ envelope read success
  have answered : AnsweredBy source actions := by
    intro g outcome hmem
    have came : g = 1 ∧ outcome = .ofResult answer := by simpa [actions] using hmem
    exact ⟨∅, _, came.2⟩
  have clamped : shown = some ⟨1, 1, 7⟩ := by decide +kernel
  have least := (published_pagination_is_sane.2 source _ "" actions answered _ clamped).2
  exact ⟨⟨envelope, data, read, success, result, sane⟩, answered, clamped, least⟩

end Table

end Listing
