import Listing.Proofs.Server.RequestUrl

/-!
# What a request comes to

A request asks for one URL, which is told here part by part from the endpoint and the fields.
What it comes to is told from that URL and the exchange alone: each way to fail has its own
message, and a page is cut out of the collection if the server did not do so.
-/

namespace Listing

namespace Url

/-- Requests are sent to addresses of the web and nowhere else. -/
def IsAsked (u : Url) : Prop := (u.scheme = "http" ∨ u.scheme = "https") ∧ u.isAddress = true

theorem authority_withoutCredentials (u : Url) :
    u.withoutCredentials.authority.map (fun a => (a.host, a.port)) =
      u.authority.map (fun a => (a.host, a.port)) ∧
    u.withoutCredentials.authority.bind Authority.credentials =
      (u.authority.bind Authority.credentials).filter (!·.canBeTold) := by
  unfold withoutCredentials
  rcases u.authority with _ | ⟨_ | credentials, host, port⟩
  · exact ⟨rfl, rfl⟩
  · exact ⟨rfl, rfl⟩
  · cases told : credentials.canBeTold with
    | true => simp [told, Option.filter]
    | false => simp [told, Option.filter]

end Url

/-- The message of a request that failed, with what caused it behind. -/
def requestFailure (failure : String) (causes : List String) : String :=
  ": ".intercalate (s!"list request failed: {failure}" :: failure :: causes)

def codeText (code : Int64) : String := String.ofList (Text.Digits.writeInt code.toInt)

variable {α : Type} [ServerRow α]

namespace ListSource

/-- The URL asks the endpoint for these fields: their query stands in place of its own. -/
structure Asks (source : ListSource) (fields : Fields) (url : Url) : Prop where
  scheme : url.scheme = source.endpoint.scheme
  server : url.authority.map (fun a => (a.host, a.port)) =
    source.endpoint.authority.map fun a => (a.host, a.port)
  /-- Credentials that can be told travel apart from the URL. -/
  credentials : url.authority.bind Url.Authority.credentials =
    (source.endpoint.authority.bind Url.Authority.credentials).filter (!·.canBeTold)
  path : fields.toQuery source.format ≠ "" ∨ ¬source.endpoint.endsOpaque →
    url.path = source.endpoint.path
  /-- Where nothing stands behind an opaque path any more, it loses the spaces at its end. -/
  cut : fields.toQuery source.format = "" → source.endpoint.endsOpaque →
    (∃ n, source.endpoint.path = url.path ++ String.ofList (List.replicate n ' ')) ∧
      url.path.toList.getLast? ≠ some ' '
  query : url.query =
    if fields.toQuery source.format = "" then none else some (fields.toQuery source.format)
  fragment : url.fragment = source.endpoint.fragment

theorem asks_address (source : ListSource) (fields : Fields) :
    source.Asks fields (source.address fields) := by
  obtain ⟨query, parts, path, cut⟩ := source.requestUrl_parts fields
  obtain ⟨server, credentials⟩ := (source.requestUrl fields).authority_withoutCredentials
  have scheme : (source.requestUrl fields).scheme = source.endpoint.scheme := by rw [parts]
  have authority : (source.requestUrl fields).authority = source.endpoint.authority := by
    rw [parts]
  have fragment : (source.requestUrl fields).fragment = source.endpoint.fragment := by rw [parts]
  rw [authority] at server credentials
  exact ⟨scheme, server, credentials, path, cut, query, fragment⟩

/-- What a response means to a request for these fields. -/
inductive Means (fields : Fields) (url : String) (r : Response) : Outcome α → Prop
  | clientError (status : 400 ≤ r.status ∧ r.status < 500) :
    Means fields url r (.failure (requestFailure
      s!"HTTP status client error ({r.status} {r.reason}) for url ({url})" []))
  | serverError (status : 500 ≤ r.status ∧ r.status < 600) :
    Means fields url r (.failure (requestFailure
      s!"HTTP status server error ({r.status} {r.reason}) for url ({url})" []))
  | malformed (status : r.status < 400 ∨ 600 ≤ r.status)
      (malformed : Envelope.read? (α := α) r.body = none) :
    Means fields url r (.failure "malformed list response: error decoding response body")
  | rejected (status : r.status < 400 ∨ 600 ≤ r.status) {envelope : Envelope α}
      (read : Envelope.read? r.body = some envelope) (code : envelope.code ≠ 0)
      (told : Text.allBlank envelope.message = false) :
    Means fields url r (.failure
      s!"server rejected list request ({codeText envelope.code}): {envelope.message}")
  | silent (status : r.status < 400 ∨ 600 ≤ r.status) {envelope : Envelope α}
      (read : Envelope.read? r.body = some envelope) (code : envelope.code ≠ 0)
      (silent : Text.allBlank envelope.message = true) :
    Means fields url r (.failure
      (s!"server rejected list request ({codeText envelope.code}): " ++
        s!"request failed with code {codeText envelope.code}"))
  | paged (status : r.status < 400 ∨ 600 ≤ r.status) {envelope : Envelope α}
      (read : Envelope.read? r.body = some envelope) (code : envelope.code = 0) {page : Page α}
      (data : envelope.data = some (.paged page)) :
    Means fields url r (.page page)
  /-- The server sent the whole collection, or nothing instead of an empty one. -/
  | collected (status : r.status < 400 ∨ 600 ≤ r.status) {envelope : Envelope α}
      (read : Envelope.read? r.body = some envelope) (code : envelope.code = 0) {rows : List α}
      (data : envelope.data = some (.plain rows) ∨ envelope.data = none ∧ rows = []) :
    Means fields url r (.page (.ofCollection rows fields))

/-- What a request for these fields comes to after the exchange with its URL. -/
inductive Comes (fields : Fields) (url : Url) (exchange : Exchange) : Outcome α → Prop
  | otherScheme (other : url.scheme ≠ "http" ∧ url.scheme ≠ "https") :
    Comes fields url exchange (.failure (requestFailure
      s!"builder error for url ({url.text})" ["URL scheme is not allowed"]))
  | noAddress (web : url.scheme = "http" ∨ url.scheme = "https") (bad : url.isAddress = false) :
    Comes fields url exchange (.failure (requestFailure
      s!"builder error for url ({url.text})" ["Parsed Url is not a valid Uri"]))
  | unanswered (asked : url.IsAsked) {causes : List String} (failed : exchange = .failed causes) :
    Comes fields url exchange (.failure (requestFailure
      s!"error sending request for url ({url.text})" causes))
  | answered (asked : url.IsAsked) {r : Response} (answered : exchange = .answered r)
      {outcome : Outcome α} (means : Means fields url.text r outcome) :
    Comes fields url exchange outcome

section

variable {fields : Fields} {url : String} {r : Response}
  (status : r.status < 400 ∨ 600 ≤ r.status)

include status

theorem statusFailure?_of_sound : statusFailure? r url = none := by
  rw [statusFailure?, if_neg (by omega), if_neg (by omega)]
  rfl

/-- With a sound status it is for the envelope to say whether there is a page. -/
theorem means_of_read {envelope : Envelope α}
    (read : Envelope.read? r.body = some envelope) :
    Means (α := α) fields url r (.ofResult (pageOfResponse fields url r)) := by
  simp only [pageOfResponse, statusFailure?_of_sound status, read]
  by_cases code : envelope.code = 0
  · have result : envelope.result = .ok envelope.data := if_pos code
    simp only [result]
    cases data : envelope.data with
    | none => exact .collected status read code (Or.inr ⟨data, rfl⟩)
    | some payload =>
      cases payload with
      | paged page => exact .paged status read code data
      | plain rows => exact .collected status read code (Or.inl data)
  · have result : envelope.result = .error ⟨envelope.code, envelope.message⟩ := if_neg code
    simp only [result, ListError.ofRejection, Rejection.messageOrCode]
    cases silent : Text.allBlank envelope.message with
    | false => exact .rejected status read code silent
    | true => exact .silent status read code silent

end

theorem means_pageOfResponse (fields : Fields) (url : String) (r : Response) :
    Means (α := α) fields url r (.ofResult (pageOfResponse fields url r)) := by
  by_cases client : 400 ≤ r.status ∧ r.status < 500
  · rw [pageOfResponse, statusFailure?, if_pos client]
    exact .clientError client
  by_cases server : 500 ≤ r.status ∧ r.status < 600
  · rw [pageOfResponse, statusFailure?, if_neg client, if_pos server]
    exact .serverError server
  have status : r.status < 400 ∨ 600 ≤ r.status := by omega
  cases read : Envelope.read? (α := α) r.body with
  | none =>
    simp only [pageOfResponse, statusFailure?_of_sound status, read]
    exact .malformed status read
  | some envelope => exact means_of_read status read

theorem comes_request (source : ListSource) (fields : Fields) (exchange : String → Exchange) :
    Comes (α := α) fields (source.address fields) (exchange (source.address fields).text)
      (.ofResult (source.request fields exchange)) := by
  rw [request, refusal?]
  generalize source.address fields = url
  by_cases other : url.scheme ≠ "http" ∧ url.scheme ≠ "https"
  · simp only [if_pos other]
    exact .otherScheme other
  have web : url.scheme = "http" ∨ url.scheme = "https" := by tauto
  simp only [if_neg other]
  cases address : url.isAddress with
  | false => exact .noAddress web address
  | true =>
    have asked : url.IsAsked := ⟨web, address⟩
    cases exchanged : exchange url.text with
    | failed causes => exact .unanswered asked rfl
    | answered r => exact .answered asked rfl (means_pageOfResponse fields url.text r)

end ListSource

end Listing
