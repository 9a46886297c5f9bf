import Listing.Fetch.Basic
import Listing.Query.Encoding
import Listing.Server.Envelope
import Listing.Url.Basic

/-!
# List endpoints

Where the rows of a table come from: an endpoint that is asked with the fields of a query
and answers with an envelope. An exchange is one request to a server and what came of it.
-/

namespace Listing

structure Response where
  status : Nat
  reason : String
  body : String
deriving DecidableEq, Repr

inductive Exchange where
  | answered (response : Response)
  /-- No answer came; the reasons, the nearest one first. -/
  | failed (causes : List String)
deriving DecidableEq, Repr

/-- What comes of the request with a number and a URL. -/
abbrev Network := Nat → String → Exchange

def Network.unreachable : Network := fun _ _ =>
  .failed ["client error (Connect)", "tcp connect error",
    "Network is unreachable (os error 101)"]

inductive ListError where
  | endpoint (url : String) (cause : Url.Error)
  /-- The exchange failed; what failed, and then its causes. -/
  | request (failure : String) (causes : List String)
  | rejected (code : Int64) (message : String)
  | undecodable
deriving DecidableEq

namespace ListError

def ofRejection (r : Rejection) : ListError := .rejected r.code r.messageOrCode

def message : ListError → String
  | .endpoint url cause => s!"invalid list endpoint '{url}': {cause.message}"
  | .request failure _ => s!"list request failed: {failure}"
  | .rejected code message =>
    "server rejected list request (" ++ String.ofList (Text.Digits.writeInt code.toInt) ++ "): " ++
      message
  | .undecodable => "malformed list response: error decoding response body"

def chain (e : ListError) : List String :=
  e.message :: match e with
    | .endpoint _ cause => [cause.message]
    | .request failure causes => failure :: causes
    | _ => []

def chainText (e : ListError) : String := ": ".intercalate e.chain

end ListError

structure ListSource where
  endpoint : Url
  format : ArrayFormat
deriving DecidableEq, Repr

namespace ListSource

/-- A base and a path with one slash between them. -/
def joinUrl (base path : String) : String :=
  String.ofList ((base.toList.reverse.dropWhile (· = '/')).reverse ++
    '/' :: path.toList.dropWhile (· = '/'))

def ofParts (base path : String) (format : ArrayFormat) : Except ListError ListSource :=
  let raw := joinUrl base path
  match Url.read raw with
  | .ok endpoint => .ok ⟨endpoint, format⟩
  | .error cause => .error (.endpoint raw cause)

/-- The URL that asks for these fields. A query of the endpoint itself is replaced. -/
def requestUrl (s : ListSource) (fields : Fields) : Url :=
  let query := fields.toQuery s.format
  s.endpoint.withQuery (if query = "" then none else some query)

/-- The URL as it is asked and as failures name it; credentials travel apart from it. -/
def address (s : ListSource) (fields : Fields) : Url := (s.requestUrl fields).withoutCredentials

/-- A status of the classes 4xx and 5xx is a failure, and only those are. -/
def statusFailure? (r : Response) (url : String) : Option String :=
  let kind? :=
    if 400 ≤ r.status ∧ r.status < 500 then some "client error"
    else if 500 ≤ r.status ∧ r.status < 600 then some "server error"
    else none
  kind?.map fun kind => s!"HTTP status {kind} ({r.status} {r.reason}) for url ({url})"

variable {α : Type}

/-- The page in a response. An envelope without data holds an empty collection. -/
def pageOfResponse [ServerRow α] (fields : Fields) (url : String) (r : Response) :
    Except ListError (Page α) :=
  match statusFailure? r url with
  | some failure => .error (.request failure [])
  | none =>
    match Envelope.read? (α := α) r.body with
    | none => .error .undecodable
    | some envelope =>
      match envelope.result with
      | .error rejection => .error (.ofRejection rejection)
      | .ok data => .ok ((data.getD (.plain [])).toPage fields)

def refusal? (address : Url) : Option String :=
  if address.scheme ≠ "http" ∧ address.scheme ≠ "https" then some "URL scheme is not allowed"
  else if address.isAddress then none
  else some "Parsed Url is not a valid Uri"

/-- What a request for these fields comes to. Only web schemes are ever asked. -/
def request [ServerRow α] (s : ListSource) (fields : Fields) (exchange : String → Exchange) :
    Except ListError (Page α) :=
  let url := (s.address fields).text
  match refusal? (s.address fields) with
  | some cause => .error (.request s!"builder error for url ({url})" [cause])
  | none =>
    match exchange url with
    | .failed causes => .error (.request s!"error sending request for url ({url})" causes)
    | .answered response => pageOfResponse fields url response

end ListSource

/-- An outcome as the table takes it: of a failure the whole chain. -/
def Outcome.ofResult {α : Type} : Except ListError (Page α) → Outcome α
  | .ok p => .page p
  | .error e => .failure e.chainText

end Listing
