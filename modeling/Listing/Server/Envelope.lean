import Listing.Query.Page
import Listing.Server.Row

/-!
# Envelopes

What a list endpoint answers: a code, a message and, for code zero, either one page with
its place or the whole collection, of which the requested page is then cut out.
-/

namespace Listing

inductive Payload (α : Type) where
  | paged (page : Page α)
  | plain (rows : List α)

def rowsOfTree? {α : Type} [ServerRow α] : Json.Tree → Option (List α)
  | .array items => items.mapM ServerRow.ofTree?
  | _ => none

/-- The page in the members of an object, its rows under a key of the caller's choice. -/
def Page.ofMembers? {α : Type} [ServerRow α] (rowsKey : String)
    (members : List (String × Json.Tree)) : Option (Page α) := do
  let rows ← rowsOfTree? (← ← Json.Tree.member? members rowsKey)
  let pagination ← Pagination.ofTree? (← ← Json.Tree.member? members "pagination")
  some ⟨rows, pagination⟩

structure Envelope (α : Type) where
  code : Int64
  message : String
  data : Option (Payload α)

/-- A sound answer with a code other than zero. -/
structure Rejection where
  code : Int64
  message : String
deriving DecidableEq

namespace Rejection

def codeText (r : Rejection) : String := String.ofList (Text.Digits.writeInt r.code.toInt)

def text (r : Rejection) : String :=
  "console api returned code " ++ r.codeText ++ ": " ++ r.message

/-- Servers sometimes leave the message of a failure blank. -/
def messageOrCode (r : Rejection) : String :=
  if Text.allBlank r.message then "request failed with code " ++ r.codeText
  else r.message

end Rejection

namespace Payload

variable {α : Type}

def ofTree? [ServerRow α] (t : Json.Tree) : Option (Payload α) :=
  match t with
  | .object _ => t.members?.bind fun members => (Page.ofMembers? "list" members).map .paged
  | t => (rowsOfTree? t).map .plain

/-- The page that was asked for. -/
def toPage (p : Payload α) (requested : Fields) : Page α :=
  match p with
  | .paged page => page
  | .plain rows => .ofCollection rows requested

end Payload

namespace Envelope

variable {α : Type}

def codeOfTree? (t : Json.Tree) : Option Int64 :=
  match t.toJson? with
  | some (.integer i) => Word.signed? i
  | _ => none

def messageOfTree? (t : Option Json.Tree) : Option String :=
  match t with
  | none => some ""
  | some t =>
    match t.toJson? with
    | some (.string s) => some s
    | _ => none

/-- The payload, which may be missing or `null`. It stands inside the envelope. -/
def dataOfTree? [ServerRow α] (t : Option Json.Tree) : Option (Option (Payload α)) :=
  match t with
  | none => some none
  | some .null => some none
  | some t => (t.value? 1).bind fun _ => (Payload.ofTree? t).map some

/-- An envelope by name, or by position with all its parts. -/
def ofTree? [ServerRow α] (t : Json.Tree) : Option (Envelope α) := do
  let (code, message, data) ← match t with
    | .array [code, message, data] => some (code, some message, some data)
    | .object _ => do
      let members ← t.members?
      let code ← Json.Tree.member? members "code"
      let message ← Json.Tree.member? members "msg"
      let data ← Json.Tree.member? members "data"
      some (← code, message, data)
    | _ => none
  let code ← codeOfTree? code
  let message ← messageOfTree? message
  let data ← dataOfTree? data
  some ⟨code, message, data⟩

def read? [ServerRow α] (s : String) : Option (Envelope α) := (Json.Tree.read? s).bind ofTree?

def result (e : Envelope α) : Except Rejection (Option (Payload α)) :=
  if e.code = 0 then .ok e.data else .error ⟨e.code, e.message⟩

end Envelope

end Listing
