import Listing.Column.Basic
import Listing.Json.Reader

/-!
# Rows of a server

Rows are read from structured text. A typed row knows some of its members by name and
keeps all others as they are, so that columns can show them too.
-/

namespace Listing

class ServerRow (α : Type) extends Record α where
  ofTree? : Json.Tree → Option α

instance : ServerRow Json where
  ofTree? t := t.toJson?

/-- A member that is a text, or the default if it is missing. -/
def textMember? (members : List (String × Json)) (key : String) (default : Option String) :
    Option String :=
  match Json.Tree.member? members key with
  | some (some (.string s)) => some s
  | some none => default
  | _ => none

/-- The members under other keys than those that are known. -/
def otherMembers (known : List String) (members : List (String × Json)) : KeyMap Json :=
  KeyMap.ofList (members.filter fun m => !known.contains m.1)

structure ProjectRow where
  name : String
  gitRemotePath : String
  path : String
  extra : KeyMap Json

namespace ProjectRow

def keys : List String := ["name", "gitRemotePath", "path"]

def ofMembers? (members : List (String × Json)) : Option ProjectRow := do
  let name ← textMember? members "name" none
  let gitRemotePath ← textMember? members "gitRemotePath" (some "")
  let path ← textMember? members "path" (some "")
  some ⟨name, gitRemotePath, path, otherMembers keys members⟩

/-- The cell under a data key: a known member, or else one of the others. -/
def cell (row : ProjectRow) (key : String) : Option Scalar :=
  if key = "name" then some (.text row.name)
  else if key = "gitRemotePath" then some (.text row.gitRemotePath)
  else if key = "path" then some (.text row.path)
  else (row.extra.get? key).map Scalar.ofCell

instance : ServerRow ProjectRow where
  cell := cell
  ofTree? t := t.valueMembers?.bind ofMembers?

end ProjectRow

structure TemplateRow where
  name : String
  gitRemotePath : String
  path : String
  statusText : String
  extra : KeyMap Json

namespace TemplateRow

def keys : List String := ["name", "gitRemotePath", "path", "statusText"]

def ofMembers? (members : List (String × Json)) : Option TemplateRow := do
  let name ← textMember? members "name" none
  let gitRemotePath ← textMember? members "gitRemotePath" (some "")
  let path ← textMember? members "path" (some "")
  let statusText ← textMember? members "statusText" (some "")
  some ⟨name, gitRemotePath, path, statusText, otherMembers keys members⟩

/-- The cell under a data key: a known member, or else one of the others. -/
def cell (row : TemplateRow) (key : String) : Option Scalar :=
  if key = "name" then some (.text row.name)
  else if key = "gitRemotePath" then some (.text row.gitRemotePath)
  else if key = "path" then some (.text row.path)
  else if key = "statusText" then some (.text row.statusText)
  else (row.extra.get? key).map Scalar.ofCell

instance : ServerRow TemplateRow where
  cell := cell
  ofTree? t := t.valueMembers?.bind ofMembers?

end TemplateRow

/-- The row that a whole text describes. All of it is used, so all of it has to be sound. -/
def readRow? (α : Type) [ServerRow α] (s : String) : Option α :=
  (Json.Tree.read? s).bind fun t =>
    if t.depth ≤ Json.Tree.depthLimit then ServerRow.ofTree? t else none

end Listing
