import Listing.Column.Basic
import Listing.Fetch.Basic
import Listing.Query.ArrayFormat
import Listing.Toml.Reader

/-!
# Settings

Where the server is and how to talk to it. A configuration file changes the defaults and
the environment changes both; columns come from the file only.
-/

namespace Listing

/-- An extra column for the rows of a resource. -/
structure ColumnSetting where
  title : String
  dataKey : String
  labels : Option (List Label)
  valueMatch : ValueMatch
deriving DecidableEq

def ColumnSetting.toColumn (c : ColumnSetting) : Column :=
  ⟨c.title, c.dataKey, c.labels, c.valueMatch, none⟩

structure Settings where
  serverUrl : String
  arrayFormat : ArrayFormat
  ordering : ResponseOrdering
  logFilter : String
  /-- Extra columns by the name of a resource. -/
  columns : KeyMap (List ColumnSetting)
deriving DecidableEq

inductive ConfigFile where
  | missing
  | unreadable
  | bytes (content : List UInt8)
deriving DecidableEq, Repr

inductive SettingsError where
  | unreadableFile (path : String)
  | malformedFile (path : String)
  | arrayFormat (cause : ArrayFormat.Unknown)
  | responseOrdering (cause : ResponseOrdering.Unknown)
deriving DecidableEq, Repr

namespace SettingsError

def message : SettingsError → String
  | .unreadableFile path => s!"failed to read config file '{path}'"
  | .malformedFile path => s!"failed to parse config file '{path}'"
  | .arrayFormat _ => "invalid APP__ARRAY_FORMAT"
  | .responseOrdering _ => "invalid APP__RESPONSE_ORDERING"

def cause? : SettingsError → Option String
  | .arrayFormat cause => some cause.message
  | .responseOrdering cause => some cause.message
  | _ => none

end SettingsError

namespace Settings

def default : Settings :=
  ⟨"http://127.0.0.1:8080", .repeated, .latestRequestWins, "info", ∅⟩

def text? : Toml → Option String
  | .string s => some s
  | _ => none

/-- One of several names: as a text, or as the only key of a table with nothing in it. -/
def choice? {α : Type} (ofName? : String → Option α) : Toml → Option α
  | .string s => ofName? s
  | .table [(name, .table [])] => ofName? name
  | .table [(name, .array [])] => ofName? name
  | _ => none

def items? {α : Type} (item? : Toml → Option α) : Toml → Option (List α)
  | .array items => items.mapM item?
  | _ => none

def optional? {α : Type} (read? : Toml → Option α) : Option Toml → Option (Option α)
  | none => some none
  | some value => (read? value).map some

def scalar? : Toml → Option Scalar
  | .string s => some (.text s)
  | .integer i => some (.int i)
  | .float d => some (.float d)
  | .bool b => some (.bool b)
  | _ => none

/-- The parts of a record with these keys, by key or by position. -/
def parts? (keys : List String) : Toml → Option (List (Option Toml))
  | .table members => some (keys.map (Toml.member? members))
  | .array items => some ((List.range keys.length).map fun i => items[i]?)
  | _ => none

def label? (value : Toml) : Option Label := do
  match ← parts? ["value", "title"] value with
  | [some value, some title] => some ⟨← scalar? value, ← text? title⟩
  | _ => none

def column? (value : Toml) : Option ColumnSetting := do
  match ← parts? ["title", "data_key", "value_enum", "value_match"] value with
  | [some title, some dataKey, labels, valueMatch] =>
    let title ← text? title
    let dataKey ← text? dataKey
    let labels ← optional? (items? label?) labels
    let valueMatch ← optional? (choice? ValueMatch.ofName?) valueMatch
    some ⟨title, dataKey, labels, valueMatch.getD .loose⟩
  | _ => none

def columns? : Toml → Option (KeyMap (List ColumnSetting))
  | .table members =>
    (members.mapM fun m => (items? column? m.2).map fun columns => (m.1, columns)).map
      KeyMap.ofList
  | _ => none

/-- The settings after those of a file, of which unknown ones are passed over. -/
def withFile? (s : Settings) (members : List (String × Toml)) : Option Settings := do
  let member := Toml.member? members
  let serverUrl ← optional? text? (member "server_url")
  let arrayFormat ← optional? (choice? ArrayFormat.ofName?) (member "array_format")
  let ordering ← optional? (choice? ResponseOrdering.ofName?) (member "response_ordering")
  let logFilter ← optional? text? (member "log_filter")
  let columns ← optional? columns? (member "columns")
  some ⟨serverUrl.getD s.serverUrl, arrayFormat.getD s.arrayFormat, ordering.getD s.ordering,
    logFilter.getD s.logFilter, s.columns.merge (columns.getD ∅)⟩

/-- The settings after those of the environment. Of two names for one setting the longer
one counts. -/
def withEnvironment (s : Settings) (lookup? : String → Option String) :
    Except SettingsError Settings := do
  let serverUrl := ((lookup? "APP__SERVER_URL").or (lookup? "CONSOLE_SERVER_URL")).getD
    s.serverUrl
  let arrayFormat ← match lookup? "APP__ARRAY_FORMAT" with
    | some raw => (ArrayFormat.read raw).mapError .arrayFormat
    | none => .ok s.arrayFormat
  let ordering ← match lookup? "APP__RESPONSE_ORDERING" with
    | some raw => (ResponseOrdering.read raw).mapError .responseOrdering
    | none => .ok s.ordering
  .ok { s with
    serverUrl, arrayFormat, ordering
    logFilter := (lookup? "APP__LOG_FILTER").getD s.logFilter }

/-- The settings of a file and an environment. A file that is missing changes nothing. -/
def load (path : String) (file : ConfigFile) (lookup? : String → Option String) :
    Except SettingsError Settings :=
  match file with
  | .missing => default.withEnvironment lookup?
  | .unreadable => .error (.unreadableFile path)
  | .bytes content =>
    match String.fromUTF8? ⟨content.toArray⟩ with
    | none => .error (.unreadableFile path)
    | some text =>
      match (Toml.read? text).bind default.withFile? with
      | none => .error (.malformedFile path)
      | some settings => settings.withEnvironment lookup?

end Settings

end Listing
