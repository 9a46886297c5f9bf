import Listing.Console.Arguments
import Listing.Console.Layout
import Listing.Console.Settings
import Listing.Server.Source
import Listing.Table.Basic

/-!
# One run of the console

The whole program as a function of its arguments, its surroundings and the network: it
loads one list, applies filters and a page if they are given, and shows what came of it.
-/

namespace Listing

structure Surroundings where
  file : String → ConfigFile
  lookup? : String → Option String

/-- What a run leaves behind. What it says of failures is told entry by entry, and an entry
may have breaks in it. -/
structure Report where
  exitCode : UInt8
  output : String
  errors : List String
deriving DecidableEq, Repr

namespace Report

/-- The text of all errors, with a break after each. -/
def errorText (r : Report) : String := String.join (r.errors.map (· ++ "\n"))

def failure (message : String) : Report := ⟨1, "", ["Error: " ++ message]⟩

/-- A faulty command line has a code of its own, and asking for help is no fault. What is
said then is left to the shell of the program. -/
def usage (e : UsageError) : Report := ⟨if e = .helpRequested then 0 else 2, "", []⟩

end Report

namespace Settings

/-- The command line has the last word. -/
def withArguments (s : Settings) (a : Arguments) : Settings :=
  { s with
    serverUrl := a.serverUrl.getD s.serverUrl
    arrayFormat := a.arrayFormat.getD s.arrayFormat
    ordering := a.ordering.getD s.ordering }

def columnsFor (s : Settings) (resource : Resource) : List Column :=
  resource.defaultColumns ++
    ((s.columns.get? resource.name).getD []).map ColumnSetting.toColumn

end Settings

section

variable {α : Type} [ServerRow α]

/-- Takes an action and, if it issued a request, waits for what that comes to. -/
def Table.await (network : Network) (source : ListSource) (t : Table α) (action : Action α) :
    Table α :=
  let next := t.act action
  match next.requests.getLast? with
  | some fields =>
    let result := source.request fields (network next.requests.length)
    next.act (.respond next.fetch.latest (.ofResult result))
  | none => next

/-- The page that a command line asks for: what it leaves open is as in the query. -/
def pageAction? (a : Arguments) (fields : Fields) : Option (Action α) :=
  if a.page.isSome ∨ a.pageSize.isSome then
    some (.changePage
      ((a.page.or (fields.word? currentKey)).getD Pagination.defaultCurrent)
      ((a.pageSize.or (fields.word? pageSizeKey)).getD Pagination.defaultPageSize))
  else none

/-- The table once everything that was asked for is done. -/
def finalTable (a : Arguments) (settings : Settings) (network : Network) (source : ListSource) :
    Table α :=
  let options := ⟨settings.arrayFormat, settings.ordering⟩
  let t := (Table.ofLocation options a.location).await network source (.refresh none)
  let t :=
    if a.filters = [] then t
    else t.await network source (.submit (Filter.fields a.filters))
  match pageAction? a t.fields with
  | some action => t.await network source action
  | none => t

def failureLine? : Event → Option String
  | .failed generation message => some s!"request {generation} failed: {message}"
  | _ => none

def Table.report (resource : Resource) (columns : List Column) (t : Table α) : Report :=
  let shown := t.fetch.published
  let output := renderTable (titles columns) (shown.rows.map (renderRow columns)) ++
    pageLine shown.pagination ++ "\nlocation: " ++ t.location ++ "\n"
  let failures := t.fetch.events.filterMap failureLine?
  if shown.phase = .failed then
    let message := shown.lastError.getD ""
    ⟨1, output, failures ++ [s!"Error: {resource.name} list could not be loaded: {message}"]⟩
  else ⟨0, output, failures⟩

def runWith (α : Type) [ServerRow α] (a : Arguments) (settings : Settings) (network : Network) :
    Report :=
  match ListSource.ofParts settings.serverUrl a.resource.path settings.arrayFormat with
  | .error e => .failure e.message
  | .ok source =>
    (finalTable (α := α) a settings network source).report a.resource
      (settings.columnsFor a.resource)

end

def run (arguments : List String) (surroundings : Surroundings) (network : Network) : Report :=
  match Arguments.read arguments with
  | .error e => .usage e
  | .ok a =>
    match Settings.load a.config (surroundings.file a.config) surroundings.lookup? with
    | .error e => .failure e.message
    | .ok settings =>
      let settings := settings.withArguments a
      match a.resource with
      | .projects => runWith ProjectRow a settings network
      | .templates => runWith TemplateRow a settings network

end Listing
