import Listing.Console.Filter
import Listing.Console.Resource
import Listing.Fetch.Basic
import Listing.Query.ArrayFormat

/-!
# Arguments

What a command line asks for. An option is written with two hyphens and takes its value
after an equals sign or as the next argument; after a bare pair of hyphens nothing is an
option. A value is checked when the next option or the end is reached, so of several
faults the one that is met first is reported.
-/

namespace Listing

inductive UsageError where
  | missingResource
  /-- A value is missing, or it is none of the possible ones. -/
  | invalidValue
  /-- A value cannot be read. -/
  | rejectedValue
  | unknownArgument
  | repeatedOption
  /-- A value for an option that takes none. -/
  | unexpectedValue
  /-- No fault: help was asked for. -/
  | helpRequested
deriving DecidableEq, Repr

inductive Setting where
  | config
  | serverUrl
  | location
  | filter
  | page
  | pageSize
  | arrayFormat
  | ordering
deriving DecidableEq, Repr

def Setting.name : Setting → String
  | .config => "config"
  | .serverUrl => "server-url"
  | .location => "location"
  | .filter => "filter"
  | .page => "page"
  | .pageSize => "page-size"
  | .arrayFormat => "array-format"
  | .ordering => "ordering"

def Setting.ofName? (name : String) : Option Setting :=
  [config, serverUrl, location, filter, page, pageSize, arrayFormat, ordering].find?
    (·.name = name)

/-- What was given, each part at most once but the filters. -/
structure Given where
  resource : Option Resource
  config : Option String
  serverUrl : Option String
  location : Option String
  filters : List Filter
  page : Option UInt64
  pageSize : Option UInt64
  arrayFormat : Option ArrayFormat
  ordering : Option ResponseOrdering

def Given.nothing : Given := ⟨none, none, none, none, [], none, none, none, none⟩

structure Arguments where
  resource : Resource
  config : String
  serverUrl : Option String
  location : String
  filters : List Filter
  page : Option UInt64
  pageSize : Option UInt64
  arrayFormat : Option ArrayFormat
  ordering : Option ResponseOrdering
deriving DecidableEq

namespace Given

def once {α : Type} (present : Option α) : Except UsageError Unit :=
  if present.isSome then .error .repeatedOption else .ok ()

def readWord (raw : String) : Except UsageError UInt64 :=
  match Text.Digits.readWord? 10 raw.toList with
  | some n => .ok n
  | none => .error .rejectedValue

def set (g : Given) (setting : Setting) (raw : String) : Except UsageError Given := do
  match setting with
  | .config =>
    once g.config
    if raw = "" then .error .invalidValue else .ok { g with config := some raw }
  | .serverUrl =>
    once g.serverUrl
    .ok { g with serverUrl := some raw }
  | .location =>
    once g.location
    .ok { g with location := some raw }
  | .filter =>
    let filter ← (Filter.read raw).mapError fun _ => .rejectedValue
    .ok { g with filters := g.filters ++ [filter] }
  | .page =>
    once g.page
    .ok { g with page := some (← readWord raw) }
  | .pageSize =>
    once g.pageSize
    .ok { g with pageSize := some (← readWord raw) }
  | .arrayFormat =>
    once g.arrayFormat
    .ok { g with arrayFormat := some (← (ArrayFormat.read raw).mapError fun _ => .rejectedValue) }
  | .ordering =>
    once g.ordering
    .ok { g with
      ordering := some (← (ResponseOrdering.read raw).mapError fun _ => .rejectedValue) }

def setResource (g : Given) (raw : String) : Except UsageError Given :=
  match Resource.ofName? raw with
  | some resource => .ok { g with resource := some resource }
  | none => .error .invalidValue

def complete (g : Given) : Except UsageError Arguments :=
  match g.resource with
  | some resource =>
    .ok ⟨resource, g.config.getD "console.toml", g.serverUrl, g.location.getD "", g.filters,
      g.page, g.pageSize, g.arrayFormat, g.ordering⟩
  | none => .error .missingResource

end Given

/-- What was read last and is not checked yet. -/
inductive Pending where
  | nothing
  /-- An option whose value is the next argument. -/
  | awaited (setting : Setting)
  | option (setting : Setting) (raw : String)
  | resource (raw : String)
deriving DecidableEq

structure ArgumentState where
  given : Given
  pending : Pending
  /-- A bare pair of hyphens was read. -/
  onlyValues : Bool
  /-- The resource was read, though it may not be checked yet. -/
  hasResource : Bool

namespace ArgumentState

def start : ArgumentState := ⟨.nothing, .nothing, false, false⟩

def check (s : ArgumentState) : Except UsageError ArgumentState :=
  match s.pending with
  | .nothing => .ok s
  | .awaited _ => .error .invalidValue
  | .option setting raw =>
    (s.given.set setting raw).map fun given => { s with given, pending := .nothing }
  | .resource raw =>
    (s.given.setResource raw).map fun given => { s with given, pending := .nothing }

/-- A value that belongs to no option. -/
def positional (s : ArgumentState) (raw : String) : Except UsageError ArgumentState :=
  if s.hasResource then .error .unknownArgument
  else s.check.map fun s => { s with pending := .resource raw, hasResource := true }

/-- An option without its hyphens. -/
def option (s : ArgumentState) (body : List Char) : Except UsageError ArgumentState :=
  let name := String.ofList (body.takeWhile (· ≠ '='))
  let value? := match body.dropWhile (· ≠ '=') with
    | _ :: value => some (String.ofList value)
    | [] => none
  if name = "help" then
    match value? with
    | some _ => .error .unexpectedValue
    | none => s.check.bind fun _ => .error .helpRequested
  else
    match Setting.ofName? name, value? with
    | none, _ => .error .unknownArgument
    | some setting, none => s.check.map fun s => { s with pending := .awaited setting }
    | some setting, some raw =>
      s.check.bind fun s =>
        (s.given.set setting raw).map fun given => { s with given, pending := .nothing }

def argument (s : ArgumentState) (raw : String) : Except UsageError ArgumentState :=
  if s.onlyValues then s.positional raw
  else
    match raw.toList with
    | ['-', '-'] => .ok { s with onlyValues := true }
    | '-' :: '-' :: body => s.option body
    | '-' :: 'h' :: _ => s.check.bind fun _ => .error .helpRequested
    | '-' :: _ :: _ => .error .unknownArgument
    | _ =>
      match s.pending with
      | .awaited setting => .ok { s with pending := .option setting raw }
      | _ => s.positional raw

end ArgumentState

/-- The command line in these arguments, or the first fault in them. -/
def Arguments.read (raw : List String) : Except UsageError Arguments := do
  let s ← raw.foldlM ArgumentState.argument ArgumentState.start
  let s ← s.check
  s.given.complete

end Listing
