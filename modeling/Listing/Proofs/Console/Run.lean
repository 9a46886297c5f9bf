import Listing.Console.Run
import Listing.Proofs.Console.Layout
import Listing.Proofs.Fetch.Turns
import Listing.Proofs.Server.Request
import Listing.Proofs.Table.Lockstep

/-!
# A run of the console from end to end

The console issues one to three requests and waits for each. What it leaves behind is
worked out in two steps: a table whose requests were answered in turn is a function of the
fields that were asked for and of what came of them, and the report is read off that table.
-/

namespace Listing

variable {α : Type}

/-- The rows that the server keeps for a resource. -/
def Resource.Row : Resource → Type
  | .projects => ProjectRow
  | .templates => TemplateRow

instance (resource : Resource) : ServerRow resource.Row :=
  match resource with
  | .projects => inferInstanceAs (ServerRow ProjectRow)
  | .templates => inferInstanceAs (ServerRow TemplateRow)

namespace Arguments

variable (a : Arguments) (format : ArrayFormat)

def located : Fields := .ofQuery a.location format

/-- The same fields with all filters among them. -/
def filtered : Fields := (a.located format).merge (Filter.fields a.filters)

/-- A page of the filtered rows. Its number and its size are given, or are those of the
query, or the default. -/
def paged : Fields :=
  (a.filtered format).merge (pagePatch
    ((a.page.or ((a.filtered format).word? currentKey)).getD Pagination.defaultCurrent)
    ((a.pageSize.or ((a.filtered format).word? pageSizeKey)).getD Pagination.defaultPageSize))

/-- The fields of the requests before a page is asked for. -/
def searches : List Fields :=
  a.located format :: if a.filters = [] then [] else [a.filtered format]

/-- The fields of all requests. -/
def queries : List Fields :=
  a.searches format ++ if a.page.isSome ∨ a.pageSize.isSome then [a.paged format] else []

theorem length_queries : (a.queries format).length =
    1 + (if a.filters = [] then 0 else 1) +
      if a.page.isSome ∨ a.pageSize.isSome then 1 else 0 := by
  rw [queries, searches, List.length_append, List.length_cons, Nat.add_comm _ 1]
  congr 1
  · split <;> rfl
  · split <;> rfl

/-- Without filters the location is all there is to search for. -/
theorem getLast?_searches : (a.searches format).getLast? = some (a.filtered format) := by
  rw [searches]
  by_cases none : a.filters = []
  · rw [if_pos none, filtered, none]
    rfl
  · rw [if_neg none]
    rfl

theorem exists_getLast?_queries : ∃ last, (a.queries format).getLast? = some last :=
  ⟨_, List.getLast?_eq_some_getLast (List.cons_ne_nil _ _)⟩

end Arguments

namespace ListSource

variable [ServerRow α] (source : ListSource) (network : Network)

/-- What requests for these fields come to if they are issued in this order. -/
def outcomes (asked : List Fields) : List (Outcome α) :=
  (asked.zipIdx 1).map fun (fields, n) => .ofResult (source.request fields (network n))

theorem outcomes_append_singleton (asked : List Fields) (fields : Fields) :
    source.outcomes (α := α) network (asked ++ [fields]) =
      source.outcomes network asked ++
        [.ofResult (source.request fields (network (asked.length + 1)))] := by
  rw [outcomes, List.zipIdx_append, List.map_append, Nat.add_comm asked.length]
  rfl

theorem comes_outcomes (asked : List Fields) :
    List.Forall₂
      (fun (fields, n) outcome =>
        ∃ url, source.Asks fields url ∧
          Comes (α := α) fields url (network n url.text) outcome)
      (asked.zipIdx 1) (source.outcomes network asked) := by
  rw [outcomes, List.forall₂_map_right_iff, List.forall₂_same]
  rintro ⟨fields, n⟩ -
  exact ⟨source.address fields, source.asks_address fields,
    source.comes_request fields (network n)⟩

variable {source network}

theorem outcomes_congr {other : Network} {asked : List Fields}
    (same : ∀ turn ∈ asked.zipIdx 1, ∀ url, source.Asks turn.1 url →
      other turn.2 url.text = network turn.2 url.text) :
    source.outcomes (α := α) other asked = source.outcomes network asked := by
  refine List.map_congr_left fun turn ht => ?_
  have exchange := same turn ht _ (source.asks_address turn.1)
  simp only [request, exchange]

end ListSource

namespace Coordinator

def failureLines (outcomes : List (Outcome α)) : List String :=
  (outcomes.zipIdx 1).filterMap fun (outcome, n) =>
    outcome.message?.map fun message => s!"request {n} failed: {message}"

/-- Why the last of the requests failed, if it did. -/
def lastFailure? (outcomes : List (Outcome α)) : Option String :=
  outcomes.getLast?.bind Outcome.message?

theorem failureLines_eq (outcomes : List (Outcome α)) :
    (turnNotices outcomes).filterMap failureLine? = failureLines outcomes := by
  rw [turnNotices, List.filterMap_flatMap, failureLines, List.filterMap_eq_flatMap_toList]
  refine List.flatMap_congr fun turn _ => ?_
  obtain ⟨outcome, n⟩ := turn
  cases outcome <;> rfl

theorem phase_last (outcomes : List (Outcome α)) :
    (outcomes.getLast?.map Outcome.phase).getD .idle = .failed ↔
      (lastFailure? outcomes).isSome := by
  rw [lastFailure?]
  cases outcomes.getLast? with
  | none => simp
  | some outcome => cases outcome <;> simp [Outcome.phase, Outcome.message?]

end Coordinator

namespace Table

theorem fetch_act_of_patch {t : Table α} {action : Action α} {patch : Fields}
    (issued : action.patch? t = some patch) : (t.act action).fetch = t.fetch.begin := by
  have transition : action.isTransition = true := by
    by_contra other
    rw [Bool.not_eq_true, ← Action.patch?_eq_none_iff, issued] at other
    cases other
  rw [fetch_act, Action.step?_eq_begin_iff.mpr transition]
  rfl

/-- What a transition does to a table whose form shows the query and nothing else. -/
theorem act_eq_of_form {t : Table α} {action : Action α} {patch : Fields}
    (issued : action.patch? t = some patch) (form : t.form = t.fields) : t.act action =
      { options := t.options
        store := t.store.merge patch
        address := t.address.sync (t.fields.merge patch) t.options.arrayFormat
        form := t.fields.merge patch
        fetch := t.fetch.begin
        requests := t.requests ++ [t.fields.merge patch] } := by
  have h := act_advances issued
  have fetch := fetch_act_of_patch issued
  have fields := h.fields
  have store : (t.act action).store = t.store.merge patch :=
    Store.ext fields h.transitions
  have address : (t.act action).address =
      t.address.sync (t.fields.merge patch) t.options.arrayFormat :=
    Address.ext (fields ▸ h.location) (fields ▸ h.replacements)
  have shown : (t.act action).form = t.fields.merge patch := by
    rw [h.form_eq, fields, form, KeyMap.merge_merge_self]
  exact Table.ext h.options store address shown fetch (fields ▸ h.requests)

/-- A table whose requests for these fields were answered in turn. -/
def inTurn (options : TableOptions) (location : String) (asked : List Fields)
    (outcomes : List (Outcome α)) : Table α :=
  let current := asked.getLast?.getD (Fields.ofQuery location options.arrayFormat)
  let locations := asked.map fun fields => fields.toLocation options.arrayFormat
  { options
    store := ⟨current, asked.length⟩
    address := ⟨locations.getLast?.getD location, locations⟩
    form := current
    fetch := .afterTurns outcomes
    requests := asked }

theorem ofLocation_eq_inTurn (options : TableOptions) (location : String) :
    (ofLocation options location : Table α) = inTurn options location [] [] := by
  have form : KeyMap.merge ∅ (Fields.ofQuery location options.arrayFormat) =
      Fields.ofQuery location options.arrayFormat := KeyMap.empty_merge _
  unfold ofLocation inTurn
  simp only [Address.fields, Address.ofQuery, form]
  rfl

section

variable [ServerRow α] {options : TableOptions} {location : String} {network : Network}
  {source : ListSource} {asked : List Fields} {action : Action α} {patch : Fields}

/-- A request that was issued is answered at once, as the latest. -/
theorem await_of_issued {t next : Table α} {fields : Fields} (issued : t.act action = next)
    (last : next.requests.getLast? = some fields) :
    t.await network source action =
      { next with
        fetch := next.fetch.settle next.options.ordering next.fetch.latest
          (.ofResult (source.request fields (network next.requests.length))) } := by
  subst issued
  simp only [await, last]
  rfl

/-- One more turn. -/
theorem await_inTurn {fields : Fields}
    (issued : action.patch? (inTurn options location asked (source.outcomes network asked)) =
      some patch)
    (merged : (asked.getLast?.getD (Fields.ofQuery location options.arrayFormat)).merge patch =
      fields) :
    (inTurn options location asked (source.outcomes network asked)).await network source action =
      inTurn options location (asked ++ [fields])
        (source.outcomes network (asked ++ [fields])) := by
  set t : Table α := inTurn options location asked (source.outcomes network asked) with ht
  have next := act_eq_of_form issued rfl
  have current : t.fields.merge patch = fields := merged
  have store : t.store.merge patch = ⟨fields, asked.length + 1⟩ :=
    congrArg (Store.mk · _) merged
  -- No other generation waits, so the answer is that of the latest in either ordering.
  have settled := Coordinator.settle_begin_afterTurns options.ordering
    (source.outcomes (α := α) network asked)
    (.ofResult (source.request fields (network (asked.length + 1))))
  rw [current, store] at next
  rw [await_of_issued next List.getLast?_concat]
  simp only [ht, inTurn, List.getLast?_concat, Option.getD_some, List.map_append,
    List.map_singleton, List.length_append, List.length_singleton,
    ListSource.outcomes_append_singleton, ← settled, Address.sync, Address.replace]
  rfl

end

end Table

section

variable [ServerRow α] (a : Arguments) (settings : Settings) (network : Network)
  (source : ListSource)

theorem searched_eq_inTurn (options : TableOptions) :
    let loaded : Table α := (Table.ofLocation options a.location).await network source
      (.refresh none)
    (if a.filters = [] then loaded
      else loaded.await network source (.submit (Filter.fields a.filters))) =
      Table.inTurn options a.location (a.searches options.arrayFormat)
        (source.outcomes network (a.searches options.arrayFormat)) := by
  intro loaded
  have first : loaded = Table.inTurn options a.location [a.located options.arrayFormat]
      (source.outcomes network [a.located options.arrayFormat]) := by
    change Table.await network source (Table.ofLocation options a.location) _ = _
    rw [Table.ofLocation_eq_inTurn options a.location]
    exact Table.await_inTurn rfl (KeyMap.merge_empty _)
  rw [Arguments.searches, first]
  by_cases none : a.filters = []
  · rw [if_pos none, if_pos none]
  · rw [if_neg none, if_neg none]
    exact Table.await_inTurn rfl (KeyMap.merge_merge_self _ _)

/-- The final table has asked for everything on the command line, in turn. -/
theorem finalTable_eq_inTurn : (finalTable a settings network source : Table α) =
    Table.inTurn ⟨settings.arrayFormat, settings.ordering⟩ a.location
      (a.queries settings.arrayFormat)
      (source.outcomes network (a.queries settings.arrayFormat)) := by
  have searched := searched_eq_inTurn (α := α) a network source
    ⟨settings.arrayFormat, settings.ordering⟩
  have current : (a.searches settings.arrayFormat).getLast?.getD
      (Fields.ofQuery a.location settings.arrayFormat) = a.filtered settings.arrayFormat := by
    rw [a.getLast?_searches, Option.getD_some]
  have fields : (Table.inTurn (α := α) ⟨settings.arrayFormat, settings.ordering⟩ a.location
      (a.searches settings.arrayFormat)
      (source.outcomes network (a.searches settings.arrayFormat))).fields =
      a.filtered settings.arrayFormat := current
  unfold finalTable
  simp only at searched
  simp only [searched, fields, pageAction?]
  rw [Arguments.queries]
  by_cases asked : a.page.isSome ∨ a.pageSize.isSome
  · rw [if_pos asked, if_pos asked]
    exact Table.await_inTurn rfl (congrArg (KeyMap.merge · _) current)
  · rw [if_neg asked, if_neg asked, List.append_nil]

end

/-! ## What is left behind -/

namespace Report

theorem errorText_eq (r : Report) :
    r.errorText = String.ofList (r.errors.flatMap (·.toList ++ ['\n'])) := by
  rw [← String.ofList_toList (s := r.errorText)]
  simp [errorText, List.flatMap_map]

/-- Entries without breaks are the lines of the text. -/
theorem splitOn_errorText {r : Report} (clean : ∀ entry ∈ r.errors, '\n' ∉ entry.toList) :
    r.errorText.toList.splitOn '\n' = r.errors.map String.toList ++ [[]] := by
  rw [errorText_eq, String.toList_ofList, ← List.flatMap_map String.toList (· ++ ['\n'])]
  apply Text.splitOn_flatMap_ended
  intro line hl
  obtain ⟨entry, he, rfl⟩ := List.mem_map.mp hl
  exact clean entry he

end Report

section

variable (resource : Resource) (columns : List Column) (format : ArrayFormat) (last : Fields)
  (outcomes : List (Outcome α))

/-- Where the page of the last success stands. -/
def placeText : String :=
  match Coordinator.lastPage? outcomes with
  | some ⟨_, p⟩ =>
    s!"page {p.current} of {max p.pageCount 1} ({p.total} rows, {p.pageSize} per page)"
  | none => "no page loaded"

/-- All that is printed after these outcomes: the rows of the last success in columns, where
its page stands, and the query of the last request. -/
def printed [Record α] : String :=
  let rows := ((Coordinator.lastPage? outcomes).map Page.rows).getD []
  let lines := tableLines (columns.map Column.title) (rows.map (renderRow columns))
  let query := last.toQuery format
  String.ofList (lines.flatMap (· ++ ['\n'])) ++ placeText outcomes ++
    "\nlocation: " ++ (if query = "" then "" else "?" ++ query) ++ "\n"

/-- What is told of failures: each request that failed, and the list if it was the last one. -/
def failureEntries : List String :=
  Coordinator.failureLines outcomes ++
    (Coordinator.lastFailure? outcomes).toList.map fun message =>
      s!"Error: {resource.name} list could not be loaded: {message}"

variable {outcomes}

theorem notMem_failureLine (n : Nat) {message : String} (clean : '\n' ∉ message.toList) :
    '\n' ∉ s!"request {n} failed: {message}".toList := by
  have number : '\n' ∉ n.repr.toList := by
    intro newline
    have digit := Nat.isDigit_of_mem_toDigits (by decide) (by decide)
      (show '\n' ∈ Nat.toDigits 10 n by simpa [Nat.repr] using newline)
    exact absurd digit (by decide)
  change '\n' ∉ ("request " ++ n.repr ++ " failed: " ++ message).toList
  simp only [String.toList_append, List.mem_append, not_or]
  exact ⟨⟨⟨by decide, number⟩, by decide⟩, clean⟩

theorem notMem_failureEntries
    (clean : ∀ message, .failure message ∈ outcomes → '\n' ∉ message.toList) :
    ∀ entry ∈ failureEntries resource outcomes, '\n' ∉ entry.toList := by
  intro entry he
  rcases List.mem_append.mp he with line | final
  · obtain ⟨⟨outcome, n⟩, hturn, told⟩ := List.mem_filterMap.mp line
    cases outcome with
    | page page => cases told
    | failure message =>
      cases told
      exact notMem_failureLine n (clean message (List.fst_mem_of_mem_zipIdx hturn))
  · obtain ⟨message, hm, rfl⟩ := List.mem_map.mp final
    rw [Option.mem_toList, Coordinator.lastFailure?] at hm
    obtain ⟨outcome, last, told⟩ := Option.bind_eq_some_iff.mp hm
    cases outcome with
    | page page => cases told
    | failure text =>
      cases told
      have name : '\n' ∉ resource.name.toList := by cases resource <;> decide
      change '\n' ∉ ("Error: " ++ resource.name ++ " list could not be loaded: " ++
        message).toList
      simp only [String.toList_append, List.mem_append, not_or]
      exact ⟨⟨⟨by decide, name⟩, by decide⟩, clean message (List.mem_of_getLast? last)⟩

end

/-- How a run ends, told from its command line, its settings and what its requests come to. -/
structure RunsInTurn (α : Type) [ServerRow α] (a : Arguments) (settings : Settings)
    (network : Network) (source : ListSource) (outcomes : List (Outcome α)) (report : Report) :
    Prop where
  /-- The location is asked for first, then the filters and a page if they are given. -/
  requests : (finalTable (α := α) a settings network source).requests =
    a.queries settings.arrayFormat
  count : (a.queries settings.arrayFormat).length = 1 + (if a.filters = [] then 0 else 1) +
    if a.page.isSome ∨ a.pageSize.isSome then 1 else 0
  /-- Every request asks its own URL, and the exchange decides what it comes to. -/
  answers : List.Forall₂
    (fun (fields, n) outcome =>
      ∃ url, source.Asks fields url ∧ ListSource.Comes fields url (network n url.text) outcome)
    ((a.queries settings.arrayFormat).zipIdx 1) outcomes
  /-- Each request is issued after the one before was answered. -/
  turns : (finalTable (α := α) a settings network source).fetch =
    .run settings.ordering (Coordinator.turns outcomes)
  /-- Nothing else is asked. -/
  alone : ∀ other : Network,
    (∀ turn ∈ (a.queries settings.arrayFormat).zipIdx 1, ∀ url, source.Asks turn.1 url →
      other turn.2 url.text = network turn.2 url.text) →
    runWith α a settings other = report
  /-- Rows and page come from the last success, the location from the last request. -/
  output : ∃ last, (a.queries settings.arrayFormat).getLast? = some last ∧
    report.output = printed (settings.columnsFor a.resource) settings.arrayFormat last outcomes
  errorText : report.errorText =
    String.ofList ((failureEntries a.resource outcomes).flatMap (·.toList ++ ['\n']))
  /-- One line for each failure and no other, if no message has breaks in it. -/
  errorLines : (∀ message, .failure message ∈ outcomes → '\n' ∉ message.toList) →
    report.errorText.toList.splitOn '\n' =
      (failureEntries a.resource outcomes).map String.toList ++ [[]]
  exitCode : report.exitCode = if (Coordinator.lastFailure? outcomes).isSome then 1 else 0
  orderings : ∀ ordering, runWith α a { settings with ordering } network = report

section

variable {a : Arguments} {settings : Settings} {network : Network} {source : ListSource}

theorem report_inTurn [ServerRow α] (resource : Resource) (columns : List Column)
    (options : TableOptions) (location : String) {asked : List Fields} {last : Fields}
    (issued : asked.getLast? = some last) (outcomes : List (Outcome α)) :
    (Table.inTurn options location asked outcomes).report resource columns =
      { exitCode := if (Coordinator.lastFailure? outcomes).isSome then 1 else 0
        output := printed columns options.arrayFormat last outcomes
        errors := failureEntries resource outcomes } := by
  have location : (Table.inTurn options location asked outcomes).location =
      last.toLocation options.arrayFormat := by
    change ((asked.map fun fields => fields.toLocation options.arrayFormat).getLast?).getD _ = _
    rw [List.getLast?_map, issued]
    rfl
  have table (titles : List String) (rows : List (List String)) : renderTable titles rows =
      String.ofList ((tableLines titles rows).flatMap (· ++ ['\n'])) := by
    rw [← toList_renderTable, String.ofList_toList]
  have place : pageLine ((Coordinator.lastPage? outcomes).map Page.pagination) =
      placeText outcomes := by
    unfold placeText
    cases Coordinator.lastPage? outcomes <;> rfl
  have error : outcomes.getLast?.bind Outcome.message? = Coordinator.lastFailure? outcomes := rfl
  unfold Table.report
  rw [location]
  simp only [Table.inTurn, Coordinator.afterTurns, Coordinator.failureLines_eq,
    Coordinator.phase_last, table, place, error, failureEntries]
  -- Only the last entry and the exit code tell whether the last request failed.
  cases Coordinator.lastFailure? outcomes with
  | none => exact congrArg (Report.mk _ _) (List.append_nil _).symm
  | some message => rfl

/-- The report of a run, by what was asked for last. Nothing in it depends on the ordering. -/
theorem runWith_eq [ServerRow α]
    (endpoint : ListSource.ofParts settings.serverUrl a.resource.path settings.arrayFormat =
      .ok source) (ordering : ResponseOrdering) :
    runWith α a { settings with ordering } network =
      (Table.inTurn (α := α) ⟨settings.arrayFormat, ordering⟩ a.location
        (a.queries settings.arrayFormat)
        (source.outcomes network (a.queries settings.arrayFormat))).report a.resource
          (settings.columnsFor a.resource) := by
  have table := finalTable_eq_inTurn (α := α) a { settings with ordering } network source
  simp only at table
  simp only [runWith, endpoint, table]
  rfl

theorem runsInTurn_runWith [ServerRow α]
    (endpoint : ListSource.ofParts settings.serverUrl a.resource.path settings.arrayFormat =
      .ok source) :
    RunsInTurn α a settings network source
      (source.outcomes network (a.queries settings.arrayFormat))
      (runWith α a settings network) := by
  obtain ⟨last, issued⟩ := a.exists_getLast?_queries settings.arrayFormat
  have report (network : Network) (ordering : ResponseOrdering) :
      runWith α a { settings with ordering } network = _ :=
    (runWith_eq endpoint ordering).trans
      (report_inTurn a.resource (settings.columnsFor a.resource)
        ⟨settings.arrayFormat, ordering⟩ a.location issued _)
  have table := finalTable_eq_inTurn (α := α) a settings network source
  have own := report network settings.ordering
  exact {
    requests := by rw [table]; rfl
    count := a.length_queries settings.arrayFormat
    answers := source.comes_outcomes network (a.queries settings.arrayFormat)
    turns := by rw [table, Coordinator.run_turns]; rfl
    alone := by
      intro other same
      rw [own, ← ListSource.outcomes_congr same]
      exact report other settings.ordering
    output := by
      refine ⟨last, issued, ?_⟩
      rw [own]
    errorText := by rw [Report.errorText_eq, own]
    errorLines := by
      intro clean
      have entries := notMem_failureEntries a.resource clean
      rw [own]
      exact Report.splitOn_errorText entries
    exitCode := by rw [own]
    orderings := fun ordering => (report network ordering).trans own.symm }

theorem run_eq_runWith {arguments : List String} {surroundings : Surroundings}
    (accepted : Arguments.read arguments = .ok a)
    (loaded : Settings.load a.config (surroundings.file a.config) surroundings.lookup? =
      .ok settings) :
    run arguments surroundings network =
      runWith a.resource.Row a (settings.withArguments a) network := by
  simp only [run, accepted, loaded]
  cases a.resource with
  | projects => rfl
  | templates => rfl

/-- Every run that gets as far as its endpoint asks one to three times, in turn, and reports
what came of it. -/
theorem run_reports_in_turn {arguments : List String} {surroundings : Surroundings}
    (accepted : Arguments.read arguments = .ok a)
    (loaded : Settings.load a.config (surroundings.file a.config) surroundings.lookup? =
      .ok settings)
    (endpoint : ListSource.ofParts (settings.withArguments a).serverUrl a.resource.path
      (settings.withArguments a).arrayFormat = .ok source) :
    ∃ outcomes, RunsInTurn a.resource.Row a (settings.withArguments a) network source outcomes
      (run arguments surroundings network) := by
  rw [run_eq_runWith accepted loaded]
  exact ⟨_, runsInTurn_runWith endpoint⟩

end

/-- A first request that fails, and two more that find a row. -/
theorem run_reports_in_turn_after_early_failure :
    let arguments := ["projects", "--filter", "name=web", "--page-size=5", "--location",
      "?lang=go"]
    let surroundings : Surroundings := ⟨fun _ => .missing, fun _ => none⟩
    let network : Network := fun n _ =>
      if n = 1 then .failed ["refused"]
      else .answered ⟨200, "OK", "[0,\"\",[\x7b\"name\":\"web\",\"path\":\"/srv\"\x7d]]"⟩
    let a : Arguments := ⟨.projects, "console.toml", none, "?lang=go", [⟨"name", "web"⟩], none,
      some 5, none, none⟩
    let settings := Settings.default.withArguments a
    ∃ source outcomes, Arguments.read arguments = .ok a ∧
      Settings.load a.config (surroundings.file a.config) surroundings.lookup? =
        .ok Settings.default ∧
      ListSource.ofParts settings.serverUrl a.resource.path settings.arrayFormat = .ok source ∧
      RunsInTurn ProjectRow a settings network source outcomes
        (run arguments surroundings network) ∧
      run arguments surroundings network =
        ⟨0, "Project  Path\n-------  ----\nweb      /srv\npage 1 of 1 (1 rows, 5 per page)\n" ++
            "location: ?current=1&lang=go&name=web&pageSize=5\n",
          ["request 1 failed: list request failed: error sending request for url " ++
            "(http://127.0.0.1:8080/api/projects?lang=go): error sending request for url " ++
            "(http://127.0.0.1:8080/api/projects?lang=go): refused"]⟩ := by
  intro arguments surroundings network a settings
  have accepted : Arguments.read arguments = .ok a := by decide +kernel
  have loaded : Settings.load a.config (surroundings.file a.config) surroundings.lookup? =
      .ok Settings.default := rfl
  have endpoint : ListSource.ofParts settings.serverUrl a.resource.path settings.arrayFormat =
      .ok ⟨⟨"http", some ⟨none, "127.0.0.1", some 8080⟩, "/api/projects", none, none⟩,
        .repeated⟩ := ListSource.eq_ok_of_toOption (by decide +kernel)
  obtain ⟨outcomes, runs⟩ : ∃ outcomes, RunsInTurn ProjectRow a settings network _ outcomes
      (run arguments surroundings network) := run_reports_in_turn accepted loaded endpoint
  exact ⟨_, outcomes, accepted, loaded, endpoint, runs, by decide +kernel⟩

/-- A message with a break in it can look like the failure of a request that did not fail. -/
theorem run_prints_line_of_no_failure :
    let surroundings : Surroundings := ⟨fun _ => .missing, fun _ => none⟩
    let network : Network := fun n _ => .answered ⟨200, "OK",
      if n = 1 then "[1,\"down\\nrequest 2 failed: forged\",null]" else "[0,\"\",[]]"⟩
    let source : ListSource :=
      ⟨⟨"http", some ⟨none, "127.0.0.1", some 8080⟩, "/api/projects", none, none⟩, .repeated⟩
    let outcomes : List (Outcome ProjectRow) :=
      source.outcomes network [∅, (∅ : Fields).insert "name" (.text "web")]
    let report := run ["projects", "--filter", "name=web"] surroundings network
    (ListSource.ofParts "http://127.0.0.1:8080" "/api/projects" .repeated).toOption =
        some source ∧
      outcomes.map Outcome.message? =
        [some "server rejected list request (1): down\nrequest 2 failed: forged", none] ∧
      report.exitCode = 0 ∧
      report.errorText.toList.splitOn '\n' =
        ["request 1 failed: server rejected list request (1): down".toList,
          "request 2 failed: forged".toList, []] := by
  decide +kernel

end Listing
