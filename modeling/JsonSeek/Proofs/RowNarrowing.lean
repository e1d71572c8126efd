import JsonSeek.Proofs.PathSearch
import JsonSeek.Proofs.TextSearch
import JsonSeek.Search.FilterRow

/-!
# Rows that name kinds

Filter rows that name kinds are meant to narrow what is reported to these kinds. They do so
whenever the row that decides the query is matched against texts. A path query is taken over alone,
so that it reports whatever it selects, of any kind (`rows_narrow_text_searches`).
-/

namespace JsonSeek.Search

variable {rows : List FilterRow} {row : FilterRow} {request : Request}

namespace FilterRow

/-- Whether a row asks for a path query. -/
def isPathQuery (row : FilterRow) : Bool := row.field == .jsonPath || row.operator == .jsonPath

/-- Whether a row narrows a search to a kind. -/
def namesKind (row : FilterRow) : Bool := row.field == .kind && row.isFilled

theorem mem_kindNames_iff {name : String} :
    name ∈ kindNames rows ↔ ∃ row ∈ rows, row.namesKind = true ∧ row.value = name := by
  simp only [kindNames, namesKind, List.mem_map, List.mem_filter, and_assoc]

/-- The row that decides the query. -/
theorem exists_primary (asked : toRequest? rows = some request) :
    ∃ row, rows.find? isPrimary = some row := by
  obtain ⟨row, found, -⟩ := Option.map_eq_some_iff.mp asked
  exact ⟨row, found⟩

/-- A path query is asked for by its row alone. -/
theorem toRequest?_of_isPathQuery (decides : rows.find? isPrimary = some row)
    (path : row.isPathQuery = true) :
    toRequest? rows = some { query := row.value, mode := .jsonPath } := by
  have asks : row.field = .jsonPath ∨ row.operator = .jsonPath := by
    simpa [isPathQuery] using path
  rw [toRequest?, decides, Option.map_some, if_pos asks]

/-- The kinds that a text query is narrowed to are those that the rows name. -/
theorem kinds_of_toRequest? (asked : toRequest? rows = some request)
    (decides : rows.find? isPrimary = some row) (text : row.isPathQuery = false)
    (narrows : ∃ row ∈ rows, row.namesKind = true) :
    (∃ mode, request.mode = .text mode) ∧ request.kinds = some (kindNames rows) := by
  have asks : ¬ (row.field = .jsonPath ∨ row.operator = .jsonPath) := by
    simpa [isPathQuery] using text
  have some_kind : (kindNames rows).isEmpty = false := by
    obtain ⟨row, inside, names⟩ := narrows
    exact List.isEmpty_eq_false_iff_exists_mem.mpr
      ⟨row.value, mem_kindNames_iff.mpr ⟨row, inside, names, rfl⟩⟩
  rw [toRequest?, decides, Option.map_some, if_neg asks] at asked
  obtain rfl := Option.some.inj asked
  exact ⟨⟨_, rfl⟩, by simp [some_kind]⟩

end FilterRow

/-- A text search reports only kinds that its options allow. -/
theorem allows_of_mem_results {o : Options} {document : Value} {mode : Match.TextMode}
    (texts : o.mode = .text mode) {response : Response}
    (searched : search o document = .ok response) {r : Result} (found : r ∈ response.results) :
    ∃ kind : Kind, r.kind = kind.name ∧ o.allows kind = true := by
  obtain ⟨m, -, node, inside, rfl⟩ := exists_report texts searched found
  exact ⟨node.value.kind, rfl, (Bool.and_eq_true_iff.mp (isHit_of_mem_firstHits inside)).1⟩

/-- The nodes that a path query reports, whatever their kinds. -/
theorem map_pathResponse_results (o : Options) (nodes : List Node) :
    (pathResponse o nodes).results.map (fun r => (r.segments, r.kind)) =
      (nodes.take o.limit.toNat).map fun node => (node.path, node.value.kind.name) := by
  simp only [pathResponse, keptNodes, List.map_map]
  rfl

/-- If some of the rows of a search name kinds and the row that decides the query is matched against
texts, then every result has a kind that is named. If that row is a path query, the other rows do
not matter, and the results are all that the query selects up to the limit. -/
theorem rows_narrow_text_searches (asked : FilterRow.toRequest? rows = some request)
    (narrows : ∃ row ∈ rows, row.namesKind = true) (settings : Settings) (document : Value) :
    ∃ row, rows.find? FilterRow.isPrimary = some row ∧
      (row.isPathQuery = false → ∀ response,
        search (request.fill settings) document = .ok response →
        ∀ r ∈ response.results, ∃ row ∈ rows, row.namesKind = true ∧ row.value = r.kind) ∧
      (row.isPathQuery = true → FilterRow.toRequest? [row] = some request ∧
        ∀ nodes, Query.run row.value document = .ok nodes →
          ∃ response, search (request.fill settings) document = .ok response ∧
            response.results.map (fun r => (r.segments, r.kind)) =
              (nodes.take settings.resultLimit.toNat).map fun node =>
                (node.path, node.value.kind.name)) := by
  obtain ⟨row, decides⟩ := FilterRow.exists_primary asked
  refine ⟨row, decides, fun text response searched r found => ?_, fun path => ?_⟩
  · obtain ⟨⟨mode, texts⟩, kinds⟩ := FilterRow.kinds_of_toRequest? asked decides text narrows
    obtain ⟨kind, same, allowed⟩ :=
      allows_of_mem_results (o := request.fill settings) texts searched found
    have listed : kind.name ∈ FilterRow.kindNames rows := by
      simpa [Options.allows, Request.fill, kinds] using allowed
    rw [same]
    exact FilterRow.mem_kindNames_iff.mp listed
  · rw [FilterRow.toRequest?_of_isPathQuery decides path] at asked
    obtain rfl := Option.some.inj asked
    have alone : [row].find? FilterRow.isPrimary = some row := by
      rw [List.find?_singleton, if_pos (List.find?_some decides)]
    exact ⟨FilterRow.toRequest?_of_isPathQuery alone path, fun nodes ran =>
      ⟨_, search_of_run rfl ran, map_pathResponse_results _ nodes⟩⟩

/-- A search for a text, narrowed to numbers and strings. -/
def narrowedText : List FilterRow :=
  [{ field := .kind, value := "number" }, { value := "x", caseSensitive := true },
    { field := .kind, value := "string" }]

/-- A document in which an array, a string in it and a number are found by that text. -/
def threeKinds : Value := .obj [("ax", .arr [.str "bx"]), ("x", .int 1)]

/-- The request of these rows. -/
def narrowedRequest : Request where
  query := "x"
  caseSensitive := some true
  inKeys := some true
  inValues := some true
  inPaths := some false
  kinds := some ["number", "string"]

/-- The array is not reported. -/
theorem rows_narrow_contained_text :
    FilterRow.toRequest? narrowedText = some narrowedRequest ∧
      (∃ row ∈ narrowedText, row.namesKind = true) ∧
      ∃ response, search (narrowedRequest.fill .default) threeKinds = .ok response ∧
        response.results.map (·.jsonPath) = ["$.ax[0]", "$.x"] ∧
        ∀ r ∈ response.results,
          ∃ row ∈ narrowedText, row.namesKind = true ∧ row.value = r.kind := by
  have asked : FilterRow.toRequest? narrowedText = some narrowedRequest := rfl
  have narrows : ∃ row ∈ narrowedText, row.namesKind = true := ⟨_, List.mem_cons_self, rfl⟩
  obtain ⟨row, decides, text, -⟩ := rows_narrow_text_searches asked narrows .default threeKinds
  have isText : row.isPathQuery = false := by
    cases decides
    rfl
  have runs : ¬ BreaksDown (.simple true ['x']) (narrowedRequest.fill .default) threeKinds :=
    not_breaksDown Match.TextMode.noConfusion
  have searched := search_of_not_breaksDown (o := narrowedRequest.fill .default) rfl rfl runs
  exact ⟨asked, narrows, _, searched, by decide +kernel, text isText _ searched⟩

/-- A path query, and a row that names strings. -/
def narrowedPath : List FilterRow :=
  [{ field := .jsonPath, operator := .jsonPath, value := "$.*" },
    { field := .kind, value := "string" }]

/-- A path query reports a number although only strings were named. -/
theorem rows_do_not_narrow_path_query :
    ∃ request, FilterRow.toRequest? narrowedPath = some request ∧
      (∃ row ∈ narrowedPath, row.namesKind = true) ∧
      ∃ response, search (request.fill .default) (.obj [("a", .int 1)]) = .ok response ∧
        ∃ r ∈ response.results,
          ¬ ∃ row ∈ narrowedPath, row.namesKind = true ∧ row.value = r.kind := by
  have selects : (Query.run "$.*" (.obj [("a", .int 1)])).toOption.map
      (List.map fun node => (node.path, node.value.kind.name)) =
        some [([.key "a"], "number")] := by decide +kernel
  cases ran : Query.run "$.*" (.obj [("a", .int 1)]) with
  | error fault =>
      rw [ran] at selects
      cases selects
  | ok nodes =>
      rw [ran] at selects
      have first : ([.key "a"], "number") ∈ (pathResponse
          (Request.fill .default { query := "$.*", mode := .jsonPath }) nodes).results.map
            fun r => (r.segments, r.kind) := by
        rw [map_pathResponse_results, List.map_take, Option.some.inj selects]
        exact List.mem_cons_self
      obtain ⟨r, found, same⟩ := List.mem_map.mp first
      refine ⟨_, rfl, ⟨_, List.mem_cons_of_mem _ List.mem_cons_self, rfl⟩, _,
        search_of_run rfl ran, r, found, ?_⟩
      have number : r.kind = "number" := (Prod.mk.inj same).2
      rw [number]
      decide +kernel

end JsonSeek.Search
