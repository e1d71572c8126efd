import JsonSeek.Search.Run

/-!
# Searching by a path query

A search in the mode of path queries reports what the query selects, node by node and up to the
limit. All its results have the same score, so that ranking leaves them in the order of the
selection, and no option that concerns texts matters (`search_by_path_eq_take`).
-/

namespace JsonSeek.Search

variable {o : Options} {document : Value}

/-! ## Ranking equal scores -/

theorem ble_fullScore : Binary64.ble Match.fullScore Match.fullScore = true := by decide +kernel

/-- Results of the same score stay in order. -/
theorem rank_map_selected (nodes : List Node) :
    rank (nodes.map (selected o)) = nodes.map (selected o) := by
  refine List.mergeSort_of_pairwise (List.pairwise_of_forall_mem_list ?_)
  intro a inA b inB
  obtain ⟨first, -, rfl⟩ := List.mem_map.mp inA
  obtain ⟨second, -, rfl⟩ := List.mem_map.mp inB
  exact ble_fullScore

/-! ## Responses -/

/-- The nodes that a search by a path query keeps of those that the query selects. -/
def keptNodes (o : Options) (nodes : List Node) : List Node := nodes.take o.limit.toNat

/-- The response of a search by a path query that selects the given nodes. -/
def pathResponse (o : Options) (nodes : List Node) : Response where
  results := (keptNodes o nodes).map (selected o)
  statistics := .ofResults o.mode.name
    ((keptNodes o nodes).foldl (fun deepest node => max deepest node.depth) 0)
    (decide (max o.limit 0 < nodes.length)) ((keptNodes o nodes).map (selected o))
  events := [.finished]

/-- The response of a search by a text that is no path query. -/
def unrootedResponse (o : Options) : Response where
  results := []
  statistics := .ofResults o.mode.name 0 false []
  events := [.invalidQuery, .finished]

section

variable (paths : o.mode = .jsonPath)

include paths

theorem search_of_run {nodes : List Node} (ran : Query.run o.query document = .ok nodes) :
    search o document = .ok (pathResponse o nodes) := by
  have ranked := @rank_map_selected o (keptNodes o nodes)
  simp only [keptNodes] at ranked
  simp only [search, scan, paths, scanPaths, ran, cutAt, ranked, pathResponse, keptNodes,
    List.nil_append]

theorem search_of_unrooted {e : Query.Unrooted}
    (unrooted : Query.run o.query document = .error (.unrooted e)) :
    search o document = .ok (unrootedResponse o) := by
  simp [search, scan, paths, scanPaths, unrooted, unrootedResponse, rank]

theorem search_of_overflow {e : Query.Overflow}
    (failed : Query.run o.query document = .error (.overflow e)) :
    search o document = .error (.overflow e) := by
  simp [search, scan, paths, scanPaths, failed]

/-- The two ways in which a search by a path query answers. -/
theorem response_cases {response : Response} (searched : search o document = .ok response) :
    (∃ nodes, Query.run o.query document = .ok nodes ∧ response = pathResponse o nodes) ∨
      ∃ e, Query.run o.query document = .error (.unrooted e) ∧ response = unrootedResponse o := by
  cases ran : Query.run o.query document with
  | ok nodes =>
      rw [search_of_run paths ran] at searched
      exact Or.inl ⟨nodes, rfl, (Except.ok.inj searched).symm⟩
  | error fault =>
      cases fault with
      | unrooted e =>
          rw [search_of_unrooted paths ran] at searched
          exact Or.inr ⟨e, rfl, (Except.ok.inj searched).symm⟩
      | overflow e =>
          rw [search_of_overflow paths ran] at searched
          cases searched

/-- A search by a path query reports the nodes that the query selects, in order and up to the limit,
each found by its path alone and with the score one. Options that do not say which query, which
limit or whether ancestors are named leave the response as it is. -/
theorem search_by_path_eq_take {nodes : List Node}
    (ran : Query.run o.query document = .ok nodes) :
    ∃ response, search o document = .ok response ∧
      response.results = (nodes.take o.limit.toNat).map (fun node =>
        .ofNode node (.ofInt 1) { inPath := true } o.withAncestors) ∧
      ∀ other : Options, other.mode = o.mode → other.query = o.query → other.limit = o.limit →
        other.withAncestors = o.withAncestors → search other document = .ok response := by
  refine ⟨pathResponse o nodes, search_of_run paths ran, rfl, ?_⟩
  intro other mode query limit ancestors
  have ranAlike : Query.run other.query document = .ok nodes := by rw [query, ran]
  have responseAlike : pathResponse other nodes = pathResponse o nodes := by
    have selectedAlike : selected other = selected o := by
      unfold selected
      rw [ancestors]
    simp only [pathResponse, keptNodes, selectedAlike, mode, limit]
  rw [search_of_run (mode.trans paths) ranAlike, responseAlike]

end

/-- A field within a field within a field of the same name. -/
def threefold : Value := .obj [("a", .obj [("a", .obj [("a", .int 1)])])]

/-- A query with two descents that is cut off at the fourth node. It asks for arrays at the top
only, which a query by path ignores. -/
def descendingTwice : Options :=
  Request.fill .default
    { query := "$....a", mode := .jsonPath, limit := some 4, kinds := some ["array"]
      maxDepth := some 0 }

/-- A node that is selected twice is reported twice, in the order of the selection. -/
theorem search_by_path_repeats_nodes :
    descendingTwice.mode = .jsonPath ∧
      ∃ nodes, Query.run descendingTwice.query threefold = .ok nodes ∧
        nodes.map (·.path.rooted) = ["$.a", "$.a.a", "$.a.a.a", "$.a.a", "$.a.a.a", "$.a.a.a"] ∧
        ∃ response, search descendingTwice threefold = .ok response ∧
          response.results.map (·.jsonPath) = ["$.a", "$.a.a", "$.a.a.a", "$.a.a"] := by
  have selects : (Query.run descendingTwice.query threefold).toOption.map
      (List.map (·.path.rooted)) =
        some ["$.a", "$.a.a", "$.a.a.a", "$.a.a", "$.a.a.a", "$.a.a.a"] := by decide +kernel
  cases ran : Query.run descendingTwice.query threefold with
  | error fault =>
      rw [ran] at selects
      cases selects
  | ok nodes =>
      rw [ran] at selects
      have rooted := Option.some.inj selects
      obtain ⟨response, searched, results, -⟩ := search_by_path_eq_take rfl ran
      refine ⟨rfl, nodes, rfl, rooted, response, searched, ?_⟩
      have shown : response.results.map (·.jsonPath) = (nodes.map (·.path.rooted)).take 4 := by
        rw [results, List.map_map, ← List.map_take]
        rfl
      rw [shown, rooted]
      rfl

end JsonSeek.Search
