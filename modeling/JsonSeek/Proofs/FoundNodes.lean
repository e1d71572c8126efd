import JsonSeek.Proofs.QueryMeaning
import JsonSeek.Proofs.TextSearch

/-!
# Results are nodes

Whatever the mode, a result of a search describes a node of the document: its segments lead to its
value, and both texts are the spellings of the segments.
-/

namespace JsonSeek

namespace Value

/-- A part of a node is a node. -/
theorem HasDistinctKeys.child_mem_nodes {document : Value} (distinct : document.HasDistinctKeys)
    {node : Node} (inside : node ∈ document.nodes) {step : Segment} {part : Value}
    (child : (step, part) ∈ node.value.children) : node.child step part ∈ document.nodes := by
  have leads := distinct.mem_nodes_iff.mp inside
  have stepped := (distinct.get? leads).step?_eq_some_iff.mpr child
  rw [distinct.mem_nodes_iff, Node.child, get?_concat, leads]
  exact stepped

end Value

namespace Query

open Value

variable {document : Value}

/-- A token other than the root picks nodes out of nodes. -/
theorem picks_subset_nodes (distinct : document.HasDistinctKeys) {token : Token}
    (below : token ≠ .root) {node : Node} (inside : node ∈ document.nodes) :
    token.picks node ⊆ document.nodes := by
  have stepped (step : Segment) :
      (node.value.step? step).toList.map (node.child step) ⊆ document.nodes := by
    intro picked found
    obtain ⟨part, leads, rfl⟩ := List.mem_map.mp found
    exact distinct.child_mem_nodes inside (mem_children_of_step? (Option.mem_toList.mp leads))
  cases token with
  | root => exact absurd rfl below
  | property name => exact stepped _
  | index i => exact stepped _
  | wildcard =>
      intro picked found
      obtain ⟨⟨step, part⟩, child, rfl⟩ := List.mem_map.mp found
      exact distinct.child_mem_nodes inside child
  | descent =>
      intro picked found
      have leads := distinct.mem_nodes_iff.mp inside
      obtain ⟨rest, place, behind⟩ := (distinct.get? leads).mem_nodesFrom_iff.mp found
      rw [distinct.mem_nodes_iff, place, get?_append, leads]
      exact behind
  | filter expression condition =>
      intro picked found
      obtain ⟨path, v⟩ := node
      cases condition with
      | none => cases v <;> cases found
      | some condition =>
          cases v with
          | arr items =>
              obtain ⟨⟨step, part⟩, child, rfl⟩ := List.mem_map.mp found
              exact distinct.child_mem_nodes inside (List.mem_filter.mp child).1
          | _ => cases found
  | slice start stop step =>
      intro picked found
      obtain ⟨path, v⟩ := node
      cases v with
      | arr items =>
          obtain ⟨i, -, found⟩ := List.mem_flatMap.mp found
          obtain ⟨part, element, rfl⟩ := List.mem_map.mp found
          exact distinct.child_mem_nodes inside
            (mem_children_arr_iff.mpr ⟨i, rfl, Option.mem_toList.mp element⟩)
      | _ => cases found

theorem compose_subset_nodes (distinct : document.HasDistinctKeys) {tokens : List Token}
    (below : .root ∉ tokens) {nodes : List Node} (inside : nodes ⊆ document.nodes) :
    compose tokens nodes ⊆ document.nodes := by
  induction tokens generalizing nodes with
  | nil => exact inside
  | cons token rest ih =>
      rw [List.mem_cons, not_or] at below
      refine ih below.2 fun picked found => ?_
      obtain ⟨node, present, found⟩ := List.mem_flatMap.mp found
      exact picks_subset_nodes distinct (Ne.symm below.1) (inside present) found

theorem root_notMem_readDotted (s : List Char) : .root ∉ (readDotted s).1 := by
  unfold readDotted
  split
  · simp
  · simp only
    split <;> simp

theorem readSlice_ne_root (body : List Char) : readSlice body ≠ .root := by
  unfold readSlice
  split <;> simp

theorem readBracket_ne_root (body : List Char) : readBracket body ≠ some .root := by
  unfold readBracket
  split
  · simp
  · split
    · simp
    · split
      · simp [readSlice_ne_root]
      · split
        · simp
        · split
          · split <;> simp
          · simp

/-- Only the first token of a query is the root. -/
theorem root_notMem_readTokens (fuel : Nat) (s : List Char) : .root ∉ readTokens fuel s := by
  induction fuel generalizing s with
  | zero => simp [readTokens]
  | succ fuel ih =>
      unfold readTokens
      split
      · simp
      · simp [ih]
      · simp [ih, root_notMem_readDotted]
      · simp [ih, root_notMem_readDotted]
      · simp [ih, Option.mem_toList, readBracket_ne_root]
      · exact ih _

theorem exists_of_tokenize {query : String} {tokens : List Token}
    (read : tokenize query = .ok tokens) : ∃ rest, tokens = .root :: rest ∧ .root ∉ rest := by
  unfold tokenize at read
  split at read
  · cases read
    exact ⟨_, rfl, root_notMem_readTokens _ _⟩
  · cases read

/-- A query that can be run selects what its tokens pick, one after the other. -/
theorem exists_compose_of_run {query : String} {found : List Node}
    (ran : run query document = .ok found) :
    ∃ rest, tokenize query = .ok (.root :: rest) ∧ .root ∉ rest ∧
      found = compose rest [⟨[], document⟩] := by
  unfold run at ran
  cases read : tokenize query with
  | error unrooted =>
      rw [read] at ran
      cases ran
  | ok tokens =>
      obtain ⟨rest, rfl, below⟩ := exists_of_tokenize read
      refine ⟨rest, rfl, below, ?_⟩
      simp only [read, select_eq_ite] at ran
      cases passed : passes (.root :: rest) [⟨[], document⟩] with
      | false =>
          rw [passed] at ran
          cases ran
      | true =>
          rw [passed] at ran
          exact (Except.ok.inj ran).symm

theorem whole_subset_nodes (distinct : document.HasDistinctKeys) :
    [⟨[], document⟩] ⊆ document.nodes := by
  intro node inside
  rw [List.mem_singleton.mp inside, distinct.mem_nodes_iff]
  rfl

/-- A query selects nodes of the document. -/
theorem run_subset_nodes (distinct : document.HasDistinctKeys) {query : String} {found : List Node}
    (selected : run query document = .ok found) : found ⊆ document.nodes := by
  obtain ⟨rest, -, below, rfl⟩ := exists_compose_of_run selected
  exact compose_subset_nodes distinct below (whole_subset_nodes distinct)

end Query

namespace Search

variable {o : Options} {document : Value}

/-- A result describes a node. -/
def Result.Describes (r : Result) (node : Node) : Prop :=
  r.segments = node.path ∧ r.value = node.value ∧ r.path = node.path.canonical ∧
    r.jsonPath = node.path.rooted

theorem describes_ofNode (node : Node) (score : Binary64) (hits : Hits) (withAncestors : Bool) :
    (Result.ofNode node score hits withAncestors).Describes node :=
  ⟨rfl, rfl, rfl, rfl⟩

theorem mem_grouped_iff {α : Type} {key : α → Nat} {l : List α} {a : α} :
    a ∈ grouped key l ↔ a ∈ l ∧ 0 < key a ∧ key a ≤ 3 := by
  simp only [grouped, List.mem_flatMap, List.mem_filter, decide_eq_true_eq]
  constructor
  · rintro ⟨n, small, inside, rfl⟩
    simp at small
    exact ⟨inside, by omega⟩
  · rintro ⟨inside, small⟩
    exact ⟨key a, by simp; omega, inside, rfl⟩

theorem mem_nodes_of_mem_firstHits {m : Match.Matcher} {node : Node}
    (found : node ∈ firstHits m o document) : node ∈ document.nodes :=
  (List.mem_filter.mp (List.mem_filter.mp (List.mem_of_mem_take found)).1).1

/-- Every result of a search describes a node of the document. -/
theorem exists_describes (distinct : document.HasDistinctKeys) {response : Response}
    (searched : search o document = .ok response) {r : Result} (found : r ∈ response.results) :
    ∃ node ∈ document.nodes, r.Describes node := by
  cases mode : o.mode with
  | text textMode =>
      obtain ⟨m, -, node, inside, rfl⟩ := exists_report mode searched found
      exact ⟨node, mem_nodes_of_mem_firstHits inside, describes_ofNode _ _ _ _⟩
  | jsonPath =>
      cases ran : Query.run o.query document with
      | error fault =>
          cases fault with
          | overflow e => simp [search, scan, mode, scanPaths, ran] at searched
          | unrooted e =>
              simp only [search, scan, mode, scanPaths, ran, Except.ok.injEq] at searched
              rw [← searched] at found
              simp [rank] at found
      | ok nodes =>
          simp only [search, scan, mode, scanPaths, ran, Except.ok.injEq] at searched
          rw [← searched] at found
          obtain ⟨node, inside, rfl⟩ := List.mem_map.mp (List.mem_mergeSort.mp found)
          exact ⟨node, Query.run_subset_nodes distinct ran (List.mem_of_mem_take inside),
            describes_ofNode _ _ _ _⟩

end Search

end JsonSeek
