import JsonSeek.Proofs.FoundNodes
import JsonSeek.Proofs.NodeOrder

/-!
# Queries that select every node once

Every selector but the descent goes down by exactly one step, so that tokens in front of the first
descent pick nodes of one depth only. Below different nodes of one depth a descent reaches different
places, and single steps keep different places apart. So a query with at most one descent selects no
node twice (`run_selects_nodes_once`); with a second descent one place can be reached in two ways.
-/

namespace JsonSeek.Query

open Value

variable {document : Value}

/-! ## Nodes apart from each other -/

/-- No two of the nodes stand at the same place. -/
def AreApart (nodes : List Node) : Prop := (nodes.map Node.path).Nodup

/-- All the nodes stand at the same depth. -/
def AreLevel (nodes : List Node) : Prop := ∃ depth, ∀ node ∈ nodes, node.depth = depth

/-- What is picked from nodes apart from each other is apart if it is for each node, and if
different nodes lead to different places. -/
theorem AreApart.flatMap {nodes : List Node} (apart : AreApart nodes) {pick : Node → List Node}
    (each : ∀ node ∈ nodes, AreApart (pick node))
    (separate : ∀ x ∈ nodes, ∀ y ∈ nodes, ∀ u ∈ pick x, ∀ w ∈ pick y,
      u.path = w.path → x.path = y.path) :
    AreApart (nodes.flatMap pick) := by
  rw [AreApart, List.map_flatMap, List.nodup_flatMap]
  refine ⟨each, (List.pairwise_map.mp apart).imp_of_mem fun {x y} inX inY different => ?_⟩
  intro place first second
  obtain ⟨u, picked, rfl⟩ := List.mem_map.mp first
  obtain ⟨w, pickedToo, same⟩ := List.mem_map.mp second
  exact different (separate x inX y inY u picked w pickedToo same.symm)

/-! ## Single steps -/

/-- The token goes down by one step. -/
def Token.IsStep (token : Token) : Prop := token ≠ .root ∧ token ≠ .descent

/-- The parts of the elements at several indices, with the steps that lead to them. -/
theorem nodup_steps_of_indices (items : List Value) {indices : List Nat}
    (increasing : indices.Pairwise (· < ·)) :
    ((indices.flatMap fun i : Nat => items[i]?.toList.map fun part => (Segment.index i, part)).map
      Prod.fst).Nodup := by
  have order := increasing.imp fun less => Nat.ne_of_lt less
  rw [List.map_flatMap, List.nodup_flatMap]
  refine ⟨fun i _ => ?_, order.imp fun {i j} different => ?_⟩
  · cases items[i]? <;> simp
  · intro step first second
    simp only [List.map_map, List.mem_map, Function.comp_apply] at first second
    obtain ⟨-, -, rfl⟩ := first
    obtain ⟨-, -, same⟩ := second
    exact different (Int.ofNat.inj (Segment.index.inj same)).symm

/-- A single step leads from a node to some of its parts, to each by a step of its own. -/
theorem Token.IsStep.exists_parts {token : Token} (single : token.IsStep) {node : Node}
    (distinct : node.value.HasDistinctKeys) :
    ∃ parts : List (Segment × Value), (parts.map Prod.fst).Nodup ∧
      token.picks node = parts.map fun child => node.child child.1 child.2 := by
  have stepped (step : Segment) :
      ∃ parts : List (Segment × Value), (parts.map Prod.fst).Nodup ∧
        (node.value.step? step).toList.map (node.child step) =
          parts.map fun child => node.child child.1 child.2 := by
    refine ⟨(node.value.step? step).toList.map (Prod.mk step), ?_, ?_⟩
    · cases node.value.step? step <;> simp
    · rw [List.map_map]
      rfl
  obtain ⟨path, v⟩ := node
  cases token with
  | root => exact absurd rfl single.1
  | descent => exact absurd rfl single.2
  | property name => exact stepped _
  | index i => exact stepped _
  | wildcard => exact ⟨v.children, distinct.nodup_steps, rfl⟩
  | filter expression condition =>
      cases condition with
      | none => exact ⟨[], List.nodup_nil, by cases v <;> rfl⟩
      | some condition =>
          cases v with
          | arr items =>
              exact ⟨_, distinct.nodup_steps.sublist (List.filter_sublist.map _), rfl⟩
          | _ => exact ⟨[], List.nodup_nil, rfl⟩
  | slice start stop step =>
      cases v with
      | arr items =>
          have increasing := pairwise_sliceIndices start stop step items.length
          refine ⟨_, nodup_steps_of_indices items increasing, ?_⟩
          rw [List.map_flatMap]
          simp only [Token.picks, List.map_map]
          rfl
      | _ => exact ⟨[], List.nodup_nil, rfl⟩

theorem Token.IsStep.exists_child {token : Token} (single : token.IsStep) {node picked : Node}
    (distinct : node.value.HasDistinctKeys) (found : picked ∈ token.picks node) :
    ∃ step, picked.path = node.path ++ [step] := by
  obtain ⟨parts, -, picks⟩ := single.exists_parts distinct
  rw [picks] at found
  obtain ⟨child, -, rfl⟩ := List.mem_map.mp found
  exact ⟨child.1, rfl⟩

section

variable {nodes : List Node} (distinct : document.HasDistinctKeys) (inside : nodes ⊆ document.nodes)

include distinct inside

theorem hasDistinctKeys_of_subset {node : Node} (present : node ∈ nodes) :
    node.value.HasDistinctKeys :=
  distinct.get? (distinct.mem_nodes_iff.mp (inside present))

/-- Single steps keep nodes apart. -/
theorem Token.IsStep.apart {token : Token} (single : token.IsStep) (apart : AreApart nodes) :
    AreApart (nodes.flatMap token.picks) := by
  have keys := fun node present => @hasDistinctKeys_of_subset _ _ distinct inside node present
  refine apart.flatMap (fun node present => ?_) ?_
  · obtain ⟨parts, steps, picks⟩ := single.exists_parts (keys node present)
    rw [AreApart, picks, List.map_map]
    refine List.Nodup.of_map (fun path : Path => path.getLast?) ?_
    rw [List.map_map]
    have last : (fun path : Path => path.getLast?) ∘ Node.path ∘
        (fun child : Segment × Value => node.child child.1 child.2) = some ∘ Prod.fst := by
      funext child
      exact List.getLast?_concat
    rw [last, ← List.map_map]
    exact steps.map (Option.some_injective _)
  · intro x inX y inY u picked w pickedToo same
    obtain ⟨step, first⟩ := single.exists_child (keys x inX) picked
    obtain ⟨other, second⟩ := single.exists_child (keys y inY) pickedToo
    rw [first, second] at same
    exact (List.append_inj' same rfl).1

/-- Single steps from nodes of one depth lead to nodes of one depth. -/
theorem Token.IsStep.level {token : Token} (single : token.IsStep) (level : AreLevel nodes) :
    AreLevel (nodes.flatMap token.picks) := by
  obtain ⟨depth, same⟩ := level
  refine ⟨depth + 1, fun picked found => ?_⟩
  obtain ⟨node, present, found⟩ := List.mem_flatMap.mp found
  obtain ⟨step, place⟩ :=
    single.exists_child (hasDistinctKeys_of_subset distinct inside present) found
  rw [Node.depth, place, List.length_append, List.length_singleton]
  exact congrArg (· + 1) (same node present)

/-! ## Descents -/

/-- Descents from different nodes of one depth never meet. -/
theorem apart_descent (apart : AreApart nodes) (level : AreLevel nodes) :
    AreApart (nodes.flatMap Token.descent.picks) := by
  obtain ⟨depth, same⟩ := level
  have below {x u : Node} (picked : u ∈ Token.descent.picks x) : x.path <+: u.path :=
    prefix_of_mem_placesFrom (List.mem_map_of_mem picked)
  refine apart.flatMap (fun node present => ?_) ?_
  · exact (hasDistinctKeys_of_subset distinct inside present).nodup_placesFrom node.path
  · intro x inX y inY u picked w pickedToo place
    have first := below picked
    rw [place] at first
    have alike : x.path.length = y.path.length := (same x inX).trans (same y inY).symm
    exact (List.prefix_of_prefix_length_le first (below pickedToo) (Nat.le_of_eq alike)).eq_of_length
      alike

/-- Tokens with at most one descent keep nodes apart, if those of which a descent is still to come
stand at one depth. -/
theorem apart_compose {tokens : List Token} (rootless : .root ∉ tokens)
    (once : tokens.count .descent ≤ 1) (apart : AreApart nodes)
    (level : .descent ∈ tokens → AreLevel nodes) : AreApart (compose tokens nodes) := by
  induction tokens generalizing nodes with
  | nil => exact apart
  | cons token rest ih =>
      rw [List.mem_cons, not_or] at rootless
      have within : nodes.flatMap token.picks ⊆ document.nodes := fun picked found => by
        obtain ⟨node, present, found⟩ := List.mem_flatMap.mp found
        exact picks_subset_nodes distinct (Ne.symm rootless.1) (inside present) found
      by_cases descends : token = .descent
      · subst descends
        rw [List.count_cons_self] at once
        have last : .descent ∉ rest := List.count_eq_zero.mp (by omega)
        exact ih within rootless.2 (by omega)
          (apart_descent distinct inside apart (level List.mem_cons_self))
          fun later => absurd later last
      · have single : token.IsStep := ⟨Ne.symm rootless.1, descends⟩
        rw [List.count_cons_of_ne descends] at once
        exact ih within rootless.2 once (single.apart distinct inside apart) fun later =>
          single.level distinct inside (level (List.mem_cons_of_mem _ later))

end

/-! ## Queries -/

/-- What a query selects are nodes of the document, and with at most one descent it selects none of
them twice. -/
theorem run_selects_nodes_once (distinct : document.HasDistinctKeys) {query : String}
    {found : List Node} (ran : run query document = .ok found) :
    ∃ tokens, tokenize query = .ok tokens ∧
      (∀ node ∈ found, document.get? node.path = some node.value) ∧
      (tokens.count .descent ≤ 1 → (found.map Node.path).Nodup) := by
  obtain ⟨rest, read, rootless, selected⟩ := exists_compose_of_run ran
  refine ⟨_, read, fun node inside => ?_, fun once => ?_⟩
  · exact distinct.mem_nodes_iff.mp (run_subset_nodes distinct ran inside)
  · have alone : AreApart [⟨[], document⟩] := List.nodup_singleton _
    have level : AreLevel [⟨[], document⟩] := ⟨0, by simp [Node.depth]⟩
    rw [List.count_cons_of_ne (by decide)] at once
    rw [selected]
    exact apart_compose distinct (whole_subset_nodes distinct) rootless once alone fun _ => level

/-- A second descent selects again what the first one has passed. -/
example : (run "$..*..*" (.obj [("a", .obj [("b", .obj [("c", .null)])])])).toOption.map
    (List.map (·.path.rooted)) = some ["$.a.b", "$.a.b.c", "$.a.b.c"] := by
  decide +kernel

/-- Arrays within an array, and a field beside it. -/
def boxes : Value :=
  .obj [("boxes", .arr [.arr [.int 1, .int 2], .arr [.int 3], .int 4]), ("note", .null)]

theorem hasDistinctKeys_boxes : boxes.HasDistinctKeys := by
  have first : (Value.arr [.int 1, .int 2]).HasDistinctKeys :=
    .arr (by simpa using ⟨.scalar rfl, .scalar rfl⟩)
  have second : (Value.arr [.int 3]).HasDistinctKeys := .arr (by simpa using .scalar rfl)
  have all : (Value.arr [.arr [.int 1, .int 2], .arr [.int 3], .int 4]).HasDistinctKeys :=
    .arr (by simpa using ⟨first, second, .scalar rfl⟩)
  exact .obj (by decide) (by simpa using ⟨all, .scalar rfl⟩)

/-- The slice is taken at every depth, and no element is selected twice. -/
theorem run_selects_slices_once :
    boxes.HasDistinctKeys ∧ ∃ found, run "$..[0:2]" boxes = .ok found ∧
      found.map (·.path.rooted) =
        ["$.boxes[0]", "$.boxes[1]", "$.boxes[0][0]", "$.boxes[0][1]", "$.boxes[1][0]"] ∧
      (found.map Node.path).Nodup := by
  have selects : (run "$..[0:2]" boxes).toOption.map (List.map (·.path.rooted)) =
      some ["$.boxes[0]", "$.boxes[1]", "$.boxes[0][0]", "$.boxes[0][1]", "$.boxes[1][0]"] := by
    decide +kernel
  cases ran : run "$..[0:2]" boxes with
  | error fault =>
      rw [ran] at selects
      cases selects
  | ok found =>
      rw [ran] at selects
      obtain ⟨tokens, read, -, once⟩ := run_selects_nodes_once hasDistinctKeys_boxes ran
      have single : tokens.count .descent ≤ 1 := by
        rw [← Except.ok.inj read]
        decide +kernel
      exact ⟨hasDistinctKeys_boxes, found, rfl, Option.some.inj selects, once single⟩

end JsonSeek.Query
