import JsonSeek.Proofs.NodeOrder

/-!
# Walks through a document

A walk goes down from a document and chooses one of the parts of each value by its number. The
choices say which node it ends at, also where equal values stand at several places, and the steps
on the way are the path of that node. Following paths sees the same tree
(`lookup_agrees_with_walks`): a path leads to a value exactly if a walk takes its steps and ends
there, different walks take different steps, and a path that no walk takes fails at the first step
that leads nowhere.
-/

namespace JsonSeek.Value

/-- The node at the end of a walk that goes on to the parts with these numbers, in document
order. -/
def walk? (v : Value) : (walk : List Nat) → Option Node
  | [] => some ⟨[], v⟩
  | n :: rest =>
    v.children[n]?.bind fun (step, part) =>
      (part.walk? rest).map fun node => ⟨step :: node.path, node.value⟩

section

variable {v part : Value} {walk : List Nat} {path : Path} {node : Node}

/-! ## Paths and walks -/

theorem walk?_cons_eq_some_iff {n : Nat} :
    v.walk? (n :: walk) = some node ↔
      ∃ step part below, v.children[n]? = some (step, part) ∧ part.walk? walk = some below ∧
        node = ⟨step :: below.path, below.value⟩ := by
  simp only [walk?, Option.bind_eq_some_iff, Option.map_eq_some_iff, Prod.exists]
  constructor
  · rintro ⟨step, part, child, below, further, rfl⟩
    exact ⟨step, part, below, child, further, rfl⟩
  · rintro ⟨step, part, below, child, further, rfl⟩
    exact ⟨step, part, child, below, further, rfl⟩

theorem exists_walk_of_get? (found : v.get? path = some part) :
    ∃ walk, v.walk? walk = some ⟨path, part⟩ := by
  induction path generalizing v with
  | nil =>
      cases found
      exact ⟨[], rfl⟩
  | cons step rest ih =>
      rw [get?_cons] at found
      obtain ⟨next, stepped, found⟩ := Option.bind_eq_some_iff.mp found
      obtain ⟨n, child⟩ := List.getElem?_of_mem (mem_children_of_step? stepped)
      obtain ⟨walk, walked⟩ := ih found
      exact ⟨n :: walk, walk?_cons_eq_some_iff.mpr ⟨step, next, _, child, walked, rfl⟩⟩

/-- Where keys are distinct, the steps of a walk lead to where the walk ends. -/
theorem HasDistinctKeys.get?_of_walk (distinct : v.HasDistinctKeys)
    (walked : v.walk? walk = some node) : v.get? node.path = some node.value := by
  induction walk generalizing v node with
  | nil =>
      cases walked
      rfl
  | cons n walk ih =>
      obtain ⟨step, part, below, child, further, rfl⟩ := walk?_cons_eq_some_iff.mp walked
      have inside := List.mem_of_getElem? child
      rw [get?_cons, distinct.step?_eq_some_iff.mpr inside]
      exact ih (distinct.child inside) further

/-- Two walks that take the same steps make the same choices. -/
theorem HasDistinctKeys.walk_eq_of_path_eq (distinct : v.HasDistinctKeys) {other : List Nat}
    {otherNode : Node} (walked : v.walk? walk = some node)
    (walkedToo : v.walk? other = some otherNode) (same : node.path = otherNode.path) :
    walk = other := by
  induction walk generalizing v node other otherNode with
  | nil =>
      cases walked
      cases other with
      | nil => rfl
      | cons m other =>
          obtain ⟨step, part, below, -, -, rfl⟩ := walk?_cons_eq_some_iff.mp walkedToo
          cases same
  | cons n walk ih =>
      obtain ⟨step, part, below, child, further, rfl⟩ := walk?_cons_eq_some_iff.mp walked
      cases other with
      | nil =>
          cases walkedToo
          cases same
      | cons m other =>
          obtain ⟨otherStep, otherPart, otherBelow, otherChild, furtherToo, rfl⟩ :=
            walk?_cons_eq_some_iff.mp walkedToo
          obtain ⟨rfl, samePath⟩ := List.cons.inj same
          have stepAt {k : Nat} {part : Value} (child : v.children[k]? = some (step, part)) :
              (v.children.map Prod.fst)[k]? = some step := by
            rw [List.getElem?_map, child]
            rfl
          have inside := (List.getElem?_eq_some_iff.mp (stepAt child)).1
          have sameNumber : n = m := (List.getElem?_inj inside distinct.nodup_steps).mp
            ((stepAt child).trans (stepAt otherChild).symm)
          subst sameNumber
          cases child.symm.trans otherChild
          rw [ih (distinct.child (List.mem_of_getElem? child)) further furtherToo samePath]

theorem HasDistinctKeys.lookup_eq_ok_iff_walk (distinct : v.HasDistinctKeys) :
    v.lookup path = .ok part ↔ ∃ walk, v.walk? walk = some ⟨path, part⟩ := by
  rw [lookup_eq_ok_iff]
  constructor
  · exact exists_walk_of_get?
  · rintro ⟨walk, walked⟩
    exact distinct.get?_of_walk walked

/-! ## Paths that lead nowhere -/

/-- Following two paths one after the other is following both as one, also if one of them fails. -/
theorem lookup_append (v : Value) (first second : Path) :
    v.lookup (first ++ second) = (v.lookup first).bind fun part => part.lookup second := by
  induction first generalizing v with
  | nil => rfl
  | cons step rest ih =>
      rw [List.cons_append, lookup, lookup]
      cases v.step? step with
      | none => rfl
      | some next => exact ih next

/-- A path fails at the first step that leads nowhere. -/
theorem lookup_eq_error_iff {missing : Segment} :
    v.lookup path = .error missing ↔
      ∃ before rest last, path = before ++ missing :: rest ∧ v.lookup before = .ok last ∧
        last.step? missing = none := by
  constructor
  · intro lost
    induction path generalizing v with
    | nil => cases lost
    | cons step rest ih =>
        rw [lookup] at lost
        cases stepped : v.step? step with
        | none =>
            rw [stepped] at lost
            cases lost
            exact ⟨[], rest, v, rfl, rfl, stepped⟩
        | some next =>
            rw [stepped] at lost
            obtain ⟨before, behind, last, rfl, found, nowhere⟩ := ih lost
            refine ⟨step :: before, behind, last, rfl, ?_, nowhere⟩
            rw [lookup, stepped]
            exact found
  · rintro ⟨before, rest, last, rfl, found, nowhere⟩
    rw [lookup_append, found]
    change last.lookup (missing :: rest) = _
    rw [lookup, nowhere]

theorem HasDistinctKeys.step?_eq_none_iff {step : Segment} (distinct : v.HasDistinctKeys) :
    v.step? step = none ↔ ∀ part, (step, part) ∉ v.children := by
  rw [Option.eq_none_iff_forall_ne_some]
  exact forall_congr' fun part => not_congr distinct.step?_eq_some_iff

/-- A path fails where a walk takes its first steps, but no part is reached by the next one. -/
theorem HasDistinctKeys.lookup_eq_error_iff_walk (distinct : v.HasDistinctKeys)
    {missing : Segment} :
    v.lookup path = .error missing ↔
      ∃ before rest walk last, path = before ++ missing :: rest ∧
        v.walk? walk = some ⟨before, last⟩ ∧ ∀ part, (missing, part) ∉ last.children := by
  rw [lookup_eq_error_iff]
  constructor
  · rintro ⟨before, rest, last, rfl, found, nowhere⟩
    have below := distinct.get? (lookup_eq_ok_iff.mp found)
    obtain ⟨walk, walked⟩ := distinct.lookup_eq_ok_iff_walk.mp found
    exact ⟨before, rest, walk, last, rfl, walked, below.step?_eq_none_iff.mp nowhere⟩
  · rintro ⟨before, rest, walk, last, rfl, walked, nowhere⟩
    have found := distinct.get?_of_walk walked
    have below := distinct.get? found
    exact ⟨before, rest, last, rfl, lookup_eq_ok_iff.mpr found,
      below.step?_eq_none_iff.mpr nowhere⟩

/-- A path fails exactly if no walk takes its steps. -/
theorem HasDistinctKeys.exists_lookup_eq_error_iff (distinct : v.HasDistinctKeys) :
    (∃ missing, v.lookup path = .error missing) ↔
      ∀ walk part, v.walk? walk ≠ some ⟨path, part⟩ := by
  constructor
  · rintro ⟨missing, lost⟩ walk part walked
    have found := distinct.lookup_eq_ok_iff_walk.mpr ⟨walk, walked⟩
    cases lost.symm.trans found
  · intro noWalk
    cases looked : v.lookup path with
    | error missing => exact ⟨missing, rfl⟩
    | ok part =>
        obtain ⟨walk, walked⟩ := distinct.lookup_eq_ok_iff_walk.mp looked
        exact absurd walked (noWalk walk part)

end

/-! ## One tree -/

/-- Following paths in a document sees the same tree as walking through it. -/
structure IsOneTree (document : Value) : Prop where
  /-- A path leads to a value exactly if a walk takes its steps and ends there. -/
  found_iff : ∀ path part, document.lookup path = .ok part ↔
    ∃ walk, document.walk? walk = some ⟨path, part⟩
  lost_iff : ∀ path, (∃ missing, document.lookup path = .error missing) ↔
    ∀ walk part, document.walk? walk ≠ some ⟨path, part⟩
  /-- The step that is reported as missing is the first one that no part is reached by. -/
  missing_iff : ∀ path missing, document.lookup path = .error missing ↔
    ∃ before rest walk last, path = before ++ missing :: rest ∧
      document.walk? walk = some ⟨before, last⟩ ∧ ∀ part, (missing, part) ∉ last.children
  /-- The nodes at the ends of two walks have the same path exactly if they are the same node. -/
  path_eq_iff : ∀ walk other node otherNode, document.walk? walk = some node →
    document.walk? other = some otherNode → (node.path = otherNode.path ↔ walk = other)
  listed_iff : ∀ node, node ∈ document.nodes ↔ ∃ walk, document.walk? walk = some node
  listed_once : (document.nodes.map Node.path).Nodup
  append : ∀ first second, document.lookup (first ++ second) =
    (document.lookup first).bind fun part => part.lookup second
  /-- Two paths, one after the other, fail exactly if the first one fails or the second one does
  from where the first one leads. -/
  append_lost_iff : ∀ first second,
    (∃ missing, document.lookup (first ++ second) = .error missing) ↔
      (∃ missing, document.lookup first = .error missing) ∨
        ∃ part missing, document.lookup first = .ok part ∧ part.lookup second = .error missing

/-- In a document with distinct keys, following paths and walking see the same tree. -/
theorem lookup_agrees_with_walks {document : Value} (distinct : document.HasDistinctKeys) :
    document.IsOneTree where
  found_iff _ _ := distinct.lookup_eq_ok_iff_walk
  lost_iff _ := distinct.exists_lookup_eq_error_iff
  missing_iff _ _ := distinct.lookup_eq_error_iff_walk
  path_eq_iff := by
    intro walk other node otherNode walked walkedToo
    constructor
    · exact distinct.walk_eq_of_path_eq walked walkedToo
    · rintro rfl
      cases walked.symm.trans walkedToo
      rfl
  listed_iff := by
    rintro ⟨path, part⟩
    rw [distinct.mem_nodes_iff, ← lookup_eq_ok_iff]
    exact distinct.lookup_eq_ok_iff_walk
  listed_once := distinct.nodup_placesFrom []
  append := lookup_append document
  append_lost_iff := by
    intro first second
    rw [lookup_append]
    cases document.lookup first with
    | error missing => simp [Except.bind]
    | ok part => simp [Except.bind]

/-- A document with two equal numbers, one inside an array. -/
def twoTens : Value := .obj [("a", .arr [.int 10, .null]), ("", .int 10)]

/-- Each of the numbers has a path and a walk of its own, and an array has no element before its
first one. -/
theorem lookup_agrees_with_walks_in_twoTens :
    twoTens.HasDistinctKeys ∧
      twoTens.lookup [.key "a", .index 0] = .ok (.int 10) ∧
      twoTens.lookup [.key ""] = .ok (.int 10) ∧
      (∀ walk, twoTens.walk? walk = some ⟨[.key ""], .int 10⟩ → walk = [1]) ∧
      twoTens.lookup [.key "a", .index (-1), .key "b"] = .error (.index (-1)) := by
  have distinct : twoTens.HasDistinctKeys := by
    refine .obj (by decide) ?_
    rw [List.forall_mem_cons, List.forall_mem_singleton]
    refine ⟨.arr ?_, .scalar rfl⟩
    rw [List.forall_mem_cons, List.forall_mem_singleton]
    exact ⟨.scalar rfl, .scalar rfl⟩
  have tree := lookup_agrees_with_walks distinct
  refine ⟨distinct, (tree.found_iff _ _).mpr ⟨[0, 0], rfl⟩, (tree.found_iff _ _).mpr ⟨[1], rfl⟩,
    ?_, ?_⟩
  · intro walk walked
    exact (tree.path_eq_iff walk [1] _ ⟨[.key ""], .int 10⟩ walked rfl).mp rfl
  · refine (tree.missing_iff _ _).mpr ⟨[.key "a"], [.key "b"], [0], _, rfl, rfl, ?_⟩
    intro part inside
    obtain ⟨n, same, -⟩ := mem_children_arr_iff.mp inside
    cases same

end JsonSeek.Value
