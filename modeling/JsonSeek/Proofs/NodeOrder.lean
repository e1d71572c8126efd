import JsonSeek.Proofs.Pruning
import Mathlib.Data.List.Nodup

/-!
# The order of nodes

A document with distinct keys lists every place once. Reducing it drops places and keeps the order
of the others: what is left is listed in the order in which it was listed before
(`placesFrom_sublist`), also where a null takes the place of what was left out.
-/

namespace JsonSeek

namespace Value

/-! ## Places -/

/-- The paths of a value that the given path led to and of everything below it, in document
order. -/
def placesFrom (path : Path) (v : Value) : List Path := (v.nodesFrom path).map Node.path

theorem placesFrom_eq (path : Path) (v : Value) :
    v.placesFrom path =
      path :: v.children.flatMap fun child => child.2.placesFrom (path ++ [child.1]) := by
  rw [placesFrom, nodesFrom_eq, List.map_cons, List.map_flatMap]
  rfl

theorem mem_placesFrom_self (path : Path) (v : Value) : path ∈ v.placesFrom path := by
  rw [placesFrom_eq]
  exact List.mem_cons_self

theorem prefix_of_mem_placesFrom {path place : Path} {v : Value}
    (inside : place ∈ v.placesFrom path) : path <+: place := by
  induction v using inductionOnChildren generalizing path with
  | step v ih =>
      rw [placesFrom_eq, List.mem_cons, List.mem_flatMap] at inside
      rcases inside with rfl | ⟨child, found, inside⟩
      · exact List.prefix_rfl
      · exact (List.prefix_append path [child.1]).trans (ih child found inside)

theorem nodup_steps_indexed (i : Nat) (items : List Value) :
    ((indexed i items).map Prod.fst).Nodup := by
  induction items generalizing i with
  | nil => exact List.nodup_nil
  | cons v rest ih =>
      rw [indexed, List.map_cons, List.nodup_cons]
      refine ⟨?_, ih (i + 1)⟩
      intro again
      obtain ⟨⟨step, part⟩, inside, same⟩ := List.mem_map.mp again
      obtain ⟨n, rfl, -⟩ := mem_indexed_iff.mp inside
      have := Segment.index.inj same
      omega

/-- No two parts of a value are reached by the same step. -/
theorem HasDistinctKeys.nodup_steps {v : Value} (distinct : v.HasDistinctKeys) :
    (v.children.map Prod.fst).Nodup := by
  cases distinct with
  | scalar leaf =>
      rw [children_of_not_isContainer leaf]
      exact List.nodup_nil
  | arr _ => exact nodup_steps_indexed 0 _
  | obj keys _ =>
      have steps := keys.map fun _ _ same => Segment.key.inj same
      rw [List.map_map] at steps
      rw [children, List.map_map]
      exact steps

/-- A document with distinct keys lists every place once. -/
theorem HasDistinctKeys.nodup_placesFrom {v : Value} (distinct : v.HasDistinctKeys) (path : Path) :
    (v.placesFrom path).Nodup := by
  induction v using inductionOnChildren generalizing path with
  | step v ih =>
      rw [placesFrom_eq, List.nodup_cons, List.nodup_flatMap]
      refine ⟨?_, fun child found => ih child found (distinct.child found) _, ?_⟩
      · intro below
        obtain ⟨child, -, inside⟩ := List.mem_flatMap.mp below
        have longer := (prefix_of_mem_placesFrom inside).length_le
        rw [List.length_append, List.length_singleton] at longer
        exact Nat.not_succ_le_self _ longer
      · refine (List.pairwise_map.mp distinct.nodup_steps).imp fun different => ?_
        intro place first second
        obtain ⟨rest, rfl⟩ := prefix_of_mem_placesFrom first
        obtain ⟨more, same⟩ := prefix_of_mem_placesFrom second
        rw [List.append_assoc, List.append_assoc] at same
        exact different (List.cons.inj (List.append_cancel_left same)).1.symm

/-- There is one node at a place. -/
theorem HasDistinctKeys.eq_of_path_eq {document : Value} (distinct : document.HasDistinctKeys)
    {x y : Node} (inX : x ∈ document.nodes) (inY : y ∈ document.nodes) (same : x.path = y.path) :
    x = y := by
  obtain ⟨path, v⟩ := x
  obtain ⟨place, w⟩ := y
  subst same
  have first := distinct.mem_nodes_iff.mp inX
  rw [distinct.mem_nodes_iff.mp inY] at first
  exact congrArg (Node.mk path) (Option.some.inj first).symm

end Value

namespace Prune

open Value

variable {targets : List Path}

/-! ## What is left keeps its keys apart -/

theorem reduceFields_eq_filterMap (gaps : Gaps) (targets : List Path)
    (fields : List (String × Value)) :
    reduceFields gaps targets fields =
      fields.filterMap fun field =>
        (reduce gaps (below (.key field.1) targets) field.2).map (Prod.mk field.1) := by
  induction fields with
  | nil => rfl
  | cons field rest ih =>
      rw [reduceFields, List.filterMap_cons, ih]
      cases reduce gaps (below (.key field.1) targets) field.2 <;> rfl

theorem keys_reduceFields_sublist (gaps : Gaps) (targets : List Path)
    (fields : List (String × Value)) :
    ((reduceFields gaps targets fields).map Prod.fst).Sublist (fields.map Prod.fst) := by
  induction fields with
  | nil => exact List.Sublist.refl _
  | cons field rest ih =>
      rw [reduceFields, List.map_cons]
      cases reduce gaps (below (.key field.1) targets) field.2 with
      | none => exact ih.cons _
      | some part => exact ih.cons_cons _

theorem mem_padded {parts : List (Option Value)} {w : Value} (inside : w ∈ padded parts) :
    some w ∈ parts ∨ w = .null := by
  obtain ⟨n, found⟩ := List.mem_iff_getElem?.mp inside
  rcases getElem?_padded_iff.mp found with kept | ⟨null, -, -⟩
  · exact Or.inl (List.mem_of_getElem? kept)
  · exact Or.inr null

/-- What is left of a value with distinct keys has distinct keys. -/
theorem hasDistinctKeys_of_reduce {v part : Value} (distinct : v.HasDistinctKeys)
    (reduced : reduce .filled targets v = some part) : part.HasDistinctKeys := by
  induction v using inductionOnChildren generalizing targets part with
  | step v ih =>
      by_cases wanted : [] ∈ targets
      · rw [reduce_of_mem wanted] at reduced
        rwa [← Option.some.inj reduced]
      · rcases reduce_cases reduced wanted with ⟨fields, rfl, rfl, -⟩ | ⟨items, rfl, rfl, -⟩
        · cases distinct with
          | scalar leaf => cases leaf
          | obj keys inside =>
              refine .obj (keys.sublist (keys_reduceFields_sublist _ _ _)) fun field kept => ?_
              rw [reduceFields_eq_filterMap] at kept
              obtain ⟨⟨key, w⟩, present, same⟩ := List.mem_filterMap.mp kept
              obtain ⟨left, reducedField, rfl⟩ := Option.map_eq_some_iff.mp same
              exact ih _ (mem_children_obj_iff.mpr ⟨key, rfl, present⟩) (inside _ present)
                reducedField
        · refine .arr fun w kept => ?_
          rcases mem_padded kept with kept | rfl
          · obtain ⟨child, present, reducedItem⟩ := List.mem_map.mp kept
            exact ih child present (distinct.child present) reducedItem
          · exact .scalar rfl

/-! ## What is left keeps its order -/

/-- What is left of a part is listed in the order of the part. -/
def KeepsOrder (targets : List Path) (path : Path) (child : Segment × Value) : Prop :=
  ∀ part, reduce .filled (below child.1 targets) child.2 = some part →
    (part.placesFrom (path ++ [child.1])).Sublist (child.2.placesFrom (path ++ [child.1]))

theorem placesFrom_reduceFields_sublist {path : Path} {fields : List (String × Value)}
    (keeps : ∀ field ∈ fields, KeepsOrder targets path (.key field.1, field.2)) :
    ((Value.obj (reduceFields .filled targets fields)).placesFrom path).Sublist
      ((Value.obj fields).placesFrom path) := by
  simp only [placesFrom_eq path, children, List.flatMap_map, List.cons_sublist_cons]
  induction fields with
  | nil => exact List.Sublist.refl _
  | cons field rest ih =>
      have later := ih fun field inside => keeps field (List.mem_cons_of_mem _ inside)
      rw [reduceFields, List.flatMap_cons]
      cases reduced : reduce .filled (below (.key field.1) targets) field.2 with
      | none => exact later.trans (List.sublist_append_right _ _)
      | some part => exact (keeps field List.mem_cons_self part reduced).append later

theorem placesFrom_padded_sublist {path : Path} {i : Nat} {items : List Value}
    (keeps : ∀ child ∈ indexed i items, KeepsOrder targets path child) :
    ((indexed i (padded (keptItems targets i items))).flatMap fun child =>
        child.2.placesFrom (path ++ [child.1])).Sublist
      ((indexed i items).flatMap fun child => child.2.placesFrom (path ++ [child.1])) := by
  induction items generalizing i with
  | nil => exact List.Sublist.refl _
  | cons v rest ih =>
      rw [indexed, List.forall_mem_cons] at keeps
      have later := ih keeps.2
      have first : keptItems targets i (v :: rest) =
          reduce .filled (below (.index i) targets) v :: keptItems targets (i + 1) rest := rfl
      rw [first, padded, indexed, List.flatMap_cons]
      split
      · exact List.nil_sublist _
      · refine List.Sublist.append ?_ later
        cases reduced : reduce .filled (below (.index i) targets) v with
        | none => exact List.singleton_sublist.mpr (mem_placesFrom_self _ v)
        | some part => exact keeps.1 part reduced

/-- Whatever is left of a value stands in the order in which it stood before. -/
theorem placesFrom_sublist {v part : Value} (reduced : reduce .filled targets v = some part)
    (path : Path) : (part.placesFrom path).Sublist (v.placesFrom path) := by
  induction v using inductionOnChildren generalizing targets part path with
  | step v ih =>
      have keeps : ∀ child ∈ v.children, KeepsOrder targets path child :=
        fun child inside _ reducedChild => ih child inside reducedChild _
      by_cases wanted : [] ∈ targets
      · rw [reduce_of_mem wanted] at reduced
        rw [Option.some.inj reduced]
      · rcases reduce_cases reduced wanted with ⟨fields, rfl, rfl, -⟩ | ⟨items, rfl, rfl, -⟩
        · exact placesFrom_reduceFields_sublist fun field inside =>
            keeps _ (mem_children_obj_iff.mpr ⟨field.1, rfl, inside⟩)
        · rw [placesFrom_eq path, placesFrom_eq path]
          exact (placesFrom_padded_sublist keeps).cons_cons _

end Prune

end JsonSeek
