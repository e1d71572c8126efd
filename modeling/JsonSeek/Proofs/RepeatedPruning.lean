import JsonSeek.Proofs.Pruning

/-!
# Reducing a document again

A document that was reduced to results stays as it is when it is reduced to them once more
(`toResults_again`), also where some of them are not to be found in it. The nulls that fill gaps are
left out again, for none of them is a result itself, and the same gaps are filled with new ones. An
empty container that took the place of a document has nothing to lose.
-/

namespace JsonSeek.Prune

open Value

variable {gaps : Gaps} {targets : List Path}

/-! ## Values of which nothing is left -/

/-- A value of which nothing is left is not wanted itself. -/
theorem notMem_of_reduce_eq_none {v : Value} (nothing : reduce gaps targets v = none) :
    [] ∉ targets := by
  intro wanted
  rw [reduce_of_mem wanted] at nothing
  cases nothing

theorem reduce_null (through : [] ∉ targets) : reduce gaps targets .null = none := by
  simp [reduce, through]

theorem reduce_emptied (through : [] ∉ targets) (document : Value) :
    reduce gaps targets (emptied document) = none := by
  cases document <;> simp [emptied, reduce, reduceFields, reduceItems, through]

/-! ## A second time -/

/-- What is left of a value is left once more. -/
def StaysReduced (targets : List Path) (child : Segment × Value) : Prop :=
  ∀ part, reduce .filled (below child.1 targets) child.2 = some part →
    reduce .filled (below child.1 targets) part = some part

theorem reduceFields_again {fields : List (String × Value)}
    (stays : ∀ field ∈ fields, StaysReduced targets (.key field.1, field.2)) :
    reduceFields .filled targets (reduceFields .filled targets fields) =
      reduceFields .filled targets fields := by
  induction fields with
  | nil => rfl
  | cons field rest ih =>
      obtain ⟨key, v⟩ := field
      rw [List.forall_mem_cons] at stays
      rw [reduceFields]
      cases reduced : reduce .filled (below (.key key) targets) v with
      | none => exact ih stays.2
      | some part =>
          simp only [reduceFields, stays.1 part reduced, ih stays.2]

/-- The element that stands where one was kept or left out is kept or left out as that one was. -/
theorem reduce_getD {child : Segment × Value} (stays : StaysReduced targets child) :
    reduce .filled (below child.1 targets)
        ((reduce .filled (below child.1 targets) child.2).getD .null) =
      reduce .filled (below child.1 targets) child.2 := by
  cases reduced : reduce .filled (below child.1 targets) child.2 with
  | none => exact reduce_null (notMem_of_reduce_eq_none reduced)
  | some part => exact stays part reduced

theorem padded_keptItems_again {i : Nat} {items : List Value}
    (stays : ∀ child ∈ indexed i items, StaysReduced targets child) :
    padded (keptItems targets i (padded (keptItems targets i items))) =
      padded (keptItems targets i items) := by
  induction items generalizing i with
  | nil => rfl
  | cons v rest ih =>
      rw [indexed, List.forall_mem_cons] at stays
      have later := ih stays.2
      have first (w : Value) (more : List Value) : keptItems targets i (w :: more) =
          reduce .filled (below (.index i) targets) w :: keptItems targets (i + 1) more := rfl
      rw [first]
      by_cases kept : (reduce .filled (below (.index i) targets) v).isSome ∨
          padded (keptItems targets (i + 1) rest) ≠ []
      · rw [padded_cons kept, first, reduce_getD stays.1, padded_cons (by rwa [later]), later]
      · have nothing : padded (reduce .filled (below (.index i) targets) v ::
            keptItems targets (i + 1) rest) = [] := by
          rw [padded, if_pos]
          simpa using kept
        rw [nothing]
        rfl

/-- What is left of a value stays as it is. -/
theorem reduce_again {v part : Value} (reduced : reduce .filled targets v = some part) :
    reduce .filled targets part = some part := by
  induction v using inductionOnChildren generalizing targets part with
  | step v ih =>
      have stays : ∀ child ∈ v.children, StaysReduced targets child :=
        fun child inside _ reducedChild => ih child inside reducedChild
      by_cases wanted : [] ∈ targets
      · exact reduce_of_mem wanted part
      · rcases reduce_cases reduced wanted with ⟨fields, rfl, rfl, kept⟩ | ⟨items, rfl, rfl, kept⟩
        · have again := reduceFields_again fun field inside =>
            stays _ (mem_children_obj_iff.mpr ⟨field.1, rfl, inside⟩)
          rw [reduce_obj wanted (by rwa [again]), again]
        · have again : reduceItems .filled targets 0 0 (padded (keptItems targets 0 items)) =
              padded (keptItems targets 0 items) :=
            (reduceItems_filled _).trans (padded_keptItems_again stays)
          rw [reduce_arr wanted (by rwa [again]), again]

theorem emptied_emptied (document : Value) : emptied (emptied document) = emptied document := by
  cases document <;> rfl

theorem toPaths_again (targets : List Path) (document : Value) :
    toPaths .filled targets (toPaths .filled targets document) =
      toPaths .filled targets document := by
  by_cases untouched : targets.isEmpty = true
  · simp only [toPaths, if_pos untouched]
  · simp only [toPaths, if_neg untouched]
    cases reduced : reduce .filled targets document with
    | some part => rw [Option.getD_some, reduce_again reduced, Option.getD_some]
    | none =>
        have through := notMem_of_reduce_eq_none reduced
        rw [Option.getD_none, reduce_emptied through, Option.getD_none, emptied_emptied]

/-! ## Results -/

variable {results : List Search.Result}

/-- Results whose paths can be read are as good as their paths. -/
theorem exists_paths (read : ∀ r ∈ results, ∃ path, pathOf r = .ok path) :
    ∃ targets, results.mapM pathOf = .ok targets ∧ (targets = [] ↔ results = []) ∧
      ∀ path ∈ targets, ∃ r ∈ results, pathOf r = .ok path := by
  induction results with
  | nil => exact ⟨[], rfl, by simp, by simp⟩
  | cons r rest ih =>
      rw [List.forall_mem_cons] at read
      obtain ⟨path, first⟩ := read.1
      obtain ⟨targets, later, -, known⟩ := ih read.2
      refine ⟨path :: targets, ?_, by simp, ?_⟩
      · rw [List.mapM_cons, first, later]
        rfl
      · rw [List.forall_mem_cons]
        refine ⟨⟨r, List.mem_cons_self, first⟩, fun other inside => ?_⟩
        obtain ⟨s, behind, same⟩ := known other inside
        exact ⟨s, List.mem_cons_of_mem r behind, same⟩

/-- Reducing a document to the same results again changes nothing. This includes the empty container
that takes the place of a document that holds none of them. -/
theorem toResults_again (read : ∀ r ∈ results, ∃ path, pathOf r = .ok path) (document : Value) :
    ∃ tree, toResults .filled results document = .ok tree ∧
      toResults .filled results tree = .ok tree ∧
      (results ≠ [] → document.HasDistinctKeys →
        (∀ r ∈ results, ∀ path, pathOf r = .ok path → document.get? path = none) →
        tree = emptied document) := by
  obtain ⟨targets, paths, empty, known⟩ := exists_paths read
  have reduced (v : Value) : toResults .filled results v = .ok (toPaths .filled targets v) := by
    rw [toResults, paths]
    rfl
  refine ⟨toPaths .filled targets document, reduced document, ?_, ?_⟩
  · rw [reduced, toPaths_again]
  · intro some distinct missing
    have nothing : reduce .filled targets document = none := by
      refine (reduce_eq_none_iff distinct).mpr fun path wanted => ?_
      obtain ⟨r, inside, same⟩ := known path wanted
      exact missing r inside path same
    have nonempty : ¬ targets.isEmpty = true := by
      rwa [List.isEmpty_iff, empty]
    rw [toPaths, if_neg nonempty, nothing, Option.getD_none]

/-- A result put together by hand. -/
def record (segments : Path) (jsonPath : String) : Search.Result where
  path := ""
  jsonPath := jsonPath
  key := ""
  value := .null
  parentPath := ""
  depth := 0
  kind := ""
  score := .zero
  hits := {}
  segments := segments
  ancestors := none

/-- One record leads through the first element to nowhere, the other one is only spelled. -/
def records : List Search.Result := [record [.index 0, .key "a"] "", record [] "$[1]"]

/-- The null stands on the way of a record that leads nowhere. -/
theorem toResults_again_of_records :
    (∀ r ∈ records, ∃ path, pathOf r = .ok path) ∧
      ∃ tree, toResults .filled records (.arr [.str "x", .int 2, .int 3]) = .ok tree ∧
        toResults .filled records tree = .ok tree ∧ tree = .arr [.null, .int 2] := by
  have read : ∀ r ∈ records, ∃ path, pathOf r = .ok path := by
    rw [records, List.forall_mem_cons, List.forall_mem_singleton]
    exact ⟨⟨_, rfl⟩, ⟨_, rfl⟩⟩
  obtain ⟨tree, reduced, again, -⟩ := toResults_again read (.arr [.str "x", .int 2, .int 3])
  exact ⟨read, tree, reduced, again, Except.ok.inj (reduced.symm.trans rfl)⟩

end JsonSeek.Prune
