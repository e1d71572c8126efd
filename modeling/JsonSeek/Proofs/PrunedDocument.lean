import JsonSeek.Proofs.FoundNodes
import JsonSeek.Proofs.Pruning

/-!
# Documents reduced to results

Whatever a reduced document holds has one of three roles: it belongs to a target that was kept
whole, it is a container on the way to one, or it is a null that keeps the indices of later elements
right. Where targets are the results of searches, which nodes of the document are, this describes
the reduced document completely.
-/

namespace JsonSeek.Prune

open Value

variable {gaps : Gaps} {targets : List Path}

/-! ## Where a path stands towards the targets -/

/-- The path leads to a target or goes on below one. -/
def IsCovered (targets : List Path) (path : Path) : Prop := ∃ target ∈ targets, target <+: path

/-- The path goes on to a target or ends at one. -/
def Leads (targets : List Path) (path : Path) : Prop := ∃ target ∈ targets, path <+: target

instance (targets : List Path) (path : Path) : Decidable (Leads targets path) :=
  inferInstanceAs (Decidable (∃ target ∈ targets, path <+: target))

/-- The path goes on to a target and is not covered before. -/
def IsPassage (targets : List Path) (path : Path) : Prop :=
  ¬ IsCovered targets path ∧ ∃ target ∈ targets, path <+: target ∧ path ≠ target

theorem isCovered_nil : IsCovered targets [] ↔ [] ∈ targets := by
  simp [IsCovered]

theorem isCovered_cons {step : Segment} {path : Path} :
    IsCovered targets (step :: path) ↔
      [] ∈ targets ∨ IsCovered (below step targets) path := by
  constructor
  · rintro ⟨target, wanted, before⟩
    cases target with
    | nil => exact Or.inl wanted
    | cons first rest =>
        obtain ⟨rfl, behind⟩ := List.cons_prefix_cons.mp before
        exact Or.inr ⟨rest, mem_below_iff.mpr wanted, behind⟩
  · rintro (wanted | ⟨rest, wanted, before⟩)
    · exact ⟨[], wanted, List.nil_prefix⟩
    · exact ⟨step :: rest, mem_below_iff.mp wanted, List.cons_prefix_cons.mpr ⟨rfl, before⟩⟩

theorem leads_cons {step : Segment} {path : Path} :
    Leads targets (step :: path) ↔ Leads (below step targets) path := by
  constructor
  · rintro ⟨target, wanted, before⟩
    cases target with
    | nil => cases List.prefix_nil.mp before
    | cons first rest =>
        obtain ⟨rfl, behind⟩ := List.cons_prefix_cons.mp before
        exact ⟨rest, mem_below_iff.mpr wanted, behind⟩
  · rintro ⟨rest, wanted, before⟩
    exact ⟨step :: rest, mem_below_iff.mp wanted, List.cons_prefix_cons.mpr ⟨rfl, before⟩⟩

theorem isPassage_iff {path : Path} :
    IsPassage targets path ↔ ¬ IsCovered targets path ∧ Leads targets path := by
  refine and_congr_right fun uncovered => ⟨?_, ?_⟩
  · rintro ⟨target, wanted, before, -⟩
    exact ⟨target, wanted, before⟩
  · rintro ⟨target, wanted, before⟩
    refine ⟨target, wanted, before, ?_⟩
    rintro rfl
    exact uncovered ⟨path, wanted, List.prefix_rfl⟩

theorem isPassage_cons (through : [] ∉ targets) {step : Segment} {path : Path} :
    IsPassage targets (step :: path) ↔ IsPassage (below step targets) path := by
  simp [isPassage_iff, isCovered_cons, leads_cons, through]

/-! ## Roles -/

/-- What a place in a reduced document is there for. -/
inductive Role
  | kept
  | passage
  | gap
deriving DecidableEq

/-- Which role a path has in a reduced document. -/
def HasRole (targets : List Path) (tree : Value) (path : Path) : Role → Prop
  | .kept => IsCovered targets path
  | .passage => IsPassage targets path
  | .gap => ∃ above i items, path = above ++ [.index i] ∧ IsPassage targets above ∧
      tree.get? above = some (.arr items) ∧ ¬ Leads targets path

/-- A container, and what is left of it: the fields that lead on to a target, or the elements up to
the last one that does. -/
inductive IsThinned (targets : List Path) (path : Path) : Value → Value → Prop
  | obj {fields kept : List (String × Value)} : kept ≠ [] →
      kept.map Prod.fst =
        (fields.map Prod.fst).filter (fun key => Leads targets (path ++ [.key key])) →
      IsThinned targets path (.obj fields) (.obj kept)
  | arr {items kept : List Value} {last : Nat} : kept.length = last + 1 →
      Leads targets (path ++ [.index last]) →
      (∀ i : Int, Leads targets (path ++ [.index i]) → i ≤ last) →
      IsThinned targets path (.arr items) (.arr kept)

/-- What a place in a reduced document holds in each role. -/
def FitsRole (targets : List Path) (document : Value) (path : Path) (v : Value) : Role → Prop
  | .kept => document.get? path = some v
  | .passage => ∃ whole, document.get? path = some whole ∧ IsThinned targets path whole v
  | .gap => v = .null ∧ ∃ above i j, path = above ++ [.index i] ∧ i < j ∧
      Leads targets (above ++ [.index j])

theorem not_isCovered_of_gap {tree : Value} {path : Path} (gap : HasRole targets tree path .gap) :
    ¬ IsCovered targets path := by
  obtain ⟨above, i, items, rfl, passage, -, noTarget⟩ := gap
  rintro ⟨target, wanted, before⟩
  rcases List.prefix_concat_iff.mp before with rfl | before
  · exact noTarget ⟨_, wanted, List.prefix_rfl⟩
  · exact passage.1 ⟨target, wanted, before⟩

theorem not_leads_of_gap {tree : Value} {path : Path} (gap : HasRole targets tree path .gap) :
    ¬ Leads targets path := by
  obtain ⟨above, i, items, -, -, -, noTarget⟩ := gap
  exact noTarget

/-- No path has two roles. -/
theorem HasRole.unique {tree : Value} {path : Path} {role other : Role}
    (first : HasRole targets tree path role) (second : HasRole targets tree path other) :
    role = other := by
  cases role with
  | kept =>
      cases other with
      | kept => rfl
      | passage => exact absurd first second.1
      | gap => exact absurd first (not_isCovered_of_gap second)
  | passage =>
      cases other with
      | kept => exact absurd second first.1
      | passage => rfl
      | gap => exact absurd (isPassage_iff.mp first).2 (not_leads_of_gap second)
  | gap =>
      cases other with
      | kept => exact absurd second (not_isCovered_of_gap first)
      | passage => exact absurd (isPassage_iff.mp second).2 (not_leads_of_gap first)
      | gap => rfl

/-! ## From below a step to above it -/

section Step

variable {step : Segment} {tree part document child : Value} {path : Path}

theorem HasRole.cons {role : Role} (through : [] ∉ targets) (stepped : tree.step? step = some part)
    (below : HasRole (below step targets) part path role) :
    HasRole targets tree (step :: path) role := by
  cases role with
  | kept => exact isCovered_cons.mpr (Or.inr below)
  | passage => exact (isPassage_cons through).mpr below
  | gap =>
      obtain ⟨above, i, items, rfl, passage, array, noTarget⟩ := below
      refine ⟨step :: above, i, items, rfl, (isPassage_cons through).mpr passage, ?_, ?_⟩
      · rw [get?_cons, stepped]
        exact array
      · exact fun leads => noTarget (leads_cons.mp leads)

theorem IsThinned.cons {before after : Value}
    (thinned : IsThinned (below step targets) path before after) :
    IsThinned targets (step :: path) before after := by
  cases thinned with
  | obj some keys =>
      refine .obj some (keys.trans (List.filter_congr fun key _ => ?_))
      simp [leads_cons]
  | arr count last greatest =>
      exact .arr count (leads_cons.mpr last) fun i leads => greatest i (leads_cons.mp leads)

theorem FitsRole.cons {role : Role} {v : Value} (stepped : document.step? step = some child)
    (below : FitsRole (below step targets) child path v role) :
    FitsRole targets document (step :: path) v role := by
  have further (path : Path) : document.get? (step :: path) = child.get? path := by
    rw [get?_cons, stepped]
    rfl
  cases role with
  | kept => exact (further path).trans below
  | passage =>
      obtain ⟨whole, found, thinned⟩ := below
      exact ⟨whole, (further path).trans found, thinned.cons⟩
  | gap =>
      obtain ⟨null, above, i, j, rfl, behind, leads⟩ := below
      exact ⟨null, step :: above, i, j, rfl, behind, leads_cons.mpr leads⟩

end Step

/-! ## One value -/

/-- The value holds all targets. -/
def HoldsAll (targets : List Path) (v : Value) : Prop :=
  ∀ target ∈ targets, (v.get? target).isSome

theorem HoldsAll.below {v child : Value} {step : Segment} (holds : HoldsAll targets v)
    (stepped : v.step? step = some child) : HoldsAll (below step targets) child := by
  intro rest wanted
  have found := holds _ (mem_below_iff.mp wanted)
  rwa [get?_cons, stepped] at found

/-- Where all targets are held, something is kept exactly behind the steps that lead to one. -/
theorem isSome_keptAt_iff_leads {v : Value} (distinct : v.HasDistinctKeys)
    (holds : HoldsAll targets v) {step : Segment} :
    (keptAt targets v step).isSome ↔ Leads targets [step] := by
  rw [isSome_keptAt_iff distinct, leads_cons]
  constructor
  · rintro ⟨rest, wanted, -⟩
    exact ⟨rest, mem_below_iff.mpr wanted, List.nil_prefix⟩
  · rintro ⟨rest, wanted, -⟩
    exact ⟨rest, mem_below_iff.mp wanted, holds _ (mem_below_iff.mp wanted)⟩

theorem keys_reduceFields {fields : List (String × Value)}
    (leads : ∀ key v, (key, v) ∈ fields →
      ((reduce gaps (below (.key key) targets) v).isSome ↔ Leads targets [.key key])) :
    (reduceFields gaps targets fields).map Prod.fst =
      (fields.map Prod.fst).filter fun key => Leads targets [.key key] := by
  induction fields with
  | nil => rfl
  | cons field rest ih =>
      obtain ⟨key, v⟩ := field
      have later := ih fun key v inside => leads key v (List.mem_cons_of_mem _ inside)
      have first := leads key v List.mem_cons_self
      rw [reduceFields, List.map_cons]
      cases reduced : reduce gaps (below (.key key) targets) v with
      | none =>
          have beside : ¬ Leads targets [.key key] := by simpa [reduced] using first
          rw [List.filter_cons_of_neg (by simpa using beside)]
          exact later
      | some part =>
          have towards : Leads targets [.key key] := by simpa [reduced] using first
          rw [List.filter_cons_of_pos (by simpa using towards), ← later]
          rfl

/-- A container that is not a target itself is thinned out. -/
theorem isThinned_of_reduce {v part : Value} (distinct : v.HasDistinctKeys)
    (holds : HoldsAll targets v) (through : [] ∉ targets)
    (reduced : reduce .filled targets v = some part) : IsThinned targets [] v part := by
  rcases reduce_cases reduced through with ⟨fields, rfl, rfl, some⟩ | ⟨items, rfl, rfl, some⟩
  · refine .obj some (keys_reduceFields fun key v inside => ?_)
    have stepped : (Value.obj fields).step? (.key key) = Option.some v :=
      distinct.step?_eq_some_iff.mpr (mem_children_obj_iff.mpr ⟨key, rfl, inside⟩)
    rw [← isSome_keptAt_iff_leads distinct holds, keptAt, stepped, Option.bind_some]
  · generalize padded (keptItems targets 0 items) = kept at reduced some ⊢
    have inside : ∀ i, Leads targets [.index i] → ∃ n : Nat, i = n ∧ n < kept.length := by
      intro i leads
      have found := (isSome_keptAt_iff_leads distinct holds).mpr leads
      obtain ⟨w, found⟩ := Option.isSome_iff_exists.mp found
      have stepped := (step?_of_reduce distinct through reduced).mpr (Or.inl found)
      obtain ⟨n, same, found⟩ := step?_index_eq_some_iff.mp stepped
      exact ⟨n, same, (List.getElem?_eq_some_iff.mp found).1⟩
    obtain ⟨last, count⟩ := Nat.exists_eq_succ_of_ne_zero fun empty =>
      some (List.length_eq_zero_iff.mp empty)
    have final : (Value.arr kept).step? (.index last) = Option.some kept[last] :=
      step?_index_eq_some_iff.mpr ⟨last, rfl, List.getElem?_eq_getElem _⟩
    have leads : Leads targets [.index last] := by
      rcases (step?_of_reduce distinct through reduced).mp final with
        found | ⟨-, -, i, j, same, behind, later⟩
      · exact (isSome_keptAt_iff_leads distinct holds).mp (by rw [found]; rfl)
      · -- A null at the end would have something behind it.
        obtain ⟨n, sameIndex, short⟩ :=
          inside j ((isSome_keptAt_iff_leads distinct holds).mp later)
        have := Segment.index.inj same
        omega
    refine .arr count leads fun i leads => ?_
    obtain ⟨n, rfl, short⟩ := inside i leads
    omega

theorem isPassage_nil_of_reduce {v part : Value} (distinct : v.HasDistinctKeys)
    (through : [] ∉ targets) (reduced : reduce .filled targets v = some part) :
    IsPassage targets [] := by
  obtain ⟨target, wanted, -⟩ := (isSome_reduce_iff distinct).mp (Option.isSome_of_eq_some reduced)
  have uncovered : ¬ IsCovered targets [] := fun covered => through (isCovered_nil.mp covered)
  exact isPassage_iff.mpr ⟨uncovered, target, wanted, List.nil_prefix⟩

theorem exists_arr_of_step?_index {v part : Value} {i : Int}
    (stepped : v.step? (.index i) = some part) : ∃ items, v = .arr items := by
  cases v with
  | arr items => exact ⟨items, rfl⟩
  | _ => cases stepped

/-- A null in front of an element that is kept fills a gap. -/
theorem gap_of_step? {v part : Value} (distinct : v.HasDistinctKeys) (holds : HoldsAll targets v)
    (through : [] ∉ targets) (reduced : reduce .filled targets v = some part) {i j : Nat}
    (stepped : part.step? (.index i) = some .null)
    (leftOut : keptAt targets v (.index i) = none) (before : i < j)
    (later : (keptAt targets v (.index j)).isSome) :
    HasRole targets part [.index i] .gap ∧ FitsRole targets v [.index i] .null .gap := by
  have kept (n : Nat) := @isSome_keptAt_iff_leads targets v distinct holds (.index n)
  have noTarget : ¬ Leads targets [.index i] := by
    rw [← kept, leftOut]
    exact Bool.noConfusion
  obtain ⟨items, rfl⟩ := exists_arr_of_step?_index stepped
  have passage := isPassage_nil_of_reduce distinct through reduced
  exact ⟨⟨[], i, items, rfl, passage, rfl, noTarget⟩,
    rfl, [], i, j, rfl, Int.ofNat_lt.mpr before, (kept j).mp later⟩

/-! ## Whole paths -/

/-- Whatever a reduced value holds has a role and what belongs to it. -/
theorem exists_role {v tree w : Value} {path : Path} (distinct : v.HasDistinctKeys)
    (holds : HoldsAll targets v) (reduced : reduce .filled targets v = some tree)
    (found : tree.get? path = some w) :
    ∃ role, HasRole targets tree path role ∧ FitsRole targets v path w role := by
  induction path generalizing targets v tree with
  | nil =>
      obtain rfl := Option.some.inj found
      by_cases wanted : [] ∈ targets
      · rw [reduce_of_mem wanted] at reduced
        exact ⟨.kept, isCovered_nil.mpr wanted, reduced⟩
      · exact ⟨.passage, isPassage_nil_of_reduce distinct wanted reduced, v, rfl,
          isThinned_of_reduce distinct holds wanted reduced⟩
  | cons step rest ih =>
      by_cases wanted : [] ∈ targets
      · rw [reduce_of_mem wanted] at reduced
        obtain rfl := Option.some.inj reduced
        exact ⟨.kept, isCovered_cons.mpr (Or.inl wanted), found⟩
      · rw [get?_cons] at found
        obtain ⟨part, stepped, behindStep⟩ := Option.bind_eq_some_iff.mp found
        rcases (step?_of_reduce distinct wanted reduced).mp stepped with
          kept | ⟨rfl, leftOut, i, j, rfl, before, later⟩
        · obtain ⟨child, childStep, reducedChild⟩ := Option.bind_eq_some_iff.mp kept
          obtain ⟨role, has, fits⟩ := ih (distinct.child (mem_children_of_step? childStep))
            (holds.below childStep) reducedChild behindStep
          exact ⟨role, has.cons wanted stepped, fits.cons childStep⟩
        · -- Nothing lies below a null, so that the path ends here.
          cases rest with
          | cons next more => cases next <;> cases behindStep
          | nil =>
              obtain rfl := Option.some.inj behindStep
              exact ⟨.gap, gap_of_step? distinct holds wanted reduced stepped leftOut before later⟩

/-- Every target that a value holds stays where it is. -/
theorem get?_of_reduce {v w : Value} {target : Path} (distinct : v.HasDistinctKeys)
    (wanted : target ∈ targets) (found : v.get? target = some w) :
    ∃ tree, reduce .filled targets v = some tree ∧ tree.get? target = some w := by
  induction target generalizing targets v with
  | nil => exact ⟨v, reduce_of_mem wanted v, found⟩
  | cons step rest ih =>
      by_cases through : [] ∈ targets
      · exact ⟨v, reduce_of_mem through v, found⟩
      · have held := Option.isSome_of_eq_some found
        obtain ⟨tree, reduced⟩ := Option.isSome_iff_exists.mp
          ((isSome_reduce_iff distinct).mpr ⟨_, wanted, held⟩)
        rw [get?_cons] at found
        obtain ⟨child, stepped, behind⟩ := Option.bind_eq_some_iff.mp found
        obtain ⟨part, reducedChild, there⟩ := ih (distinct.child (mem_children_of_step? stepped))
          (mem_below_iff.mpr wanted) behind
        have kept : keptAt targets v step = some part := by
          rw [keptAt, stepped]
          exact reducedChild
        refine ⟨tree, reduced, ?_⟩
        rw [get?_cons, (step?_of_reduce distinct through reduced).mpr (Or.inl kept)]
        exact there

/-- On the way to what it holds, a reduced value has containers of the same kind as before. -/
theorem get?_prefix_of_reduce {v tree w : Value} {above below : Path}
    (distinct : v.HasDistinctKeys) (holds : HoldsAll targets v)
    (reduced : reduce .filled targets v = some tree) (wanted : above ++ below ∈ targets)
    (further : below ≠ []) (found : tree.get? (above ++ below) = some w) :
    ∃ whole part, v.get? above = some whole ∧ tree.get? above = some part ∧
      part.isContainer = true ∧ part.kind = whole.kind := by
  rw [get?_append] at found
  obtain ⟨part, there, behind⟩ := Option.bind_eq_some_iff.mp found
  have container : part.isContainer = true := by
    cases below with
    | nil => exact absurd rfl further
    | cons step rest =>
        cases part with
        | arr items => rfl
        | obj fields => rfl
        | _ => cases step <;> cases behind
  obtain ⟨role, has, fits⟩ := exists_role distinct holds reduced there
  cases role with
  | kept => exact ⟨part, part, fits, there, container, rfl⟩
  | passage =>
      obtain ⟨whole, before, thinned⟩ := fits
      refine ⟨whole, part, before, there, container, ?_⟩
      cases thinned <;> rfl
  | gap => exact absurd ⟨_, wanted, List.prefix_append _ _⟩ (not_leads_of_gap has)

/-! ## Results as targets -/

/-- Some search of the document finds the result. -/
def IsFoundIn (document : Value) (r : Search.Result) : Prop :=
  ∃ o response, Search.search o document = .ok response ∧ r ∈ response.results

variable {document : Value} {results : List Search.Result}

/-- The paths of results. -/
def pathsOf (results : List Search.Result) : List Path := results.map (·.segments)

theorem IsFoundIn.get? {r : Search.Result} (distinct : document.HasDistinctKeys)
    (found : IsFoundIn document r) : document.get? r.segments = some r.value := by
  obtain ⟨o, response, searched, inside⟩ := found
  obtain ⟨node, nodeInside, segments, value, -, -⟩ :=
    Search.exists_describes distinct searched inside
  rw [segments, value]
  exact distinct.mem_nodes_iff.mp nodeInside

theorem IsFoundIn.pathOf_eq {r : Search.Result} (distinct : document.HasDistinctKeys)
    (found : IsFoundIn document r) : pathOf r = .ok r.segments := by
  obtain ⟨o, response, searched, inside⟩ := found
  obtain ⟨node, -, segments, -, -, jsonPath⟩ := Search.exists_describes distinct searched inside
  refine if_pos ?_
  rw [segments, jsonPath]
  cases node.path with
  | nil => rfl
  | cons step rest => rfl

theorem toResults_eq (gaps : Gaps) (read : ∀ r ∈ results, pathOf r = .ok r.segments)
    (document : Value) :
    toResults gaps results document = .ok (toPaths gaps (pathsOf results) document) := by
  have paths : results.mapM pathOf = .ok (pathsOf results) := by
    induction results with
    | nil => rfl
    | cons r rest ih =>
        have first := read r List.mem_cons_self
        have later := ih fun r inside => read r (List.mem_cons_of_mem _ inside)
        rw [List.mapM_cons, first, later]
        rfl
  rw [toResults, paths]
  rfl

theorem holdsAll_pathsOf (distinct : document.HasDistinctKeys)
    (found : ∀ r ∈ results, IsFoundIn document r) : HoldsAll (pathsOf results) document := by
  intro target wanted
  obtain ⟨r, inside, rfl⟩ := List.mem_map.mp wanted
  exact Option.isSome_of_eq_some ((found r inside).get? distinct)

/-- A document with a target is what is left of it. -/
theorem reduce_eq_some_toPaths (gaps : Gaps) (distinct : document.HasDistinctKeys)
    (holds : HoldsAll targets document) (some : targets ≠ []) :
    reduce gaps targets document = Option.some (toPaths gaps targets document) := by
  obtain ⟨target, wanted⟩ := List.exists_mem_of_ne_nil _ some
  obtain ⟨tree, reduced⟩ := Option.isSome_iff_exists.mp
    ((@isSome_reduce_iff gaps _ _ distinct).mpr ⟨target, wanted, holds target wanted⟩)
  rw [toPaths, if_neg (by simpa using some), reduced]
  rfl

theorem reduce_eq_toPaths (distinct : document.HasDistinctKeys) (holds : HoldsAll targets document)
    (some : targets ≠ []) :
    reduce .filled targets document = Option.some (toPaths .filled targets document) :=
  reduce_eq_some_toPaths .filled distinct holds some

/-- Every result keeps its value at its own path, with containers of the same kind above it. Without
results the document is left as it is. -/
theorem toResults_keeps_results (distinct : document.HasDistinctKeys)
    (found : ∀ r ∈ results, IsFoundIn document r) :
    ∃ tree, toResults .filled results document = .ok tree ∧
      (results = [] → tree = document) ∧
      ∀ r ∈ results, tree.get? r.segments = some r.value ∧
        ∀ above below, r.segments = above ++ below → below ≠ [] →
          ∃ whole part, document.get? above = some whole ∧ tree.get? above = some part ∧
            part.isContainer = true ∧ part.kind = whole.kind := by
  have read := fun r inside => (found r inside).pathOf_eq distinct
  have holds := holdsAll_pathsOf distinct found
  refine ⟨_, toResults_eq .filled read document, ?_, ?_⟩
  · rintro rfl
    rfl
  · intro r inside
    have wanted : r.segments ∈ pathsOf results := List.mem_map.mpr ⟨r, inside, rfl⟩
    have reduced := reduce_eq_toPaths distinct holds (List.ne_nil_of_mem wanted)
    obtain ⟨tree, same, there⟩ := get?_of_reduce distinct wanted ((found r inside).get? distinct)
    obtain rfl := Option.some.inj (reduced.symm.trans same)
    refine ⟨there, fun above below split further => ?_⟩
    rw [split] at wanted there
    exact get?_prefix_of_reduce distinct holds reduced wanted further there

/-- An array with a field in the middle that is found by its key and holds what is found by its
value. -/
def shelf : Value :=
  .arr [.str "x", .obj [("book", .obj [("by", .str "book"), ("at", .int 3)]), ("y", .null)], .int 7]

/-- A search by keys and values. -/
def findBook : Search.Options :=
  Search.Request.fill .default { query := "book", caseSensitive := some true }

theorem hasDistinctKeys_shelf : shelf.HasDistinctKeys := by
  have book : (Value.obj [("by", .str "book"), ("at", .int 3)]).HasDistinctKeys :=
    .obj (by decide) (by simpa using ⟨.scalar rfl, .scalar rfl⟩)
  have middle : (Value.obj [("book", .obj [("by", .str "book"), ("at", .int 3)]),
      ("y", .null)]).HasDistinctKeys :=
    .obj (by decide) (by simpa using ⟨book, .scalar rfl⟩)
  exact .arr (by simpa using ⟨.scalar rfl, middle, .scalar rfl⟩)

/-- The field and what it holds are found. -/
theorem search_shelf :
    ∃ response, Search.search findBook shelf = .ok response ∧
      (∀ r ∈ response.results, IsFoundIn shelf r) ∧
      pathsOf response.results =
        [[.index 1, .key "book"], [.index 1, .key "book", .key "by"]] := by
  have runs : ¬ Search.BreaksDown (.simple true ['b', 'o', 'o', 'k']) findBook shelf :=
    Search.not_breaksDown Match.TextMode.noConfusion
  have searched := Search.search_of_not_breaksDown rfl rfl runs
  exact ⟨_, searched, fun r inside => ⟨findBook, _, searched, inside⟩, by decide +kernel⟩

/-- A result within another one keeps its value and the object at the top of its path. -/
theorem toResults_keeps_nested_result :
    shelf.HasDistinctKeys ∧ ∃ response, Search.search findBook shelf = .ok response ∧
      (∀ r ∈ response.results, IsFoundIn shelf r) ∧
      ∃ tree, toResults .filled response.results shelf = .ok tree ∧
        tree.get? [.index 1, .key "book", .key "by"] = some (.str "book") ∧
        ∃ fields, tree.get? [.index 1] = some (.obj fields) := by
  obtain ⟨response, searched, found, paths⟩ := search_shelf
  obtain ⟨tree, reduced, -, stays⟩ := toResults_keeps_results hasDistinctKeys_shelf found
  have wanted : [.index 1, .key "book", .key "by"] ∈ pathsOf response.results := by simp [paths]
  obtain ⟨r, inside, segments⟩ := List.mem_map.mp wanted
  obtain ⟨there, above⟩ := stays r inside
  have value : some r.value = some (.str "book") := by
    rw [← (found r inside).get? hasDistinctKeys_shelf, segments]
    rfl
  rw [segments, value] at there
  refine ⟨hasDistinctKeys_shelf, response, searched, found, tree, reduced, there, ?_⟩
  obtain ⟨whole, part, before, after, -, kind⟩ := above [.index 1] _ segments (by simp)
  obtain rfl := Option.some.inj (before.symm.trans rfl)
  cases part with
  | obj fields => exact ⟨fields, after⟩
  | _ => cases kind

/-- Whatever a document reduced to results holds has exactly one role: it belongs to a result, it is
a container that only leads on to results, or it is a null in front of an element that does. -/
theorem toResults_keeps_nothing_else (distinct : document.HasDistinctKeys)
    (found : ∀ r ∈ results, IsFoundIn document r) (some : results ≠ []) :
    ∃ tree, toResults .filled results document = .ok tree ∧
      ∀ path v, tree.get? path = Option.some v →
        (∃! role, HasRole (pathsOf results) tree path role) ∧
        ∀ role, HasRole (pathsOf results) tree path role →
          FitsRole (pathsOf results) document path v role := by
  have read := fun r inside => (found r inside).pathOf_eq distinct
  have holds := holdsAll_pathsOf distinct found
  have reduced := reduce_eq_toPaths distinct holds (by simpa [pathsOf] using some)
  refine ⟨_, toResults_eq .filled read document, fun path v there => ?_⟩
  obtain ⟨role, has, fits⟩ := exists_role distinct holds reduced there
  refine ⟨⟨role, has, fun other second => second.unique has⟩, fun other second => ?_⟩
  rwa [second.unique has]

/-- The first element makes room with a null, and the last one is gone. -/
theorem toResults_fills_gap :
    shelf.HasDistinctKeys ∧ ∃ response, Search.search findBook shelf = .ok response ∧
      (∀ r ∈ response.results, IsFoundIn shelf r) ∧ response.results ≠ [] ∧
      ∃ tree, toResults .filled response.results shelf = .ok tree ∧
        ∃ v, tree = .arr [.null, v] := by
  obtain ⟨response, searched, found, paths⟩ := search_shelf
  have some : response.results ≠ [] := by
    intro none
    rw [none] at paths
    cases paths
  obtain ⟨tree, reduced, roles⟩ := toResults_keeps_nothing_else hasDistinctKeys_shelf found some
  refine ⟨hasDistinctKeys_shelf, response, searched, found, some, tree, reduced, ?_⟩
  rw [paths] at roles
  have passage : IsPassage [[.index 1, .key "book"], [.index 1, .key "book", .key "by"]] [] :=
    isPassage_iff.mpr ⟨by simp [isCovered_nil], by decide⟩
  obtain ⟨whole, same, thinned⟩ := (roles [] tree rfl).2 .passage passage
  obtain rfl := Option.some.inj same
  cases thinned with
  | @arr items kept last count leads greatest =>
      have second : (last : Int) = 1 := by simpa [Leads, eq_comm] using leads
      obtain rfl : last = 1 := by omega
      match kept, count with
      | [first, second], _ =>
          have gap : HasRole _ (.arr [first, second]) [.index 0] .gap :=
            ⟨[], 0, [first, second], rfl, passage, rfl, by decide⟩
          obtain ⟨rfl, -⟩ := (roles [.index 0] first rfl).2 .gap gap
          exact ⟨second, rfl⟩

end JsonSeek.Prune
