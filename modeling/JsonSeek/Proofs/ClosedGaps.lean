import JsonSeek.Proofs.PrunedDocument

/-!
# Documents reduced without gaps

In a compact document the elements of an array that are kept move up. An element comes to stand
behind those before it that lead on to a target as well, so that a path to a target is followed by
counting, in every array on the way, the elements that lead on (`closedPath`). Apart from that a
compact document has the shape of one with its gaps filled (`toResults_closes_gaps`).
-/

namespace JsonSeek.Prune

open Value

variable {gaps : Gaps} {targets : List Path}

/-! ## Where paths lead once the gaps are closed -/

/-- How many elements of the array at a place, in front of the given index, lead on to a target. -/
def leadingBefore (targets : List Path) (above : Path) (i : Nat) : Nat :=
  (List.range i).countP fun j : Nat => Leads targets (above ++ [.index j])

/-- The step below a path that takes the place of another one when the gaps there are closed. -/
def closedStep (targets : List Path) (above : Path) : Segment → Segment
  | .key name => .key name
  | .index i => .index (leadingBefore targets above i.toNat)

/-- The path to the same part when all gaps on the way are closed. -/
def closedPath (targets : List Path) (path : Path) : Path :=
  path.mapIdx fun n step => closedStep targets (path.take n) step

/-- No target lies strictly above the path. -/
def IsOutermost (targets : List Path) (path : Path) : Prop :=
  ∀ target ∈ targets, target <+: path → target = path

instance (targets : List Path) (path : Path) : Decidable (IsOutermost targets path) :=
  inferInstanceAs (Decidable (∀ target ∈ targets, target <+: path → target = path))

theorem closedStep_cons (first : Segment) (above : Path) (step : Segment) :
    closedStep targets (first :: above) step = closedStep (below first targets) above step := by
  cases step with
  | key name => rfl
  | index i => simp only [closedStep, leadingBefore, List.cons_append, leads_cons]

theorem closedPath_cons (step : Segment) (rest : Path) :
    closedPath targets (step :: rest) =
      closedStep targets [] step :: closedPath (below step targets) rest := by
  rw [closedPath, closedPath, List.mapIdx_cons]
  simp only [List.take_zero, List.take_succ_cons, closedStep_cons]

theorem Leads.of_prefix {path further : Path} (leads : Leads targets further)
    (before : path <+: further) : Leads targets path := by
  obtain ⟨target, wanted, behind⟩ := leads
  exact ⟨target, wanted, before.trans behind⟩

theorem IsOutermost.notMem_nil {step : Segment} {rest : Path}
    (outermost : IsOutermost targets (step :: rest)) : [] ∉ targets := by
  intro wanted
  cases outermost [] wanted List.nil_prefix

theorem IsOutermost.below {step : Segment} {rest : Path}
    (outermost : IsOutermost targets (step :: rest)) : IsOutermost (below step targets) rest := by
  intro target wanted before
  have whole := outermost _ (mem_below_iff.mp wanted) (List.cons_prefix_cons.mpr ⟨rfl, before⟩)
  exact (List.cons.inj whole).2

/-- Above an outermost path there is no target. -/
theorem IsOutermost.above {path above : Path} (outermost : IsOutermost targets path)
    (before : above <+: path) (strict : above ≠ path) :
    above ∉ targets ∧ IsOutermost targets above := by
  constructor
  · intro wanted
    exact strict (outermost above wanted before)
  · intro target wanted further
    have same := outermost target wanted (further.trans before)
    rw [same] at further
    exact absurd (before.eq_of_length_le further.length_le) strict

/-! ## Below a path -/

/-- What remains of paths that begin with another one, behind it. -/
def behind : Path → List Path → List Path
  | [], targets => targets
  | step :: rest, targets => behind rest (below step targets)

theorem mem_behind_iff {above path : Path} :
    path ∈ behind above targets ↔ above ++ path ∈ targets := by
  induction above generalizing targets with
  | nil => rfl
  | cons step rest ih => rw [behind, ih, mem_below_iff, List.cons_append]

theorem leads_behind_iff {above path : Path} :
    Leads (behind above targets) path ↔ Leads targets (above ++ path) := by
  induction above generalizing targets with
  | nil => rfl
  | cons step rest ih => rw [behind, ih, List.cons_append, leads_cons]

theorem leadingBefore_behind (above path : Path) (i : Nat) :
    leadingBefore (behind above targets) path i = leadingBefore targets (above ++ path) i := by
  simp only [leadingBefore, leads_behind_iff, List.append_assoc]

theorem HoldsAll.behind {v whole : Value} {above : Path} (holds : HoldsAll targets v)
    (found : v.get? above = some whole) : HoldsAll (behind above targets) whole := by
  intro rest wanted
  have there := holds _ (mem_behind_iff.mp wanted)
  rwa [get?_append, found] at there

/-! ## Single steps -/

/-- Something is kept of a part exactly if the step to it leads on to a target. -/
theorem isSome_reduce_iff_leads {v : Value} (distinct : v.HasDistinctKeys)
    (holds : HoldsAll targets v) {child : Segment × Value} (inside : child ∈ v.children) :
    (reduce gaps (below child.1 targets) child.2).isSome ↔ Leads targets [child.1] := by
  have stepped : v.step? child.1 = some child.2 := distinct.step?_eq_some_iff.mpr inside
  rw [isSome_reduce_iff (distinct.child inside), leads_cons]
  constructor
  · rintro ⟨rest, wanted, -⟩
    exact ⟨rest, wanted, List.nil_prefix⟩
  · rintro ⟨rest, wanted, -⟩
    exact ⟨rest, wanted, holds.below stepped rest wanted⟩

theorem reduceItems_closed (i gap : Nat) (items : List Value) :
    reduceItems .closed targets i gap items =
      (indexed i items).filterMap fun child => reduce .closed (below child.1 targets) child.2 := by
  induction items generalizing i gap with
  | nil => rfl
  | cons v rest ih =>
      rw [reduceItems, indexed, List.filterMap_cons]
      cases reduce .closed (below (.index i) targets) v with
      | none => exact ih (i + 1) (gap + 1)
      | some part => exact congrArg (part :: ·) (ih (i + 1) 0)

theorem steps_indexed (i : Nat) (items : List Value) :
    (indexed i items).map Prod.fst =
      (List.range' i items.length).map fun n : Nat => Segment.index n := by
  induction items generalizing i with
  | nil => rfl
  | cons v rest ih => rw [indexed, List.map_cons, ih, List.length_cons, List.range'_succ]; rfl

/-- The elements in front of an index that lead on to a target are those of which something is
kept. -/
theorem leadingBefore_eq_countP {items : List Value}
    (distinct : (Value.arr items).HasDistinctKeys) (holds : HoldsAll targets (.arr items)) {n : Nat}
    (short : n ≤ items.length) :
    leadingBefore targets [] n = ((indexed 0 items).take n).countP fun child =>
      (reduce .closed (below child.1 targets) child.2).isSome := by
  have steps : ((indexed 0 items).take n).map Prod.fst =
      (List.range n).map fun j : Nat => Segment.index j := by
    rw [List.map_take, steps_indexed, ← List.map_take, ← List.range_eq_range', List.take_range,
      Nat.min_eq_left short]
  have alike : ∀ child ∈ (indexed 0 items).take n,
      decide (Leads targets [child.1]) = true ↔
        (reduce .closed (below child.1 targets) child.2).isSome = true := by
    intro child inside
    rw [decide_eq_true_iff]
    exact (isSome_reduce_iff_leads distinct holds (List.mem_of_mem_take inside)).symm
  calc leadingBefore targets [] n
      = ((List.range n).map fun j : Nat => Segment.index j).countP
          fun step => Leads targets [step] := by rw [List.countP_map]; rfl
    _ = ((indexed 0 items).take n).countP fun child => Leads targets [child.1] := by
        rw [← steps, List.countP_map]; rfl
    _ = _ := List.countP_congr alike

theorem length_reduceItems_closed {items : List Value}
    (distinct : (Value.arr items).HasDistinctKeys) (holds : HoldsAll targets (.arr items)) :
    (reduceItems .closed targets 0 0 items).length = leadingBefore targets [] items.length := by
  have count : (indexed 0 items).length = items.length := by
    have steps := congrArg List.length (steps_indexed 0 items)
    simpa using steps
  rw [reduceItems_closed, List.length_filterMap_eq_countP,
    leadingBefore_eq_countP distinct holds (Nat.le_refl _),
    List.take_of_length_le (Nat.le_of_eq count)]

/-- What is made of an element comes to stand behind what is made of those in front of it. -/
theorem getElem?_filterMap_countP {α β : Type} {f : α → Option β} {l : List α} {n : Nat} {a : α}
    {b : β} (found : l[n]? = some a) (kept : f a = some b) :
    (l.filterMap f)[(l.take n).countP fun a => (f a).isSome]? = some b := by
  obtain ⟨inside, rfl⟩ := List.getElem?_eq_some_iff.mp found
  have split : l.filterMap f = (l.take n).filterMap f ++ b :: (l.drop (n + 1)).filterMap f := by
    rw [← List.filterMap_cons_some kept, ← List.filterMap_append, ← List.drop_eq_getElem_cons,
      List.take_append_drop]
  rw [split, ← List.length_filterMap_eq_countP, List.getElem?_append_right (Nat.le_refl _),
    Nat.sub_self]
  rfl

/-- A step into a compact value leads to what is kept of the part that it led to before. -/
theorem step?_closed {v tree child part : Value} {step : Segment} (distinct : v.HasDistinctKeys)
    (holds : HoldsAll targets v) (through : [] ∉ targets)
    (reduced : reduce .closed targets v = some tree) (stepped : v.step? step = some child)
    (kept : reduce .closed (below step targets) child = some part) :
    tree.step? (closedStep targets [] step) = some part := by
  rcases container_cases reduced through with ⟨fields, rfl, rfl, -⟩ | ⟨items, rfl, rfl, -⟩
  · cases step with
    | index i => cases stepped
    | key name =>
        cases distinct with
        | scalar leaf => cases leaf
        | obj keys _ =>
            simp only [step?] at stepped
            simp only [closedStep, step?, field?_reduceFields keys, stepped, Option.bind_some, kept]
  · cases step with
    | key name => cases stepped
    | index i =>
        obtain ⟨n, rfl, found⟩ := step?_index_eq_some_iff.mp stepped
        have short : n ≤ items.length := Nat.le_of_lt (List.getElem?_eq_some_iff.mp found).1
        have place : (indexed 0 items)[n]? = some (.index n, child) := by
          rw [getElem?_indexed, found, Nat.zero_add]
          rfl
        rw [closedStep, Int.toNat_natCast, step?_index, reduceItems_closed,
          leadingBefore_eq_countP distinct holds short]
        exact getElem?_filterMap_countP place kept

/-! ## Whole paths -/

/-- What a compact value holds at the place of an outermost path. -/
theorem get?_closedPath {v tree whole : Value} {path : Path} (distinct : v.HasDistinctKeys)
    (holds : HoldsAll targets v) (reduced : reduce .closed targets v = some tree)
    (leads : Leads targets path) (outermost : IsOutermost targets path)
    (found : v.get? path = some whole) :
    ∃ part, tree.get? (closedPath targets path) = some part ∧
      reduce .closed (behind path targets) whole = some part := by
  induction path generalizing targets v tree with
  | nil =>
      obtain rfl := Option.some.inj found
      exact ⟨tree, rfl, reduced⟩
  | cons step rest ih =>
      rw [get?_cons] at found
      obtain ⟨child, stepped, found⟩ := Option.bind_eq_some_iff.mp found
      have inside := mem_children_of_step? stepped
      have first : Leads targets [step] := leads.of_prefix ⟨rest, rfl⟩
      obtain ⟨left, kept⟩ := Option.isSome_iff_exists.mp
        ((@isSome_reduce_iff_leads .closed _ _ distinct holds _ inside).mpr first)
      obtain ⟨part, there, rest⟩ := ih (distinct.child inside) (holds.below stepped) kept
        (leads_cons.mp leads) outermost.below found
      refine ⟨part, ?_, rest⟩
      rw [closedPath_cons, get?_cons,
        step?_closed distinct holds outermost.notMem_nil reduced stepped kept]
      exact there

/-! ## Containers on the way -/

/-- A container, what is left of it with its gaps filled and what is left of it with its gaps
closed: the same fields, or as many elements as lead on to a target. -/
inductive IsClosedUp (targets : List Path) (path : Path) : Value → Value → Value → Prop
  | obj {fields filled closed : List (String × Value)} :
      closed.map Prod.fst = filled.map Prod.fst →
      IsClosedUp targets path (.obj fields) (.obj filled) (.obj closed)
  | arr {items filled closed : List Value} :
      closed.length = leadingBefore targets path items.length →
      (∀ i : Int, Leads targets (path ++ [.index i]) → 0 ≤ i ∧ i < items.length) →
      IsClosedUp targets path (.arr items) (.arr filled) (.arr closed)

theorem isClosedUp_of_reduce {v filled closed : Value} {path : Path} (distinct : v.HasDistinctKeys)
    (holds : HoldsAll (behind path targets) v) (through : [] ∉ behind path targets)
    (reduced : reduce .closed (behind path targets) v = some closed)
    (thinned : IsThinned targets path v filled) : IsClosedUp targets path v filled closed := by
  have leads {step : Segment} : Leads (behind path targets) [step] ↔ Leads targets (path ++ [step]) :=
    leads_behind_iff
  rcases container_cases reduced through with ⟨fields, rfl, rfl, -⟩ | ⟨items, rfl, rfl, -⟩
  · cases thinned with
    | obj _ keys =>
        refine .obj (Eq.trans (keys_reduceFields fun key v inside => ?_) ?_)
        · exact isSome_reduce_iff_leads distinct holds
            (mem_children_obj_iff.mpr ⟨key, rfl, inside⟩)
        · rw [keys]
          exact List.filter_congr fun key _ => by simp only [leads]
  · cases thinned with
    | arr _ _ _ =>
        refine .arr ?_ fun i towards => ?_
        · rw [length_reduceItems_closed distinct holds, leadingBefore_behind, List.append_nil]
        · obtain ⟨rest, wanted, -⟩ := leads_cons.mp (leads.mpr towards)
          have held := holds _ (mem_below_iff.mp wanted)
          rw [get?_cons] at held
          obtain ⟨part, held⟩ := Option.isSome_iff_exists.mp held
          obtain ⟨child, stepped, -⟩ := Option.bind_eq_some_iff.mp held
          obtain ⟨n, rfl, found⟩ := step?_index_eq_some_iff.mp stepped
          have short := (List.getElem?_eq_some_iff.mp found).1
          omega

/-! ## Results -/

variable {document : Value} {results : List Search.Result}

/-- In a compact document every outermost result is found by counting the elements that lead on to
results, and the containers above it hold these elements only, or the fields that they hold with
gaps filled. -/
theorem toResults_closes_gaps (distinct : document.HasDistinctKeys)
    (found : ∀ r ∈ results, IsFoundIn document r) :
    ∃ compact padded, toResults .closed results document = .ok compact ∧
      toResults .filled results document = .ok padded ∧
      ∀ r ∈ results, IsOutermost (pathsOf results) r.segments →
        document.get? r.segments = some r.value ∧
        compact.get? (closedPath (pathsOf results) r.segments) = some r.value ∧
        ∀ above, above <+: r.segments → above ≠ r.segments →
          ∃ whole filled closed, document.get? above = some whole ∧
            padded.get? above = some filled ∧
            compact.get? (closedPath (pathsOf results) above) = some closed ∧
            IsClosedUp (pathsOf results) above whole filled closed := by
  have read := fun r inside => (found r inside).pathOf_eq distinct
  have holds := holdsAll_pathsOf distinct found
  refine ⟨_, _, toResults_eq .closed read document, toResults_eq .filled read document, ?_⟩
  intro r inside outermost
  have wanted : r.segments ∈ pathsOf results := List.mem_map_of_mem inside
  have there := (found r inside).get? distinct
  have nonempty := List.ne_nil_of_mem wanted
  have compact := reduce_eq_some_toPaths .closed distinct holds nonempty
  have padded := reduce_eq_toPaths distinct holds nonempty
  refine ⟨there, ?_, fun above before strict => ?_⟩
  · obtain ⟨part, place, whole⟩ := get?_closedPath distinct holds compact
      ⟨_, wanted, List.prefix_rfl⟩ outermost there
    have target : [] ∈ behind r.segments (pathsOf results) := by
      rwa [mem_behind_iff, List.append_nil]
    rw [reduce_of_mem target] at whole
    rwa [Option.some.inj whole]
  · obtain ⟨noTarget, outer⟩ := outermost.above before strict
    have leads : Leads (pathsOf results) above := ⟨_, wanted, before⟩
    have passage : IsPassage (pathsOf results) above := by
      refine isPassage_iff.mpr ⟨?_, leads⟩
      rintro ⟨target, isTarget, prior⟩
      exact noTarget (outer target isTarget prior ▸ isTarget)
    obtain ⟨below, split⟩ := before
    have further : below ≠ [] := by
      rintro rfl
      exact strict (by rw [← split, List.append_nil])
    obtain ⟨tree, same, kept⟩ := get?_of_reduce distinct wanted there
    obtain rfl := Option.some.inj (padded.symm.trans same)
    rw [← split] at wanted kept
    obtain ⟨-, filled, -, atFilled, -, -⟩ :=
      get?_prefix_of_reduce distinct holds padded wanted further kept
    obtain ⟨role, has, fits⟩ := exists_role distinct holds padded atFilled
    obtain rfl : role = .passage := has.unique passage
    obtain ⟨whole, atWhole, thinned⟩ := fits
    obtain ⟨closed, atClosed, reduced⟩ :=
      get?_closedPath distinct holds compact leads outer atWhole
    have through : [] ∉ behind above (pathsOf results) := by
      rwa [mem_behind_iff, List.append_nil]
    exact ⟨whole, filled, closed, atWhole, atFilled, atClosed,
      isClosedUp_of_reduce (distinct.get? atWhole) (holds.behind atWhole) through reduced thinned⟩

/-- Arrays with gaps in front of, between and behind what is found. -/
def pile : Value :=
  .arr [.str "x", .arr [.str "y", .str "book", .str "z", .str "book", .int 0], .str "book"]

theorem hasDistinctKeys_pile : pile.HasDistinctKeys := by
  have inner : (Value.arr [.str "y", .str "book", .str "z", .str "book", .int 0]).HasDistinctKeys :=
    .arr (by simpa using ⟨.scalar rfl, .scalar rfl, .scalar rfl, .scalar rfl, .scalar rfl⟩)
  exact .arr (by simpa using ⟨.scalar rfl, inner, .scalar rfl⟩)

theorem search_pile :
    ∃ response, Search.search findBook pile = .ok response ∧
      (∀ r ∈ response.results, IsFoundIn pile r) ∧
      pathsOf response.results =
        [[.index 1, .index 1], [.index 1, .index 3], [.index 2]] := by
  have runs : ¬ Search.BreaksDown (.simple true ['b', 'o', 'o', 'k']) findBook pile :=
    Search.not_breaksDown Match.TextMode.noConfusion
  have searched := Search.search_of_not_breaksDown rfl rfl runs
  exact ⟨_, searched, fun r inside => ⟨findBook, _, searched, inside⟩, by decide +kernel⟩

/-- The last book of the inner array moves up in both arrays, and the two books are all that is left
of that array. -/
theorem toResults_closes_gaps_of_pile :
    pile.HasDistinctKeys ∧ ∃ response, Search.search findBook pile = .ok response ∧
      (∀ r ∈ response.results, IsFoundIn pile r) ∧
      ∃ compact, toResults .closed response.results pile = .ok compact ∧
        compact.get? [.index 0, .index 1] = some (.str "book") ∧
        ∃ items, compact.get? [.index 0] = some (.arr items) ∧ items.length = 2 := by
  obtain ⟨response, searched, found, paths⟩ := search_pile
  obtain ⟨compact, padded, reduced, -, places⟩ := toResults_closes_gaps hasDistinctKeys_pile found
  refine ⟨hasDistinctKeys_pile, response, searched, found, compact, reduced, ?_⟩
  have wanted : [.index 1, .index 3] ∈ pathsOf response.results := by simp [paths]
  obtain ⟨r, inside, segments⟩ := List.mem_map.mp wanted
  have outermost : IsOutermost (pathsOf response.results) r.segments := by
    rw [segments, paths]
    decide
  obtain ⟨before, after, above⟩ := places r inside outermost
  rw [segments] at before after above
  constructor
  · rw [paths, ← before] at after
    exact after
  · obtain ⟨whole, filled, closed, atWhole, -, atClosed, closedUp⟩ :=
      above [.index 1] (by decide) (by decide)
    obtain rfl := Option.some.inj (atWhole.symm.trans rfl)
    rw [paths] at atClosed closedUp
    cases closedUp with
    | @arr items filled closed count _ => exact ⟨closed, atClosed, count⟩

end JsonSeek.Prune
