import JsonSeek.Proofs.Document
import JsonSeek.Prune

/-!
# Looking things up in a reduced document

A reduced value is described by what its steps lead to. Nothing is left of a value exactly if it
holds none of the targets (`reduce_eq_none_iff`). Otherwise a step leads to what is kept of the part
that it led to before, or, in front of a later element that is kept, to null (`step?_of_reduce`).
-/

namespace JsonSeek.Prune

open Value

variable {gaps : Gaps} {targets : List Path}

@[simp] theorem mem_below_iff {step : Segment} {path : Path} :
    path ∈ below step targets ↔ step :: path ∈ targets := by
  simp only [below, List.mem_filterMap]
  constructor
  · rintro ⟨target, wanted, rest⟩
    cases target with
    | nil => cases rest
    | cons first more =>
        by_cases same : first = step
        · simp only [if_pos same, Option.some.injEq] at rest
          rwa [← same, ← rest]
        · simp [if_neg same] at rest
  · intro wanted
    exact ⟨step :: path, wanted, if_pos rfl⟩

/-! ## Values of which nothing is left -/

theorem reduceItems_eq_nil_iff {i gap : Nat} {items : List Value} :
    reduceItems gaps targets i gap items = [] ↔
      ∀ child ∈ indexed i items, reduce gaps (below child.1 targets) child.2 = none := by
  induction items generalizing i gap with
  | nil => simp [reduceItems, indexed]
  | cons v rest ih =>
      rw [reduceItems, indexed, List.forall_mem_cons]
      cases kept : reduce gaps (below (.index i) targets) v with
      | none => simpa using ih
      | some part => simp

theorem reduceFields_eq_nil_iff {fields : List (String × Value)} :
    reduceFields gaps targets fields = [] ↔
      ∀ field ∈ fields, reduce gaps (below (.key field.1) targets) field.2 = none := by
  induction fields with
  | nil => simp [reduceFields]
  | cons field rest ih =>
      obtain ⟨key, v⟩ := field
      rw [reduceFields, List.forall_mem_cons]
      cases kept : reduce gaps (below (.key key) targets) v with
      | none => simpa using ih
      | some part => simp

theorem reduce_of_mem (wanted : [] ∈ targets) (v : Value) : reduce gaps targets v = some v := by
  unfold reduce
  exact if_pos wanted

/-- Nothing is left of a value that is not wanted itself if nothing is left of its parts. -/
theorem reduce_eq_none_iff_children {v : Value} :
    reduce gaps targets v = none ↔
      [] ∉ targets ∧ ∀ child ∈ v.children, reduce gaps (below child.1 targets) child.2 = none := by
  by_cases wanted : [] ∈ targets
  · simp [reduce_of_mem wanted, wanted]
  · cases v with
    | arr items =>
        rw [reduce, if_neg wanted, children, ← @reduceItems_eq_nil_iff gaps targets 0 0]
        split <;> simp_all
    | obj fields =>
        rw [reduce, if_neg wanted, children, List.forall_mem_map, ← reduceFields_eq_nil_iff]
        split <;> simp_all
    | _ => simp [reduce, children, wanted]

/-- Nothing is left of a value exactly if it holds none of the targets. -/
theorem reduce_eq_none_iff {v : Value} (distinct : v.HasDistinctKeys) :
    reduce gaps targets v = none ↔ ∀ target ∈ targets, v.get? target = none := by
  induction v using inductionOnChildren generalizing targets with
  | step v ih =>
      rw [reduce_eq_none_iff_children]
      constructor
      · rintro ⟨unwanted, empty⟩ target wanted
        cases target with
        | nil => exact absurd wanted unwanted
        | cons step rest =>
            rw [get?_cons, Option.bind_eq_none_iff]
            intro part stepped
            have child := mem_children_of_step? stepped
            exact (ih _ child (distinct.child child)).mp (empty _ child) rest
              (mem_below_iff.mpr wanted)
      · intro missing
        refine ⟨fun wanted => ?_, fun child inside => ?_⟩
        · cases missing [] wanted
        · refine (ih child inside (distinct.child inside)).mpr fun rest wanted => ?_
          have lost := missing _ (mem_below_iff.mp wanted)
          rwa [get?_cons, distinct.step?_eq_some_iff.mpr inside] at lost

/-- Something is left of a value exactly if it holds one of the targets. -/
theorem isSome_reduce_iff {v : Value} (distinct : v.HasDistinctKeys) :
    (reduce gaps targets v).isSome ↔ ∃ target ∈ targets, (v.get? target).isSome := by
  rw [Option.isSome_iff_ne_none, Ne, reduce_eq_none_iff distinct]
  simp [Option.isSome_iff_ne_none]

/-! ## Fields -/

theorem field?_eq_none {name : String} {fields : List (String × Value)}
    (missing : name ∉ fields.map Prod.fst) : field? name fields = none := by
  cases found : field? name fields with
  | none => rfl
  | some v => exact absurd (List.mem_map.mpr ⟨_, mem_of_field? found, rfl⟩) missing

theorem field?_reduceFields {name : String} {fields : List (String × Value)}
    (distinct : (fields.map Prod.fst).Nodup) :
    field? name (reduceFields gaps targets fields) =
      (field? name fields).bind (reduce gaps (below (.key name) targets)) := by
  induction fields with
  | nil => rfl
  | cons field rest ih =>
      obtain ⟨key, v⟩ := field
      rw [List.map_cons, List.nodup_cons] at distinct
      rw [reduceFields]
      by_cases same : key = name
      · subst same
        have gone : field? key rest = none := field?_eq_none distinct.1
        cases kept : reduce gaps (below (.key key) targets) v with
        | none => simp [field?, ih distinct.2, gone, kept]
        | some part => simp [field?, kept]
      · cases kept : reduce gaps (below (.key key) targets) v with
        | none => simp [field?, same, ih distinct.2]
        | some part => simp [field?, same, ih distinct.2]

/-! ## Elements -/

/-- The elements of an array that is not to be compact: what was left out becomes null, unless
nothing that is kept comes behind it. -/
def padded : List (Option Value) → List Value
  | [] => []
  | part :: rest =>
    if part.isNone && (padded rest).isEmpty then [] else part.getD .null :: padded rest

theorem padded_cons {part : Option Value} {rest : List (Option Value)}
    (kept : part.isSome ∨ padded rest ≠ []) :
    padded (part :: rest) = part.getD .null :: padded rest := by
  rw [padded, if_neg]
  rcases kept with kept | kept
  · simp [Option.isNone_eq_false_iff.mpr kept]
  · simp [kept]

theorem padded_eq_nil_iff {parts : List (Option Value)} :
    padded parts = [] ↔ ∀ part ∈ parts, part = none := by
  induction parts with
  | nil => simp [padded]
  | cons part rest ih =>
      rw [padded, List.forall_mem_cons, ← ih]
      cases part <;> simp

theorem exists_mem_of_padded_ne_nil {parts : List (Option Value)} (kept : padded parts ≠ []) :
    ∃ v, some v ∈ parts := by
  refine Classical.byContradiction fun nothing => kept (padded_eq_nil_iff.mpr ?_)
  intro part inside
  cases part with
  | none => rfl
  | some v => exact absurd ⟨v, inside⟩ nothing

theorem padded_replicate_append {n : Nat} {rest : List (Option Value)} (kept : padded rest ≠ []) :
    padded (List.replicate n none ++ rest) = List.replicate n .null ++ padded rest := by
  induction n with
  | zero => rfl
  | succ n ih =>
      have later : padded (List.replicate n none ++ rest) ≠ [] := by
        rw [ih]
        simp [kept]
      rw [List.replicate_succ, List.cons_append, padded_cons (Or.inr later), ih]
      rfl

/-- An element was kept, or it is null and stands in front of one that was kept. -/
theorem getElem?_padded_iff {parts : List (Option Value)} {n : Nat} {v : Value} :
    (padded parts)[n]? = some v ↔
      parts[n]? = some (some v) ∨
        v = .null ∧ parts[n]? = some none ∧ ∃ w, some w ∈ parts.drop (n + 1) := by
  induction parts generalizing n with
  | nil => simp [padded]
  | cons part rest ih =>
      by_cases kept : part.isSome ∨ padded rest ≠ []
      · rw [padded_cons kept]
        cases n with
        | succ n => exact ih
        | zero =>
            cases part with
            | some w => simp [eq_comm]
            | none =>
                have later := exists_mem_of_padded_ne_nil (kept.resolve_left (by simp))
                simp [later, eq_comm]
      · have nothing : ∀ p ∈ part :: rest, p = none := by
          simp only [not_or, Option.not_isSome_iff_eq_none, Decidable.not_not] at kept
          exact List.forall_mem_cons.mpr ⟨kept.1, padded_eq_nil_iff.mp kept.2⟩
        rw [padded_eq_nil_iff.mpr nothing]
        refine iff_of_false (by simp) ?_
        rintro (found | ⟨-, -, w, later⟩)
        · cases nothing _ (List.mem_of_getElem? found)
        · cases nothing _ (List.mem_of_mem_drop later)

/-- What is kept of the elements of an array, the first of which has the index `i`. -/
def keptItems (targets : List Path) (i : Nat) (items : List Value) : List (Option Value) :=
  (indexed i items).map fun child => reduce .filled (below child.1 targets) child.2

theorem getElem?_indexed (i n : Nat) (items : List Value) :
    (indexed i items)[n]? = items[n]?.map fun v => (.index (i + n : Nat), v) := by
  induction items generalizing i n with
  | nil => rfl
  | cons v rest ih =>
      cases n with
      | zero => rfl
      | succ n => rw [indexed, List.getElem?_cons_succ, ih, Nat.add_right_comm]; rfl

theorem getElem?_keptItems (n : Nat) (items : List Value) :
    (keptItems targets 0 items)[n]? =
      items[n]?.map (reduce .filled (below (.index n) targets)) := by
  rw [keptItems, List.getElem?_map, getElem?_indexed, Option.map_map, Nat.zero_add]
  rfl

theorem reduceItems_eq_padded (i gap : Nat) (items : List Value) :
    reduceItems .filled targets i gap items =
      padded (List.replicate gap none ++ keptItems targets i items) := by
  induction items generalizing i gap with
  | nil =>
      symm
      rw [keptItems, indexed, List.map_nil, List.append_nil]
      exact padded_eq_nil_iff.mpr fun part inside => List.eq_of_mem_replicate inside
  | cons v rest ih =>
      have first : keptItems targets i (v :: rest) =
          reduce .filled (below (.index i) targets) v :: keptItems targets (i + 1) rest := rfl
      rw [reduceItems, first]
      cases kept : reduce .filled (below (.index i) targets) v with
      | none =>
          simp only [ih]
          rw [List.replicate_succ', List.append_assoc]
          rfl
      | some part =>
          have nonempty : padded (some part :: keptItems targets (i + 1) rest) =
              part :: padded (keptItems targets (i + 1) rest) := padded_cons (Or.inl rfl)
          rw [padded_replicate_append (by simp [nonempty]), nonempty]
          simp [ih]

/-! ## Steps -/

/-- What is kept of the part that a step leads to. -/
def keptAt (targets : List Path) (v : Value) (step : Segment) : Option Value :=
  (v.step? step).bind (reduce .filled (below step targets))

/-- Something is kept behind a step exactly if a target that is held begins with it. -/
theorem isSome_keptAt_iff {v : Value} (distinct : v.HasDistinctKeys) {step : Segment} :
    (keptAt targets v step).isSome ↔
      ∃ rest, step :: rest ∈ targets ∧ (v.get? (step :: rest)).isSome := by
  simp only [keptAt, get?_cons]
  cases stepped : v.step? step with
  | none => simp
  | some child =>
      have part := distinct.child (mem_children_of_step? stepped)
      simp only [Option.bind_some, isSome_reduce_iff part, mem_below_iff]

@[simp] theorem step?_index (items : List Value) (n : Nat) :
    (Value.arr items).step? (.index n) = items[n]? := by
  have natural : ¬ (n : Int) < 0 := by omega
  simp only [step?, if_neg natural, Int.toNat_natCast]

theorem step?_index_eq_some_iff {items : List Value} {i : Int} {v : Value} :
    (Value.arr items).step? (.index i) = some v ↔ ∃ n : Nat, i = n ∧ items[n]? = some v := by
  constructor
  · intro stepped
    obtain ⟨n, same, found⟩ := mem_children_arr_iff.mp (mem_children_of_step? stepped)
    exact ⟨n, Segment.index.inj same, found⟩
  · rintro ⟨n, rfl, found⟩
    rwa [step?_index]

theorem keptAt_index (targets : List Path) (items : List Value) (n : Nat) :
    keptAt targets (.arr items) (.index n) = (keptItems targets 0 items)[n]?.join := by
  rw [keptAt, step?_index, getElem?_keptItems]
  cases items[n]? <;> rfl

/-- A place in a padded array holds what is kept of the element there, or a null in front of a later
element that is kept. -/
theorem getElem?_padded_keptItems_iff {items : List Value} {n : Nat} {w : Value} :
    (padded (keptItems targets 0 items))[n]? = some w ↔
      keptAt targets (.arr items) (.index n) = some w ∨
        w = .null ∧ keptAt targets (.arr items) (.index n) = none ∧
          ∃ j : Nat, n < j ∧ (keptAt targets (.arr items) (.index j)).isSome := by
  have kept := keptAt_index targets items
  rw [getElem?_padded_iff, kept]
  generalize keptItems targets 0 items = parts at kept ⊢
  constructor
  · rintro (found | ⟨rfl, leftOut, w, later⟩)
    · exact Or.inl (by rw [found]; rfl)
    · obtain ⟨k, found⟩ := List.mem_iff_getElem?.mp later
      rw [List.getElem?_drop] at found
      refine Or.inr ⟨rfl, by rw [leftOut]; rfl, n + 1 + k, by omega, ?_⟩
      rw [kept, found]
      rfl
  · rintro (found | ⟨rfl, leftOut, j, before, later⟩)
    · exact Or.inl (Option.join_eq_some_iff.mp found)
    · obtain ⟨w, found⟩ := Option.isSome_iff_exists.mp later
      rw [kept, Option.join_eq_some_iff] at found
      obtain ⟨inside, -⟩ := List.getElem?_eq_some_iff.mp found
      rw [List.getElem?_eq_getElem (by omega)] at leftOut ⊢
      refine Or.inr ⟨rfl, congrArg some leftOut, w, List.mem_iff_getElem?.mpr ?_⟩
      refine ⟨j - (n + 1), ?_⟩
      rw [List.getElem?_drop, Nat.add_sub_cancel' before]
      exact found

theorem reduceItems_filled (items : List Value) :
    reduceItems .filled targets 0 0 items = padded (keptItems targets 0 items) :=
  reduceItems_eq_padded 0 0 items

theorem reduce_obj (through : [] ∉ targets) {fields : List (String × Value)}
    (kept : reduceFields gaps targets fields ≠ []) :
    reduce gaps targets (.obj fields) = some (.obj (reduceFields gaps targets fields)) := by
  rw [reduce, if_neg through]
  split
  · rename_i nothing
    exact absurd nothing kept
  · rfl

theorem reduce_arr (through : [] ∉ targets) {items : List Value}
    (kept : reduceItems gaps targets 0 0 items ≠ []) :
    reduce gaps targets (.arr items) = some (.arr (reduceItems gaps targets 0 0 items)) := by
  rw [reduce, if_neg through]
  split
  · rename_i nothing
    exact absurd nothing kept
  · rfl

/-- Of a value that is not wanted itself only a container can be left. -/
theorem container_cases {v part : Value} (reduced : reduce gaps targets v = some part)
    (through : [] ∉ targets) :
    (∃ fields, v = .obj fields ∧ part = .obj (reduceFields gaps targets fields) ∧
        reduceFields gaps targets fields ≠ []) ∨
      ∃ items, v = .arr items ∧ part = .arr (reduceItems gaps targets 0 0 items) ∧
        reduceItems gaps targets 0 0 items ≠ [] := by
  cases v with
  | obj fields =>
      by_cases kept : reduceFields gaps targets fields = []
      · simp [reduce, through, kept] at reduced
      · rw [reduce_obj through kept] at reduced
        exact Or.inl ⟨fields, rfl, (Option.some.inj reduced).symm, kept⟩
  | arr items =>
      by_cases kept : reduceItems gaps targets 0 0 items = []
      · simp [reduce, through, kept] at reduced
      · rw [reduce_arr through kept] at reduced
        exact Or.inr ⟨items, rfl, (Option.some.inj reduced).symm, kept⟩
  | _ => simp [reduce, through] at reduced

/-- All ways in which something is left of a value whose gaps are filled. -/
theorem reduce_cases {v part : Value} (reduced : reduce .filled targets v = some part)
    (through : [] ∉ targets) :
    (∃ fields, v = .obj fields ∧ part = .obj (reduceFields .filled targets fields) ∧
        reduceFields .filled targets fields ≠ []) ∨
      ∃ items, v = .arr items ∧ part = .arr (padded (keptItems targets 0 items)) ∧
        padded (keptItems targets 0 items) ≠ [] := by
  simp only [← reduceItems_filled]
  exact container_cases reduced through

/-- A step into what is left of a value leads to what is kept of the part there, or to a null in
front of a later element that is kept. -/
theorem step?_of_reduce {v part : Value} (distinct : v.HasDistinctKeys) (through : [] ∉ targets)
    (reduced : reduce .filled targets v = some part) {step : Segment} {w : Value} :
    part.step? step = some w ↔
      keptAt targets v step = some w ∨
        w = .null ∧ keptAt targets v step = none ∧
          ∃ i j : Nat, step = .index i ∧ i < j ∧ (keptAt targets v (.index j)).isSome := by
  rcases reduce_cases reduced through with ⟨fields, rfl, rfl, -⟩ | ⟨items, rfl, rfl, -⟩
  · cases step with
    | index i => simp [step?, keptAt]
    | key name =>
        cases distinct with
        | scalar leaf => cases leaf
        | obj keys _ => simp [step?, keptAt, field?_reduceFields keys]
  · cases step with
    | key name => simp [step?, keptAt]
    | index i =>
        by_cases negative : i < 0
        · -- Neither array has an element there.
          have nowhere (items : List Value) : (Value.arr items).step? (.index i) = none := by
            simp only [step?, if_pos negative]
          simp only [keptAt, nowhere, Option.bind_none, reduceCtorEq, false_or, false_iff]
          rintro ⟨-, -, n, j, same, -⟩
          have := Segment.index.inj same
          omega
        · obtain ⟨n, rfl⟩ := Int.eq_ofNat_of_zero_le (Int.not_lt.mp negative)
          rw [step?_index, getElem?_padded_keptItems_iff]
          simp only [Segment.index.injEq, Int.natCast_inj, exists_and_left, exists_eq_left']

end JsonSeek.Prune
