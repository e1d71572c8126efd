import JsonSeek.Path.Lookup
import JsonSeek.Path.Nodes

/-!
# The tree of a document

Whatever walks a document is a mutual recursion over arrays and objects. Here the direct parts of a
value become one list, `Value.children`, with one induction principle over it, so that each walk is
described by a single equation. Following a path and listing the nodes are the first two: in a
document with distinct keys the nodes are exactly what the paths lead to.
-/

namespace JsonSeek.Value

/-! ## Parts -/

theorem mem_indexed_iff {i : Nat} {items : List Value} {step : Segment} {part : Value} :
    (step, part) ∈ indexed i items ↔ ∃ n, step = .index (i + n : Nat) ∧ items[n]? = some part := by
  induction items generalizing i with
  | nil => simp [indexed]
  | cons v rest ih =>
      simp only [indexed, List.mem_cons, Prod.mk.injEq, ih]
      constructor
      · rintro (⟨rfl, rfl⟩ | ⟨n, rfl, found⟩)
        · exact ⟨0, rfl, rfl⟩
        · exact ⟨n + 1, by rw [Nat.add_right_comm, Nat.add_assoc], found⟩
      · rintro ⟨n, rfl, found⟩
        cases n with
        | zero => exact Or.inl ⟨rfl, (Option.some.inj found).symm⟩
        | succ n => exact Or.inr ⟨n, by rw [Nat.add_right_comm, Nat.add_assoc], found⟩

theorem mem_children_arr_iff {items : List Value} {step : Segment} {part : Value} :
    (step, part) ∈ (Value.arr items).children ↔
      ∃ n : Nat, step = .index n ∧ items[n]? = some part := by
  simp [children, mem_indexed_iff]

theorem mem_children_obj_iff {fields : List (String × Value)} {step : Segment} {part : Value} :
    (step, part) ∈ (Value.obj fields).children ↔ ∃ key, step = .key key ∧ (key, part) ∈ fields := by
  simp only [children, List.mem_map, Prod.mk.injEq, Prod.exists]
  constructor
  · rintro ⟨key, v, found, rfl, rfl⟩
    exact ⟨key, rfl, found⟩
  · rintro ⟨key, rfl, found⟩
    exact ⟨key, part, found, rfl, rfl⟩

theorem children_of_not_isContainer {v : Value} (scalar : v.isContainer = false) :
    v.children = [] := by
  cases v with
  | arr items => cases scalar
  | obj fields => cases scalar
  | _ => rfl

theorem sizeOf_lt_of_mem_children {v part : Value} {step : Segment}
    (found : (step, part) ∈ v.children) : sizeOf part < sizeOf v := by
  cases v with
  | arr items =>
      obtain ⟨n, -, found⟩ := mem_children_arr_iff.mp found
      have inside := List.sizeOf_lt_of_mem (List.mem_of_getElem? found)
      simp only [arr.sizeOf_spec]
      omega
  | obj fields =>
      obtain ⟨key, -, found⟩ := mem_children_obj_iff.mp found
      have inside := List.sizeOf_lt_of_mem found
      simp only [Prod.mk.sizeOf_spec] at inside
      simp only [obj.sizeOf_spec]
      omega
  | _ => cases found

/-- What holds of a value whenever it holds of all its parts holds of every value. -/
theorem inductionOnChildren {motive : Value → Prop}
    (step : ∀ v : Value, (∀ child ∈ v.children, motive child.2) → motive v) (v : Value) :
    motive v :=
  step v fun child found =>
    have : sizeOf child.2 < sizeOf v := sizeOf_lt_of_mem_children found
    inductionOnChildren step child.2
termination_by sizeOf v

/-! ## Distinct keys -/

/-- In every object of the value the keys are distinct. -/
inductive HasDistinctKeys : Value → Prop
  | scalar {v : Value} : v.isContainer = false → HasDistinctKeys v
  | arr {items : List Value} : (∀ v ∈ items, HasDistinctKeys v) → HasDistinctKeys (.arr items)
  | obj {fields : List (String × Value)} : (fields.map Prod.fst).Nodup →
      (∀ field ∈ fields, HasDistinctKeys field.2) → HasDistinctKeys (.obj fields)

theorem HasDistinctKeys.child {v part : Value} {step : Segment} (distinct : v.HasDistinctKeys)
    (found : (step, part) ∈ v.children) : part.HasDistinctKeys := by
  cases distinct with
  | scalar leaf => simp [children_of_not_isContainer leaf] at found
  | arr inside =>
      obtain ⟨n, -, found⟩ := mem_children_arr_iff.mp found
      exact inside part (List.mem_of_getElem? found)
  | obj _ inside =>
      obtain ⟨key, -, found⟩ := mem_children_obj_iff.mp found
      exact inside (key, part) found

/-! ## Following a path -/

theorem mem_of_field? {name : String} {part : Value} {fields : List (String × Value)}
    (found : field? name fields = some part) : (name, part) ∈ fields := by
  induction fields with
  | nil => cases found
  | cons field rest ih =>
      obtain ⟨key, v⟩ := field
      by_cases same : key = name
      · simp only [field?, if_pos same, Option.some.injEq] at found
        simp [same, found]
      · simp only [field?, if_neg same] at found
        exact List.mem_cons_of_mem _ (ih found)

theorem field?_of_mem {name : String} {part : Value} {fields : List (String × Value)}
    (distinct : (fields.map Prod.fst).Nodup) (found : (name, part) ∈ fields) :
    field? name fields = some part := by
  induction fields with
  | nil => cases found
  | cons field rest ih =>
      obtain ⟨key, v⟩ := field
      rw [List.map_cons, List.nodup_cons] at distinct
      rcases List.mem_cons.mp found with same | later
      · obtain ⟨rfl, rfl⟩ := Prod.mk.inj same
        exact if_pos rfl
      · have other : key ≠ name := by
          rintro rfl
          exact distinct.1 (List.mem_map.mpr ⟨(key, part), later, rfl⟩)
        simp only [field?, if_neg other]
        exact ih distinct.2 later

/-- A step leads to one of the parts. -/
theorem mem_children_of_step? {v part : Value} {step : Segment} (found : v.step? step = some part) :
    (step, part) ∈ v.children := by
  cases v with
  | arr items =>
      cases step with
      | key name => cases found
      | index i =>
          simp only [step?] at found
          split at found
          · cases found
          · rename_i notNegative
            refine mem_children_arr_iff.mpr ⟨i.toNat, ?_, found⟩
            rw [Int.toNat_of_nonneg (by omega)]
  | obj fields =>
      cases step with
      | index i => cases found
      | key name => exact mem_children_obj_iff.mpr ⟨name, rfl, mem_of_field? found⟩
  | _ => cases step <;> cases found

/-- Where keys are distinct, every part is reached by its own step. -/
theorem HasDistinctKeys.step?_eq_some_iff {v part : Value} {step : Segment}
    (distinct : v.HasDistinctKeys) : v.step? step = some part ↔ (step, part) ∈ v.children := by
  refine ⟨mem_children_of_step?, fun found => ?_⟩
  cases distinct with
  | scalar leaf => simp [children_of_not_isContainer leaf] at found
  | arr _ =>
      obtain ⟨n, rfl, element⟩ := mem_children_arr_iff.mp found
      simp [step?, element]
  | obj keys _ =>
      obtain ⟨key, rfl, field⟩ := mem_children_obj_iff.mp found
      exact field?_of_mem keys field

theorem lookup_eq_ok_iff {v part : Value} {path : Path} :
    v.lookup path = .ok part ↔ v.get? path = some part := by
  unfold get?
  cases v.lookup path with
  | error missing => simp [Except.toOption]
  | ok found => simp [Except.toOption]

@[simp] theorem get?_nil (v : Value) : v.get? [] = some v := rfl

theorem get?_cons (v : Value) (step : Segment) (rest : Path) :
    v.get? (step :: rest) = (v.step? step).bind fun part => part.get? rest := by
  simp only [get?, lookup]
  cases v.step? step <;> rfl

/-- Following two paths one after the other is following both as one. -/
theorem get?_append (v : Value) (first second : Path) :
    v.get? (first ++ second) = (v.get? first).bind fun part => part.get? second := by
  induction first generalizing v with
  | nil => rfl
  | cons step rest ih =>
      rw [List.cons_append, get?_cons, get?_cons]
      cases v.step? step with
      | none => rfl
      | some part => exact ih part

theorem get?_concat (v : Value) (path : Path) (step : Segment) :
    v.get? (path ++ [step]) = (v.get? path).bind fun part => part.step? step := by
  rw [get?_append]
  congr 1
  funext part
  rw [get?_cons]
  cases part.step? step <;> rfl

theorem HasDistinctKeys.get? {v part : Value} {path : Path} (distinct : v.HasDistinctKeys)
    (found : v.get? path = some part) : part.HasDistinctKeys := by
  induction path generalizing v with
  | nil =>
      obtain rfl := Option.some.inj found
      exact distinct
  | cons step rest ih =>
      rw [get?_cons] at found
      obtain ⟨next, stepped, found⟩ := Option.bind_eq_some_iff.mp found
      exact ih (distinct.child (mem_children_of_step? stepped)) found

/-! ## Nodes -/

theorem nodesOfItems_eq (path : Path) (i : Nat) (items : List Value) :
    nodesOfItems path i items =
      (indexed i items).flatMap fun child => child.2.nodesFrom (path ++ [child.1]) := by
  induction items generalizing i with
  | nil => rfl
  | cons v rest ih => simp [nodesOfItems, indexed, ih]

theorem nodesOfFields_eq (path : Path) (fields : List (String × Value)) :
    nodesOfFields path fields =
      (fields.map fun (name, v) => (Segment.key name, v)).flatMap fun child =>
        child.2.nodesFrom (path ++ [child.1]) := by
  induction fields with
  | nil => rfl
  | cons field rest ih => simp [nodesOfFields, ih]

/-- A value comes first, followed by everything below its parts. -/
theorem nodesFrom_eq (path : Path) (v : Value) :
    v.nodesFrom path =
      ⟨path, v⟩ :: v.children.flatMap fun child => child.2.nodesFrom (path ++ [child.1]) := by
  cases v with
  | arr items => simp only [nodesFrom, children, nodesOfItems_eq]
  | obj fields => simp only [nodesFrom, children, nodesOfFields_eq]
  | _ => rfl

/-- The nodes below a place are what the paths that go on from there lead to. -/
theorem HasDistinctKeys.mem_nodesFrom_iff {v : Value} (distinct : v.HasDistinctKeys) {path : Path}
    {node : Node} :
    node ∈ v.nodesFrom path ↔ ∃ rest, node.path = path ++ rest ∧ v.get? rest = some node.value := by
  induction v using inductionOnChildren generalizing path with
  | step v ih =>
      rw [nodesFrom_eq, List.mem_cons, List.mem_flatMap]
      constructor
      · rintro (rfl | ⟨⟨step, part⟩, child, inside⟩)
        · exact ⟨[], (List.append_nil path).symm, rfl⟩
        · obtain ⟨rest, leads, found⟩ := (ih _ child (distinct.child child)).mp inside
          refine ⟨step :: rest, by simpa using leads, ?_⟩
          rw [get?_cons, distinct.step?_eq_some_iff.mpr child]
          exact found
      · rintro ⟨rest, leads, found⟩
        cases rest with
        | nil =>
            obtain ⟨nodePath, value⟩ := node
            rw [List.append_nil] at leads
            simp only [get?_nil, Option.some.injEq] at found
            exact Or.inl (by simp_all)
        | cons step rest =>
            rw [get?_cons] at found
            obtain ⟨part, stepped, found⟩ := Option.bind_eq_some_iff.mp found
            have child := mem_children_of_step? stepped
            exact Or.inr ⟨(step, part), child,
              (ih _ child (distinct.child child)).mpr ⟨rest, by simpa using leads, found⟩⟩

/-- In a document with distinct keys the nodes are exactly what the paths lead to. -/
theorem HasDistinctKeys.mem_nodes_iff {document : Value} (distinct : document.HasDistinctKeys)
    {node : Node} : node ∈ document.nodes ↔ document.get? node.path = some node.value := by
  simp [nodes, distinct.mem_nodesFrom_iff]

end JsonSeek.Value
