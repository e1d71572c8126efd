import JsonSeek.Proofs.Document
import JsonSeek.Query.Select

/-!
# Selections

A selection either succeeds with nodes or fails, in the one way there is. What a list of selections
comes to is therefore settled by two questions, whether all of them succeed and what they find; the
order in which they are made does not show. Going down through a value is one such list, over the
nodes of the value (`selectDeep_eq`).
-/

namespace JsonSeek.Query

namespace Selection

/-- The nodes of a selection that succeeds. -/
def found : Selection → List Node
  | .ok nodes => nodes
  | .error _ => []

theorem append_eq_ite (x y : Selection) :
    x.append y =
      if x.isOk && y.isOk then .ok (x.found ++ y.found) else .error .integerTooLarge := by
  cases x with
  | error e => cases e; rfl
  | ok nodes =>
      cases y with
      | error e => cases e; rfl
      | ok more => rfl

@[simp] theorem append_ok_nil (x : Selection) : x.append (.ok []) = x := by
  cases x with
  | error e => rfl
  | ok nodes => exact congrArg Except.ok (List.append_nil nodes)

@[simp] theorem ok_nil_append (x : Selection) : Selection.append (.ok []) x = x := by
  cases x <;> rfl

@[simp] theorem append_error (x : Selection) (e : Overflow) :
    x.append (.error e) = .error .integerTooLarge := by
  cases e
  cases x with
  | error e => cases e; rfl
  | ok nodes => rfl

theorem append_assoc (x y z : Selection) : (x.append y).append z = x.append (y.append z) := by
  cases x with
  | error e => rfl
  | ok nodes =>
      cases y with
      | error e => rfl
      | ok more =>
          cases z with
          | error e => rfl
          | ok rest => exact congrArg Except.ok (List.append_assoc nodes more rest)

end Selection

section Gather

variable {α β : Type}

theorem gather_append (f : α → Selection) (first second : List α) :
    gather f (first ++ second) = (gather f first).append (gather f second) := by
  induction first with
  | nil => exact (Selection.ok_nil_append _).symm
  | cons a rest ih => rw [List.cons_append, gather, gather, ih, Selection.append_assoc]

theorem gather_map (f : β → Selection) (g : α → β) (l : List α) :
    gather f (l.map g) = gather (fun a => f (g a)) l := by
  induction l with
  | nil => rfl
  | cons a rest ih => rw [List.map_cons, gather, gather, ih]

theorem gather_flatMap (f : β → Selection) (g : α → List β) (l : List α) :
    gather f (l.flatMap g) = gather (fun a => gather f (g a)) l := by
  induction l with
  | nil => rfl
  | cons a rest ih => rw [List.flatMap_cons, gather_append, gather, ih]

theorem gather_congr {f g : α → Selection} {l : List α} (same : ∀ a ∈ l, f a = g a) :
    gather f l = gather g l := by
  induction l with
  | nil => rfl
  | cons a rest ih =>
      rw [gather, gather, same a List.mem_cons_self,
        ih fun b inside => same b (List.mem_cons_of_mem _ inside)]

/-- Selections succeed together exactly if each does, and then find what they find in turn. -/
theorem gather_eq_ite (f : α → Selection) (l : List α) :
    gather f l =
      if l.all fun a => (f a).isOk then .ok (l.flatMap fun a => (f a).found)
      else .error .integerTooLarge := by
  induction l with
  | nil => rfl
  | cons a rest ih =>
      rw [gather, Selection.append_eq_ite, List.all_cons, List.flatMap_cons, ih]
      cases (f a).isOk <;> cases rest.all (fun a => (f a).isOk) <;> rfl

/-- A condition on every element can be asked beforehand. -/
theorem gather_ite (allowed : α → Bool) (f : α → Selection) (l : List α) :
    gather (fun a => if allowed a then f a else .error .integerTooLarge) l =
      if l.all allowed then gather f l else .error .integerTooLarge := by
  induction l with
  | nil => rfl
  | cons a rest ih =>
      rw [gather, ih, List.all_cons, gather]
      cases allowed a with
      | false => rfl
      | true =>
          cases rest.all allowed with
          | true => rfl
          | false => exact Selection.append_error _ _

@[simp] theorem gather_singleton (f : α → Selection) (a : α) : gather f [a] = f a :=
  Selection.append_ok_nil _

end Gather

/-! ## Going down -/

section Deep

variable (sel : Path → Value → Selection)

theorem selectDeepItems_eq (path : Path) (i : Nat) (items : List Value) :
    selectDeepItems sel path i items =
      gather (fun child => selectDeep sel (path ++ [child.1]) child.2) (Value.indexed i items) := by
  induction items generalizing i with
  | nil => rfl
  | cons v rest ih => rw [selectDeepItems, Value.indexed, gather, ih]

theorem selectDeepFields_eq (path : Path) (fields : List (String × Value)) :
    selectDeepFields sel path fields =
      gather (fun child => selectDeep sel (path ++ [child.1]) child.2)
        (fields.map fun (name, v) => (Segment.key name, v)) := by
  induction fields with
  | nil => rfl
  | cons field rest ih => rw [selectDeepFields, List.map_cons, gather, ih]

/-- A value is selected from first, and then each of its parts in the same way. -/
theorem selectDeep_eq_append (path : Path) (v : Value) :
    selectDeep sel path v =
      (sel path v).append
        (gather (fun child => selectDeep sel (path ++ [child.1]) child.2) v.children) := by
  cases v with
  | arr items => rw [selectDeep, selectDeepItems_eq]; rfl
  | obj fields => rw [selectDeep, selectDeepFields_eq]; rfl
  | _ => exact (Selection.append_ok_nil _).symm

/-- Going down selects from every node in document order. -/
theorem selectDeep_eq (path : Path) (v : Value) :
    selectDeep sel path v =
      gather (fun node => sel node.path node.value) (v.nodesFrom path) := by
  induction v using Value.inductionOnChildren generalizing path with
  | step v ih =>
      rw [selectDeep_eq_append, Value.nodesFrom_eq, gather, gather_flatMap]
      exact congrArg _ (gather_congr fun child found => ih child found _)

end Deep

end JsonSeek.Query
