import JsonSeek.Proofs.Selection
import JsonSeek.Proofs.Slice

/-!
# The meaning of a query

Every token picks nodes out of a node, and a query is the composition of its tokens from left to
right, the nodes picked being put one behind the other. Selecting comes to exactly this, for every
mix of tokens and however many of them descend, unless a condition on a number beyond the range of
doubles is met on the way (`select_root_eq_compose`).
-/

namespace JsonSeek

/-- The node of a part, one step below another node. -/
def Node.child (node : Node) (step : Segment) (part : Value) : Node := ⟨node.path ++ [step], part⟩

/-- A node with a path in front of its own. -/
def Node.under (path : Path) (node : Node) : Node := ⟨path ++ node.path, node.value⟩

namespace Query

/-! ## Single tokens -/

/-- Whether a condition holds of an element. -/
def meets (condition : Comparison) (v : Value) : Bool :=
  match condition.test v with
  | .ok holds => holds
  | .error _ => false

/-- The nodes that a token picks out of a node, in document order. -/
def Token.picks : Token → Node → List Node
  | .root, node => [⟨[], node.value⟩]
  | .property name, node =>
    (node.value.step? (.key name)).toList.map (node.child (.key name))
  | .index i, node => (node.value.step? (.index i)).toList.map (node.child (.index i))
  | .wildcard, node => node.value.children.map fun (step, part) => node.child step part
  | .descent, node => node.value.nodesFrom node.path
  | .filter _ (some condition), ⟨path, .arr items⟩ =>
    ((Value.arr items).children.filter fun (_, part) => meets condition part).map
      fun (step, part) => Node.child ⟨path, .arr items⟩ step part
  | .slice start stop step, ⟨path, .arr items⟩ =>
    (sliceIndices start stop step items.length).flatMap fun i : Nat =>
      items[i]?.toList.map (Node.child ⟨path, .arr items⟩ (.index i))
  | _, _ => []

/-- Whether no condition of a token fails on a value. -/
def Token.testsPass : Token → Value → Bool
  | .filter _ (some condition), .arr items => items.all fun v => (condition.test v).isOk
  | _, _ => true

theorem fromMeeting_eq (condition : Comparison) (sel : Nat → Value → Selection) (i : Nat)
    (items : List Value) (node : Node)
    (k : Node → Selection) (same : ∀ i part, sel i part = k (node.child (.index (i : Nat)) part)) :
    fromMeeting condition sel i items =
      if items.all fun v => (condition.test v).isOk then
        gather k (((Value.indexed i items).filter fun (_, part) => meets condition part).map
          fun (step, part) => node.child step part)
      else .error .integerTooLarge := by
  induction items generalizing i with
  | nil => rfl
  | cons v rest ih =>
      rw [fromMeeting, ih, Value.indexed, List.all_cons]
      cases tested : condition.test v with
      | error e => cases e; rfl
      | ok holds =>
          have decided : meets condition v = holds := by simp only [meets, tested]
          cases rest.all fun v => (condition.test v).isOk with
          | false => exact Selection.append_error _ _
          | true =>
              cases holds with
              | false =>
                  rw [List.filter_cons_of_neg (by simp [decided])]
                  exact Selection.ok_nil_append _
              | true =>
                  rw [List.filter_cons_of_pos (by exact decided), List.map_cons, gather, ← same]
                  rfl

theorem gather_zip_range (belongs : Nat → Bool) (sel : Nat → Value → Selection) (offset : Nat)
    (items : List Value) :
    gather (fun entry => sel entry.1 entry.2)
        (((List.range' offset items.length).zip items).filter fun entry => belongs entry.1) =
      gather (fun i => gather (sel i) items[i - offset]?.toList)
        ((List.range' offset items.length).filter belongs) := by
  induction items generalizing offset with
  | nil => rfl
  | cons v rest ih =>
      have later : ∀ i ∈ (List.range' (offset + 1) rest.length).filter belongs,
          gather (sel i) rest[i - (offset + 1)]?.toList =
            gather (sel i) (v :: rest)[i - offset]?.toList := by
        intro i inside
        have bound := (List.mem_range'_1.mp (List.mem_filter.mp inside).1).1
        have shifted : i - offset = i - (offset + 1) + 1 := by omega
        rw [shifted, List.getElem?_cons_succ]
      rw [List.length_cons, List.range'_succ, List.zip_cons_cons]
      cases member : belongs offset with
      | false =>
          rw [List.filter_cons_of_neg (by simp [member]),
            List.filter_cons_of_neg (by simp [member]), ih, gather_congr later]
      | true =>
          rw [List.filter_cons_of_pos (by exact member), List.filter_cons_of_pos member, gather,
            gather, ih, gather_congr later, Nat.sub_self]
          simp

/-- Selecting from the elements of an array that belong to a slice follows its indices. -/
theorem gather_slice (start stop step : Option Int) (items : List Value)
    (sel : Nat → Value → Selection) :
    gather (fun entry => sel entry.1 entry.2)
        (((List.range items.length).zip items).filter fun entry =>
          inSlice start stop step items.length entry.1) =
      gather (fun i => gather (sel i) items[i]?.toList)
        (sliceIndices start stop step items.length) := by
  rw [sliceIndices_eq_filter, List.range_eq_range']
  exact gather_zip_range _ sel 0 items

/-- Selecting by several tokens is selecting by the others from what the first one picks. -/
theorem select_cons (token : Token) (rest : List Token) (path : Path) (v : Value) :
    select (token :: rest) path v =
      if token.testsPass v then
        gather (fun node => select rest node.path node.value) (token.picks ⟨path, v⟩)
      else .error .integerTooLarge := by
  cases token with
  | root => exact (gather_singleton _ _).symm
  | property name =>
      cases v with
      | obj fields =>
          cases found : Value.field? name fields <;>
            simp [select, found, Token.picks, Token.testsPass, Value.step?, Node.child, gather]
      | _ => rfl
  | index i =>
      cases v with
      | arr items =>
          by_cases negative : i < 0
          · simp [select, negative, Token.picks, Token.testsPass, Value.step?, gather]
          · cases found : items[i.toNat]? <;>
              simp [select, negative, found, Token.picks, Token.testsPass, Value.step?,
                Node.child, gather]
      | _ => rfl
  | wildcard =>
      simp only [select, Token.picks, gather_map]
      rfl
  | descent => exact selectDeep_eq (select rest) path v
  | filter expression condition =>
      cases condition with
      | none => cases v <;> rfl
      | some condition =>
          cases v with
          | arr items =>
              exact fromMeeting_eq condition _ 0 items ⟨path, .arr items⟩
                (fun node => select rest node.path node.value) fun i part => rfl
          | _ => rfl
  | slice start stop step =>
      cases v with
      | arr items =>
          have indexed := gather_slice start stop step items
            fun i part => select rest (path ++ [.index (i : Nat)]) part
          simp only [select, Token.picks, Token.testsPass, gather_flatMap, gather_map, if_true]
          exact indexed
      | _ => rfl

/-! ## Composition -/

/-- What tokens pick from left to right, one token after the other being applied to everything that
was picked so far. -/
def compose (tokens : List Token) (nodes : List Node) : List Node :=
  tokens.foldl (fun nodes token => nodes.flatMap token.picks) nodes

/-- On the way of the tokens through a document some element of an array is tested by a condition,
and the two are related in the given way. -/
def TestsSome (related : Comparison → Value → Prop) (tokens : List Token) (document : Value) :
    Prop :=
  ∃ before expression condition after,
    tokens = before ++ .filter expression (some condition) :: after ∧
    ∃ path items, ⟨path, .arr items⟩ ∈ compose before [⟨[], document⟩] ∧
      ∃ v ∈ items, related condition v

/-- On the way of the tokens through a document some condition fails on an element of an array. -/
def TestFails : List Token → Value → Prop :=
  TestsSome fun condition v => (condition.test v).isOk = false

/-- Whether no condition fails on the way of tokens from several nodes on. -/
def passes : List Token → List Node → Bool
  | [], _ => true
  | token :: rest, nodes =>
    nodes.all (fun node => token.testsPass node.value) && passes rest (nodes.flatMap token.picks)

theorem gather_select (tokens : List Token) (nodes : List Node) :
    gather (fun node => select tokens node.path node.value) nodes =
      if passes tokens nodes then .ok (compose tokens nodes) else .error .integerTooLarge := by
  induction tokens generalizing nodes with
  | nil =>
      rw [gather_eq_ite]
      simp [select, passes, compose, Except.isOk, Except.toBool, Selection.found]
  | cons token rest ih =>
      simp only [select_cons]
      rw [gather_ite fun node : Node => token.testsPass node.value]
      have flat := gather_flatMap (fun node => select rest node.path node.value) token.picks nodes
      rw [ih] at flat
      rw [← flat, passes]
      cases nodes.all fun node => token.testsPass node.value <;> rfl

/-- Selecting is composing, unless a condition fails on the way. -/
theorem select_eq_ite (tokens : List Token) (path : Path) (v : Value) :
    select tokens path v =
      if passes tokens [⟨path, v⟩] then .ok (compose tokens [⟨path, v⟩])
      else .error .integerTooLarge := by
  rw [← gather_select, gather_singleton]

/-- A query of a single selector selects what it picks, unless a condition fails. -/
theorem run_of_single {query : String} {token : Token} (read : tokenize query = .ok [.root, token])
    (document : Value) :
    run query document =
      if token.testsPass document then .ok (token.picks ⟨[], document⟩)
      else .error (.overflow .integerTooLarge) := by
  have selected : select [.root, token] [] document =
      if passes [token] [⟨[], document⟩] then .ok (compose [token] [⟨[], document⟩])
      else .error .integerTooLarge :=
    select_eq_ite [token] [] document
  simp only [passes, compose, List.all_cons, List.all_nil, Bool.and_true, List.foldl_cons,
    List.foldl_nil, List.flatMap_singleton] at selected
  simp only [run, read, selected]
  cases token.testsPass document <;> rfl

theorem testsPass_eq_false_iff {token : Token} {v : Value} :
    token.testsPass v = false ↔
      ∃ expression condition items, token = .filter expression (some condition) ∧ v = .arr items ∧
        ∃ v ∈ items, (condition.test v).isOk = false := by
  constructor
  · intro fails
    unfold Token.testsPass at fails
    split at fails
    · rename_i expression condition items
      obtain ⟨v, inside, refused⟩ := List.all_eq_false.mp fails
      exact ⟨expression, condition, items, rfl, rfl, v, inside, Bool.eq_false_iff.mpr refused⟩
    · cases fails
  · rintro ⟨expression, condition, items, rfl, rfl, v, inside, refused⟩
    exact List.all_eq_false.mpr ⟨v, inside, by simp [refused]⟩

theorem passes_eq_false_iff {tokens : List Token} {nodes : List Node} :
    passes tokens nodes = false ↔
      ∃ before token after, tokens = before ++ token :: after ∧
        ∃ node ∈ compose before nodes, token.testsPass node.value = false := by
  induction tokens generalizing nodes with
  | nil => simp [passes]
  | cons first rest ih =>
      rw [passes, Bool.and_eq_false_iff, List.all_eq_false, ih]
      constructor
      · rintro (⟨node, inside, fails⟩ | ⟨before, token, after, rfl, node, inside, fails⟩)
        · exact ⟨[], first, rest, rfl, node, inside, Bool.eq_false_iff.mpr fails⟩
        · exact ⟨first :: before, token, after, rfl, node, inside, fails⟩
      · rintro ⟨before, token, after, split, node, inside, fails⟩
        cases before with
        | nil =>
            obtain ⟨rfl, rfl⟩ := List.cons.inj split
            exact Or.inl ⟨node, inside, by simp [fails]⟩
        | cons head before =>
            obtain ⟨rfl, rfl⟩ := List.cons.inj split
            exact Or.inr ⟨before, token, after, rfl, node, inside, fails⟩

theorem testFails_iff {tokens : List Token} {document : Value} :
    TestFails tokens document ↔ passes tokens [⟨[], document⟩] = false := by
  rw [passes_eq_false_iff]
  constructor
  · rintro ⟨before, expression, condition, after, split, path, items, inside, refused⟩
    exact ⟨before, _, after, split, _, inside,
      testsPass_eq_false_iff.mpr ⟨expression, condition, items, rfl, rfl, refused⟩⟩
  · rintro ⟨before, token, after, split, ⟨path, v⟩, inside, fails⟩
    obtain ⟨expression, condition, items, rfl, rfl, refused⟩ := testsPass_eq_false_iff.mp fails
    exact ⟨before, expression, condition, after, split, path, items, inside, refused⟩

theorem compose_append (first second : List Token) (nodes : List Node) :
    compose (first ++ second) nodes = compose second (compose first nodes) :=
  List.foldl_append

theorem passes_append (first second : List Token) (nodes : List Node) :
    passes (first ++ second) nodes =
      (passes first nodes && passes second (compose first nodes)) := by
  induction first generalizing nodes with
  | nil => rfl
  | cons token rest ih =>
      rw [List.cons_append, passes, passes, ih, Bool.and_assoc]
      rfl

/-- Selecting by a list of tokens and then by another one. -/
theorem select_append (first second : List Token) (path : Path) (v : Value) :
    select (first ++ second) path v =
      (select first path v).bind (gather fun node => select second node.path node.value) := by
  rw [select_eq_ite, select_eq_ite first, passes_append, compose_append]
  cases passes first [⟨path, v⟩] with
  | false => rfl
  | true => exact (gather_select second _).symm

/-! ## Prefixes of paths -/

@[simp] theorem under_child (path : Path) (node : Node) (step : Segment) (part : Value) :
    (node.under path).child step part = (node.child step part).under path :=
  congrArg (Node.mk · part) (List.append_assoc path node.path [step])

theorem nodesFrom_append (path more : Path) (v : Value) :
    v.nodesFrom (path ++ more) = (v.nodesFrom more).map (Node.under path) := by
  induction v using Value.inductionOnChildren generalizing more with
  | step v ih =>
      rw [Value.nodesFrom_eq, Value.nodesFrom_eq, List.map_cons, List.map_flatMap]
      refine congrArg (_ :: ·) (List.flatMap_congr fun child found => ?_)
      rw [← ih child found, List.append_assoc]

/-- A token other than the root does not look at the path. -/
theorem picks_under {token : Token} (below : token ≠ .root) (path : Path) (node : Node) :
    token.picks (node.under path) = (token.picks node).map (Node.under path) := by
  have moved := under_child path node
  obtain ⟨nodePath, v⟩ := node
  cases token with
  | root => exact absurd rfl below
  | property name =>
      simp only [Token.picks, List.map_map]
      exact List.map_congr_left fun part _ => moved _ part
  | index i =>
      simp only [Token.picks, List.map_map]
      exact List.map_congr_left fun part _ => moved _ part
  | wildcard =>
      simp only [Token.picks, List.map_map]
      exact List.map_congr_left fun child _ => moved child.1 child.2
  | descent => exact nodesFrom_append path nodePath v
  | filter expression condition =>
      cases condition with
      | none => cases v <;> rfl
      | some condition =>
          cases v with
          | arr items =>
              simp only [Token.picks, Node.under, List.map_map]
              exact List.map_congr_left fun child _ => moved child.1 child.2
          | _ => rfl
  | slice start stop step =>
      cases v with
      | arr items =>
          simp only [Token.picks, Node.under, List.map_flatMap, List.map_map]
          exact List.flatMap_congr fun i _ => List.map_congr_left fun part _ => moved _ part
      | _ => rfl

theorem flatMap_picks_under {token : Token} (below : token ≠ .root) (path : Path)
    (nodes : List Node) :
    (nodes.map (Node.under path)).flatMap token.picks =
      (nodes.flatMap token.picks).map (Node.under path) := by
  rw [List.flatMap_map, List.map_flatMap]
  exact List.flatMap_congr fun node _ => picks_under below path node

theorem compose_under {tokens : List Token} (below : .root ∉ tokens) (path : Path)
    (nodes : List Node) :
    compose tokens (nodes.map (Node.under path)) =
      (compose tokens nodes).map (Node.under path) := by
  induction tokens generalizing nodes with
  | nil => rfl
  | cons token rest ih =>
      rw [List.mem_cons, not_or] at below
      have picked := flatMap_picks_under (Ne.symm below.1) path nodes
      exact (congrArg (compose rest) picked).trans (ih below.2 _)

theorem passes_under {tokens : List Token} (below : .root ∉ tokens) (path : Path)
    (nodes : List Node) : passes tokens (nodes.map (Node.under path)) = passes tokens nodes := by
  induction tokens generalizing nodes with
  | nil => rfl
  | cons token rest ih =>
      rw [List.mem_cons, not_or] at below
      rw [passes, passes, flatMap_picks_under (Ne.symm below.1), ih below.2, List.all_map]
      rfl

/-- Tokens other than the root select the same below every place. -/
theorem select_under {tokens : List Token} (below : .root ∉ tokens) (path : Path) (v : Value) :
    select tokens path v = (select tokens [] v).map (List.map (Node.under path)) := by
  have passed := passes_under below path [⟨[], v⟩]
  have composed := compose_under below path [⟨[], v⟩]
  rw [List.map_singleton, Node.under, List.append_nil] at passed composed
  rw [select_eq_ite, select_eq_ite, passed, composed]
  cases passes tokens [⟨[], v⟩] <;> rfl

/-- Selecting from a document is composing what the tokens pick, unless a condition fails on the
way; and a query in two parts selects, below every match of the first part, the matches of the
second. -/
theorem select_root_eq_compose (rest : List Token) (below : .root ∉ rest) (document : Value) :
    (TestFails rest document ∧ select (.root :: rest) [] document = .error .integerTooLarge ∨
      ¬ TestFails rest document ∧
        select (.root :: rest) [] document = .ok (compose rest [⟨[], document⟩])) ∧
    ∀ first second, rest = first ++ second →
      select (.root :: rest) [] document =
        (select (.root :: first) [] document).bind (gather fun node =>
          (select second [] node.value).map (List.map (Node.under node.path))) := by
  constructor
  · have whole : select (.root :: rest) [] document = select rest [] document := rfl
    rw [whole, select_eq_ite, testFails_iff]
    cases passes rest [⟨[], document⟩] with
    | false => exact Or.inl ⟨rfl, rfl⟩
    | true => exact Or.inr ⟨Bool.noConfusion, rfl⟩
  · rintro first second rfl
    have behind : .root ∉ second := fun inside => below (List.mem_append_right first inside)
    rw [← List.cons_append, select_append]
    refine congrArg _ (funext fun found => gather_congr fun node _ => ?_)
    exact select_under behind node.path node.value

/-- A field within a field of the same name. -/
def nested : Value := .obj [("a", .obj [("a", .int 1)])]

/-- Two descents reach the inner field twice. -/
theorem select_two_descents :
    .root ∉ [Token.descent, .descent, .property "a"] ∧
      ∃ found, select [.root, .descent, .descent, .property "a"] [] nested = .ok found ∧
        found.map Node.path = [[.key "a"], [.key "a", .key "a"], [.key "a", .key "a"]] := by
  have below : Token.root ∉ [Token.descent, .descent, .property "a"] := by decide
  refine ⟨below, ?_⟩
  rcases (select_root_eq_compose _ below nested).1 with ⟨-, failed⟩ | ⟨-, selected⟩
  · have succeeds : (select [.root, .descent, .descent, .property "a"] [] nested).isOk = true := by
      decide +kernel
    rw [failed] at succeeds
    cases succeeds
  · exact ⟨_, selected, by decide +kernel⟩

end Query

end JsonSeek
