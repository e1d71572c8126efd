import JsonSeek.Proofs.Document
import JsonSeek.Proofs.TextHit

/-!
# The course of a text search

The walk of a text search carries its results along, leaves out what lies too deep, and is ended as
a whole when the limit is reached. It comes to reading the nodes that it reaches one after the other
(`visit_eq_foldlM`), and that comes to the first hits among them (`scanTexts_eq`).
-/

namespace JsonSeek.Search

/-! ## The walk as a pass over the nodes -/

section Walk

variable (m : Match.Matcher) (o : Options)

theorem visitItems_eq (path : Path) (i : Nat) (scan : Scan) (items : List Value) :
    visitItems m o path i scan items =
      (Value.indexed i items).foldlM
        (fun scan child => visit m o (path ++ [child.1]) scan child.2) scan := by
  induction items generalizing i scan with
  | nil => rfl
  | cons v rest ih =>
      simp only [visitItems, Value.indexed, List.foldlM_cons, bind, Except.bind, ih]
      cases visit m o (path ++ [.index i]) scan v <;> rfl

theorem visitFields_eq (path : Path) (scan : Scan) (fields : List (String × Value)) :
    visitFields m o path scan fields =
      (fields.map fun (name, v) => (Segment.key name, v)).foldlM
        (fun scan child => visit m o (path ++ [child.1]) scan child.2) scan := by
  induction fields generalizing scan with
  | nil => rfl
  | cons field rest ih =>
      simp only [visitFields, List.map_cons, List.foldlM_cons, bind, Except.bind, ih]
      cases visit m o (path ++ [.key field.1]) scan field.2 <;> rfl

/-- A walk reads a value and then walks through its parts. -/
theorem visit_eq (path : Path) (scan : Scan) (v : Value) :
    visit m o path scan v =
      enter m o scan ⟨path, v⟩ fun scan =>
        v.children.foldlM (fun scan child => visit m o (path ++ [child.1]) scan child.2) scan := by
  cases v with
  | arr items => simp only [visit, Value.children, visitItems_eq]
  | obj fields => simp only [visit, Value.children, visitFields_eq]
  | _ => rfl

theorem length_le_of_mem_nodesFrom {path : Path} {v : Value} {node : Node}
    (below : node ∈ v.nodesFrom path) : path.length ≤ node.path.length := by
  induction v using Value.inductionOnChildren generalizing path with
  | step v ih =>
      rw [Value.nodesFrom_eq, List.mem_cons, List.mem_flatMap] at below
      rcases below with rfl | ⟨child, found, inside⟩
      · exact Nat.le_refl _
      · have deeper := ih child found inside
        rw [List.length_append] at deeper
        exact Nat.le_trans (Nat.le_add_right _ _) deeper

/-- Below a node that lies too deep everything does. -/
theorem filter_reaches_eq_nil {path : Path} {v : Value} (tooDeep : o.reaches ⟨path, v⟩ = false) :
    (v.nodesFrom path).filter o.reaches = [] := by
  rw [List.filter_eq_nil_iff]
  intro node below reached
  have deeper := length_le_of_mem_nodesFrom below
  unfold Options.reaches at tooDeep reached
  cases bound : o.maxDepth with
  | none => simp [bound] at tooDeep
  | some depth =>
      simp only [bound, Node.depth] at tooDeep reached
      have above := of_decide_eq_false tooDeep
      have within := of_decide_eq_true reached
      omega

theorem foldlM_flatMap {α β σ ε : Type} (f : σ → β → Except ε σ) (g : α → List β) (l : List α)
    (s : σ) : (l.flatMap g).foldlM f s = l.foldlM (fun s a => (g a).foldlM f s) s := by
  induction l generalizing s with
  | nil => rfl
  | cons a rest ih => simp only [List.flatMap_cons, List.foldlM_append, List.foldlM_cons, ih]

theorem foldlM_congr {α σ ε : Type} {f g : σ → α → Except ε σ} {l : List α}
    (same : ∀ s, ∀ a ∈ l, f s a = g s a) (s : σ) : l.foldlM f s = l.foldlM g s := by
  induction l generalizing s with
  | nil => rfl
  | cons a rest ih =>
      rw [List.foldlM_cons, List.foldlM_cons, same s a List.mem_cons_self]
      exact congrArg _ <| funext fun s =>
        ih (fun s a inside => same s a (List.mem_cons_of_mem _ inside)) s

/-- The walk reads the nodes that it reaches one after the other. -/
theorem visit_eq_foldlM (path : Path) (scan : Scan) (v : Value) :
    visit m o path scan v =
      ((v.nodesFrom path).filter o.reaches).foldlM (readNode m o) scan := by
  induction v using Value.inductionOnChildren generalizing path scan with
  | step v ih =>
      rw [visit_eq, enter]
      cases reached : o.reaches ⟨path, v⟩ with
      | false =>
          rw [filter_reaches_eq_nil o reached]
          rfl
      | true =>
          rw [Value.nodesFrom_eq, List.filter_cons_of_pos reached, List.filter_flatMap,
            List.foldlM_cons, if_pos rfl]
          cases readNode m o scan ⟨path, v⟩ with
          | error halt => rfl
          | ok next =>
              simp only [bind, Except.bind, foldlM_flatMap]
              exact foldlM_congr (fun scan child found => ih child found _ scan) next

end Walk

/-! ## The pass up to the limit -/

section Pass

/-- The nodes that are read until a number of hits have been found. -/
def readUntil (hit : Node → Bool) : (wanted : Nat) → List Node → List Node
  | 0, _ => []
  | _ + 1, [] => []
  | wanted + 1, node :: rest =>
    node :: readUntil hit (if hit node then wanted else wanted + 1) rest

theorem readUntil_nil (hit : Node → Bool) (wanted : Nat) : readUntil hit wanted [] = [] := by
  cases wanted <;> rfl

/-- A node is read exactly if fewer hits than are wanted come before it. -/
theorem mem_readUntil_iff {hit : Node → Bool} {wanted : Nat} {nodes : List Node} {node : Node} :
    node ∈ readUntil hit wanted nodes ↔
      ∃ before after, nodes = before ++ node :: after ∧ (before.filter hit).length < wanted := by
  induction nodes generalizing wanted with
  | nil =>
      constructor
      · intro inside
        cases wanted <;> cases inside
      · rintro ⟨before, after, split, -⟩
        simp at split
  | cons first rest ih =>
      cases wanted with
      | zero => simp [readUntil]
      | succ wanted =>
          rw [readUntil, List.mem_cons, ih]
          constructor
          · rintro (rfl | ⟨before, after, rfl, fewer⟩)
            · exact ⟨[], rest, rfl, Nat.succ_pos _⟩
            · refine ⟨first :: before, after, rfl, ?_⟩
              cases isHit : hit first <;> simp [isHit] at fewer ⊢ <;> omega
          · rintro ⟨before, after, split, fewer⟩
            cases before with
            | nil => exact Or.inl (List.cons.inj split).1.symm
            | cons head before =>
                obtain ⟨rfl, rfl⟩ := List.cons.inj split
                refine Or.inr ⟨before, after, rfl, ?_⟩
                cases isHit : hit first <;> simp [isHit] at fewer ⊢ <;> omega

theorem mem_of_mem_readUntil {hit : Node → Bool} {wanted : Nat} {nodes : List Node} {node : Node}
    (read : node ∈ readUntil hit wanted nodes) : node ∈ nodes := by
  obtain ⟨before, after, rfl, -⟩ := mem_readUntil_iff.mp read
  exact List.mem_append_right _ List.mem_cons_self

variable (m : Match.Matcher) (o : Options)

/-- How many more hits a scan wants. -/
def Scan.wanted (scan : Scan) : Nat := (o.limit - scan.results.length).toNat

/-- A scan that has read the given nodes up to the limit. -/
def Scan.after (scan : Scan) (nodes : List Node) : Scan where
  results := scan.results ++
    ((nodes.filter (isHit m o)).take (scan.wanted o)).map (report m o)
  deepest := (readUntil (isHit m o) (scan.wanted o) nodes).foldl
    (fun deepest node => max deepest node.depth) scan.deepest
  truncated := decide ((readUntil (isHit m o) (scan.wanted o) nodes).length < nodes.length)

/-- What a pass yields once an end by the limit counts as an end. -/
def settle : Except Halt Scan → Except Match.PatternFault Scan
  | .ok scan => .ok scan
  | .error (.limit scan) => .ok scan
  | .error (.fault f) => .error f

theorem readNode_eq_limit {scan : Scan} (full : scan.wanted o = 0) (node : Node) :
    readNode m o scan node = .error (.limit { scan with truncated := true }) := by
  unfold Scan.wanted at full
  exact if_pos (by omega)

theorem readNode_eq {scan : Scan} {more : Nat} (wants : scan.wanted o = more + 1) (node : Node) :
    readNode m o scan node =
      if breaksOn m o node then .error (.fault .crossedGroup)
      else .ok (scan.read node (if isHit m o node then some (report m o node) else none)) := by
  unfold Scan.wanted at wants
  rw [readNode, if_neg (by omega), judge_eq]
  cases breaksOn m o node <;> rfl

theorem wanted_read {scan : Scan} {more : Nat} (wants : scan.wanted o = more + 1) (node : Node)
    (result : Option Result) :
    (scan.read node result).wanted o = if result.isSome then more else more + 1 := by
  unfold Scan.wanted at wants ⊢
  cases result with
  | none => simpa [Scan.read] using wants
  | some r =>
      simp only [Scan.read, Option.toList_some, List.length_append, List.length_singleton,
        Option.isSome_some, if_true]
      omega

/-- One more node in front is one more node read. -/
theorem after_cons {scan : Scan} {more : Nat} (wants : scan.wanted o = more + 1) (node : Node)
    (rest : List Node) :
    scan.after m o (node :: rest) =
      (scan.read node (if isHit m o node then some (report m o node) else none)).after
        m o rest := by
  have continued := wanted_read o wants node
  cases hit : isHit m o node with
  | false =>
      simp only [Scan.after, Bool.false_eq_true, if_false, wants, continued, Option.isSome_none]
      simp [Scan.read, readUntil, hit]
  | true =>
      simp only [Scan.after, if_true, wants, continued, Option.isSome_some]
      simp [Scan.read, readUntil, hit]

/-- A pass yields the first hits of its nodes, unless the matcher breaks down on a node that it
reads. -/
theorem settle_foldlM (nodes : List Node) (scan : Scan) (going : scan.truncated = false) :
    settle (nodes.foldlM (readNode m o) scan) =
      if (readUntil (isHit m o) (scan.wanted o) nodes).any (breaksOn m o) then
        .error .crossedGroup
      else .ok (scan.after m o nodes) := by
  induction nodes generalizing scan with
  | nil =>
      obtain ⟨results, deepest, truncated⟩ := scan
      subst going
      simp [settle, Scan.after, readUntil_nil, pure, Except.pure]
  | cons node rest ih =>
      rw [List.foldlM_cons]
      cases wants : scan.wanted o with
      | zero =>
          simp [readNode_eq_limit m o wants, bind, Except.bind, settle, Scan.after, wants,
            readUntil]
      | succ more =>
          rw [readNode_eq m o wants, readUntil, List.any_cons]
          cases breaksOn m o node with
          | true => rfl
          | false =>
              rw [after_cons m o wants, Bool.false_or]
              refine (ih (scan.read node _) going).trans ?_
              rw [wanted_read o wants node]
              cases isHit m o node <;> rfl

theorem wanted_start : Scan.start.wanted o = o.limit.toNat := by
  simp [Scan.wanted, Scan.start]

/-- A text search yields the first hits among the nodes that it reaches, unless the matcher breaks
down on one that comes before the limit. -/
theorem scanTexts_eq (document : Value) :
    scanTexts m o document =
      if (readUntil (isHit m o) o.limit.toNat (document.nodes.filter o.reaches)).any
          (breaksOn m o) then
        .error .crossedGroup
      else .ok (Scan.start.after m o (document.nodes.filter o.reaches)) := by
  have walked : scanTexts m o document = settle (visit m o [] .start document) := rfl
  rw [walked, visit_eq_foldlM, ← Value.nodes, settle_foldlM m o _ .start rfl, wanted_start]

theorem after_start_results (nodes : List Node) :
    (Scan.start.after m o nodes).results =
      ((nodes.filter (isHit m o)).take o.limit.toNat).map (report m o) := by
  simp only [Scan.after, wanted_start]
  rfl

end Pass

end JsonSeek.Search
