import JsonSeek.Proofs.PathSearch
import JsonSeek.Proofs.TextSearch

/-!
# Truncated responses

A response says whether the search was cut off at its limit. If it was, the response is full; if it
was not, nothing is missing, and a larger limit would change nothing. A text search counts as cut
off as soon as it reaches another node behind its last hit, even if that node is no hit; a search by
a path query exactly if the query selects more nodes than the limit admits
(`search_reports_truncation`).
-/

namespace JsonSeek.Search

/-! ## What a pass reads -/

section Pass

variable (hit : Node → Bool)

@[simp] theorem readUntil_zero (nodes : List Node) : readUntil hit 0 nodes = [] := by
  cases nodes <;> rfl

/-- A pass goes on behind nodes that hold fewer hits than are wanted. -/
theorem readUntil_append {wanted : Nat} {before : List Node}
    (fewer : (before.filter hit).length < wanted) (more : List Node) :
    readUntil hit wanted (before ++ more) =
      before ++ readUntil hit (wanted - (before.filter hit).length) more := by
  induction before generalizing wanted with
  | nil => rfl
  | cons node rest ih =>
      cases wanted with
      | zero => cases fewer
      | succ wanted =>
          rw [List.cons_append, readUntil, List.cons_append]
          cases isHit : hit node with
          | false =>
              simp only [List.filter_cons, isHit, Bool.false_eq_true, if_false] at fewer ⊢
              rw [ih fewer]
          | true =>
              simp only [List.filter_cons, isHit, if_true, List.length_cons] at fewer ⊢
              rw [ih (Nat.lt_of_succ_lt_succ fewer), Nat.add_sub_add_right]

/-- Nodes that hold fewer hits than are wanted are all read. -/
theorem readUntil_of_lt {wanted : Nat} {nodes : List Node}
    (fewer : (nodes.filter hit).length < wanted) : readUntil hit wanted nodes = nodes := by
  have whole := readUntil_append hit fewer []
  rwa [List.append_nil, readUntil_nil, List.append_nil] at whole

/-- The hits that are read are the first ones, as many as are wanted. -/
theorem filter_readUntil (wanted : Nat) (nodes : List Node) :
    (readUntil hit wanted nodes).filter hit = (nodes.filter hit).take wanted := by
  induction nodes generalizing wanted with
  | nil => simp [readUntil_nil]
  | cons node rest ih =>
      cases wanted with
      | zero => simp
      | succ wanted => cases isHit : hit node <;> simp [readUntil, isHit, ih]

/-- Up to the last hit that is wanted, all nodes are read, and none behind it. -/
theorem readUntil_of_last {before after : List Node} {node : Node} (last : hit node = true) :
    readUntil hit ((before.filter hit).length + 1) (before ++ node :: after) =
      before ++ [node] := by
  rw [readUntil_append hit (Nat.lt_add_one _), Nat.add_sub_cancel_left]
  simp [readUntil, last]

/-- There is a node with as many hits in front of it as one likes, if there are more hits. -/
theorem exists_hit_of_lt {earlier : Nat} {nodes : List Node}
    (more : earlier < (nodes.filter hit).length) :
    ∃ before node after, nodes = before ++ node :: after ∧ hit node = true ∧
      (before.filter hit).length = earlier := by
  induction nodes generalizing earlier with
  | nil => cases more
  | cons first rest ih =>
      cases isHit : hit first with
      | false =>
          rw [List.filter_cons_of_neg (by simp [isHit])] at more
          obtain ⟨before, node, after, rfl, last, count⟩ := ih more
          exact ⟨first :: before, node, after, rfl, last, by simpa [isHit] using count⟩
      | true =>
          rw [List.filter_cons_of_pos isHit, List.length_cons] at more
          cases earlier with
          | zero => exact ⟨[], first, rest, rfl, isHit, rfl⟩
          | succ earlier =>
              obtain ⟨before, node, after, rfl, last, count⟩ := ih (Nat.lt_of_succ_lt_succ more)
              exact ⟨first :: before, node, after, rfl, last, by simpa [isHit] using count⟩

/-- A pass that is cut off has found all hits that are wanted. -/
theorem le_of_length_readUntil_lt {wanted : Nat} {nodes : List Node}
    (cut : (readUntil hit wanted nodes).length < nodes.length) :
    wanted ≤ (nodes.filter hit).length := by
  refine Nat.not_lt.mp fun fewer => ?_
  rw [readUntil_of_lt hit fewer] at cut
  exact Nat.lt_irrefl _ cut

/-- A pass is cut off exactly if the node with the last hit that is wanted is not the last node. -/
theorem length_readUntil_lt_iff {earlier : Nat} {nodes : List Node} :
    (readUntil hit (earlier + 1) nodes).length < nodes.length ↔
      ∃ before node after, nodes = before ++ node :: after ∧ hit node = true ∧
        (before.filter hit).length = earlier ∧ after ≠ [] := by
  constructor
  · intro cut
    obtain ⟨before, node, after, rfl, last, rfl⟩ :=
      exists_hit_of_lt hit (le_of_length_readUntil_lt hit cut)
    refine ⟨before, node, after, rfl, last, rfl, ?_⟩
    rintro rfl
    rw [readUntil_of_last hit last] at cut
    exact Nat.lt_irrefl _ cut
  · rintro ⟨before, node, after, rfl, last, rfl, more⟩
    rw [readUntil_of_last hit last]
    simpa using List.length_pos_iff.mpr more

/-- A pass that is not cut off has read all nodes, and these hold no more hits than are wanted. -/
theorem of_not_length_readUntil_lt {wanted : Nat} {nodes : List Node}
    (finished : ¬ (readUntil hit wanted nodes).length < nodes.length) :
    readUntil hit wanted nodes = nodes ∧ (nodes.filter hit).length ≤ wanted := by
  cases wanted with
  | zero =>
      rw [readUntil_zero] at finished
      obtain rfl := List.length_eq_zero_iff.mp (Nat.eq_zero_of_not_pos finished)
      exact ⟨rfl, Nat.le_refl _⟩
  | succ earlier =>
      by_cases fewer : (nodes.filter hit).length < earlier + 1
      · exact ⟨readUntil_of_lt hit fewer, Nat.le_of_lt fewer⟩
      · obtain ⟨before, node, after, rfl, last, rfl⟩ := exists_hit_of_lt hit (Nat.not_lt.mp fewer)
        cases after with
        | nil => exact ⟨readUntil_of_last hit last, by simp [last]⟩
        | cons next rest =>
            refine absurd ?_ finished
            exact (length_readUntil_lt_iff hit).mpr
              ⟨before, node, next :: rest, rfl, last, rfl, List.cons_ne_nil _ _⟩

end Pass

/-! ## Text searches -/

section Texts

variable {m : Match.Matcher} {o : Options} {document : Value}

/-- A text search reaches a node behind the one that gives the last hit that is wanted. If no hit is
wanted, it is enough that the document itself is not too deep. -/
def LeavesNodes (m : Match.Matcher) (o : Options) (document : Value) : Prop :=
  if o.limit = 0 then ∀ depth, o.maxDepth = some depth → 0 ≤ depth
  else ∃ before node after, reachedNodes o document = before ++ node :: after ∧
    isHit m o node = true ∧ ((before.filter (isHit m o)).length : Int) + 1 = o.limit ∧ after ≠ []

theorem truncated_textScan_iff :
    (textScan m o document).truncated = true ↔
      (readUntil (isHit m o) o.limit.toNat (reachedNodes o document)).length <
        (reachedNodes o document).length := by
  simp only [textScan, Scan.after, wanted_start, decide_eq_true_eq]

theorem reaches_document_iff :
    o.reaches ⟨[], document⟩ = true ↔ ∀ depth, o.maxDepth = some depth → 0 ≤ depth := by
  unfold Options.reaches
  cases o.maxDepth with
  | none => simp
  | some depth =>
      simp only [Node.depth, List.length_nil, Int.natCast_zero, Option.some.injEq, forall_eq']
      exact decide_eq_true_iff

/-- A search reaches a node exactly if it reaches the document itself. -/
theorem reachedNodes_ne_nil_iff :
    reachedNodes o document ≠ [] ↔ ∀ depth, o.maxDepth = some depth → 0 ≤ depth := by
  rw [← @reaches_document_iff o document]
  constructor
  · intro some
    cases reached : o.reaches ⟨[], document⟩ with
    | true => rfl
    | false => exact absurd (filter_reaches_eq_nil o reached) some
  · intro reached
    rw [reachedNodes, Value.nodes, Value.nodesFrom_eq, List.filter_cons_of_pos reached]
    exact List.cons_ne_nil _ _

theorem leavesNodes_iff (natural : 0 ≤ o.limit) :
    (readUntil (isHit m o) o.limit.toNat (reachedNodes o document)).length <
        (reachedNodes o document).length ↔ LeavesNodes m o document := by
  unfold LeavesNodes
  cases wanted : o.limit.toNat with
  | zero =>
      rw [if_pos (by omega), readUntil_zero, ← @reachedNodes_ne_nil_iff o document]
      exact List.length_pos_iff
  | succ earlier =>
      rw [if_neg (by omega), length_readUntil_lt_iff]
      have counts (n : Nat) : n = earlier ↔ (n : Int) + 1 = o.limit := by omega
      simp only [counts]

/-- Where no node was left unread, a larger limit does not make the matcher break down. -/
theorem not_breaksDown_of_finished (larger : Int) (runs : ¬ BreaksDown m o document)
    (finished : ¬ (readUntil (isHit m o) o.limit.toNat (reachedNodes o document)).length <
      (reachedNodes o document).length) :
    ¬ BreaksDown m { o with limit := larger } document := by
  rw [breaksDown_iff] at runs
  rw [(of_not_length_readUntil_lt _ finished).1] at runs
  rintro ⟨before, node, after, split, -, breaks⟩
  refine runs (List.any_eq_true.mpr ⟨node, ?_, breaks⟩)
  have same : reachedNodes o document = before ++ node :: after := split
  rw [same]
  exact List.mem_append_right _ List.mem_cons_self

theorem firstHits_of_finished {larger : Int} (more : o.limit ≤ larger)
    (finished : ¬ (readUntil (isHit m o) o.limit.toNat (reachedNodes o document)).length <
      (reachedNodes o document).length) :
    firstHits m { o with limit := larger } document = firstHits m o document := by
  have few := (of_not_length_readUntil_lt _ finished).2
  have all (limit : Int) (enough : o.limit ≤ limit) :
      ((reachedNodes o document).filter (isHit m o)).take limit.toNat =
        (reachedNodes o document).filter (isHit m o) :=
    List.take_of_length_le (by omega)
  exact (all larger more).trans (all o.limit (Int.le_refl _)).symm

end Texts

/-! ## All modes -/

/-- What a response says about being cut off is true of the search. -/
structure IsFaithful (o : Options) (document : Value) (response : Response) : Prop where
  bounded : (response.results.length : Int) ≤ o.limit
  full : response.statistics.truncated = true → (response.results.length : Int) = o.limit
  complete : response.statistics.truncated = false → ∀ larger, o.limit ≤ larger →
    ∃ again, search { o with limit := larger } document = .ok again ∧
      again.results = response.results

variable {o : Options} {document : Value} {response : Response}

theorem isFaithful_text {mode : Match.TextMode} {m : Match.Matcher} (texts : o.mode = .text mode)
    (prepared : Match.Matcher.prepare mode o.query o.caseSensitive o.threshold = .ok m)
    (natural : 0 ≤ o.limit) (searched : search o document = .ok response) :
    IsFaithful o document response ∧
      (response.statistics.truncated = true ↔ LeavesNodes m o document) := by
  have runs : ¬ BreaksDown m o document := by
    intro breaks
    rw [search_of_breaksDown texts prepared breaks] at searched
    cases searched
  rw [search_of_not_breaksDown texts prepared runs] at searched
  obtain rfl := Except.ok.inj searched
  have counted : (((grouped (scopeCount m o) (firstHits m o document)).map
      (report m o)).length : Int) = (firstHits m o document).length := by
    rw [List.length_map, perm_grouped_firstHits.length_eq]
  have taken : (firstHits m o document).length =
      min o.limit.toNat ((reachedNodes o document).filter (isHit m o)).length := List.length_take
  refine ⟨⟨?_, ?_, ?_⟩, truncated_textScan_iff.trans (leavesNodes_iff natural)⟩
  · rw [counted]
    omega
  · intro truncated
    have found := le_of_length_readUntil_lt _ (truncated_textScan_iff.mp truncated)
    rw [counted]
    omega
  · intro whole larger more
    have finished := mt truncated_textScan_iff.mpr (Bool.eq_false_iff.mp whole)
    have still := not_breaksDown_of_finished larger runs finished
    refine ⟨_, search_of_not_breaksDown (o := { o with limit := larger }) texts prepared still, ?_⟩
    rw [firstHits_of_finished more finished]
    rfl

theorem isFaithful_path (paths : o.mode = .jsonPath) (natural : 0 ≤ o.limit)
    (searched : search o document = .ok response) :
    IsFaithful o document response ∧
      (response.statistics.truncated = true ↔
        ∃ nodes, Query.run o.query document = .ok nodes ∧ o.limit < nodes.length) := by
  rcases response_cases paths searched with ⟨nodes, ran, rfl⟩ | ⟨e, unrooted, rfl⟩
  · have counted : ((pathResponse o nodes).results.length : Int) =
        min o.limit.toNat nodes.length := by
      simp [pathResponse, keptNodes]
    have cutOff : (pathResponse o nodes).statistics.truncated = true ↔
        o.limit < nodes.length := by
      simp only [pathResponse, Statistics.ofResults, decide_eq_true_eq]
      omega
    refine ⟨⟨?_, ?_, ?_⟩, ?_⟩
    · omega
    · intro truncated
      have more := cutOff.mp truncated
      omega
    · intro whole larger more
      have few := mt cutOff.mpr (Bool.eq_false_iff.mp whole)
      refine ⟨_, search_of_run (o := { o with limit := larger }) paths ran, ?_⟩
      have kept : keptNodes { o with limit := larger } nodes = keptNodes o nodes := by
        simp only [keptNodes]
        rw [List.take_of_length_le (by omega), List.take_of_length_le (by omega)]
      simp only [pathResponse, kept]
      rfl
    · simp [cutOff, ran]
  · refine ⟨⟨natural, ?_, ?_⟩, ?_⟩
    · intro truncated
      cases truncated
    · intro _ larger _
      exact ⟨_, search_of_unrooted (o := { o with limit := larger }) paths unrooted, rfl⟩
    · simp [unrootedResponse, Statistics.ofResults, unrooted]

/-- A response never has more results than the limit admits. If it says that it was cut off, it is
full; if not, the search finds the same with every larger limit. It says so in a text search exactly
if the search reaches a node behind its last hit, and in a search by a path query exactly if the
query selects more nodes than the limit admits. -/
theorem search_reports_truncation (natural : 0 ≤ o.limit)
    (searched : search o document = .ok response) :
    IsFaithful o document response ∧
      (∀ mode m, o.mode = .text mode →
        Match.Matcher.prepare mode o.query o.caseSensitive o.threshold = .ok m →
        (response.statistics.truncated = true ↔ LeavesNodes m o document)) ∧
      (o.mode = .jsonPath → (response.statistics.truncated = true ↔
        ∃ nodes, Query.run o.query document = .ok nodes ∧ o.limit < nodes.length)) := by
  refine ⟨?_, ?_, ?_⟩
  · cases mode : o.mode with
    | jsonPath => exact (isFaithful_path mode natural searched).1
    | text textMode =>
        cases prepared : Match.Matcher.prepare textMode o.query o.caseSensitive o.threshold with
        | ok m => exact (isFaithful_text mode prepared natural searched).1
        | error fault => simp [search, scan, mode, prepared] at searched
  · intro mode m texts prepared
    exact (isFaithful_text texts prepared natural searched).2
  · intro paths
    exact (isFaithful_path paths natural searched).2

/-- Two hits with nothing behind them. -/
def lastIsHit : Value := .arr [.str "xy", .str "xy"]

/-- Two hits with a node behind them that is none. -/
def lastIsNoHit : Value := .arr [.str "xy", .str "xy", .null]

/-- With a limit of two, the first of these documents is searched to its end, so that no larger
limit finds more. In the second the node behind the hits is left, and the response is full. -/
theorem search_reports_what_is_left :
    0 ≤ firstTwo.limit ∧
      (∃ response, search firstTwo lastIsHit = .ok response ∧
        response.statistics.truncated = false ∧
        ∃ again, search { firstTwo with limit := 100 } lastIsHit = .ok again ∧
          again.results = response.results) ∧
      ∃ response, search firstTwo lastIsNoHit = .ok response ∧
        response.statistics.truncated = true ∧ response.results.length = 2 := by
  have natural : 0 ≤ firstTwo.limit := by decide
  have answered (document : Value) : ∃ response, search firstTwo document = .ok response ∧
      response.statistics.truncated =
        (textScan (.simple true ['x', 'y']) firstTwo document).truncated :=
    ⟨_, search_of_not_breaksDown rfl rfl (not_breaksDown Match.TextMode.noConfusion), rfl⟩
  refine ⟨natural, ?_, ?_⟩
  · obtain ⟨response, searched, truncated⟩ := answered lastIsHit
    have whole : response.statistics.truncated = false := by
      rw [truncated]
      decide +kernel
    have complete := (search_reports_truncation natural searched).1.complete whole
    exact ⟨response, searched, whole, complete 100 (by decide)⟩
  · obtain ⟨response, searched, truncated⟩ := answered lastIsNoHit
    have cutOff : response.statistics.truncated = true := by
      rw [truncated]
      decide +kernel
    have full := (search_reports_truncation natural searched).1.full cutOff
    exact ⟨response, searched, cutOff, Int.ofNat.inj full⟩

end JsonSeek.Search
