import Mathlib.Algebra.GroupWithZero.Nat
import JsonSeek.Proofs.Truncation

/-!
# Statistics and results

The statistics of a search are those of its results. Results are counted in the order in which the
search comes upon them, before they are ranked, so that a tally lists its keys in that order
(`tally_eq`). The greatest depth is that of the results in a search by a path query, and that of all
nodes that were read in a text search (`search_counts_results`).
-/

namespace JsonSeek.Search

/-! ## Tallies -/

section Tally

variable {α : Type} [DecidableEq α]

theorem nodup_eraseDups (l : List α) : l.eraseDups.Nodup := by
  cases l with
  | nil => simp
  | cons a rest =>
      rw [List.eraseDups_cons, List.nodup_cons]
      refine ⟨?_, nodup_eraseDups _⟩
      simp [List.mem_eraseDups]
termination_by l.length
decreasing_by exact Nat.lt_succ_of_le (List.length_filter_le _ _)

theorem countUp_of_notMem {a : α} {keys : List α} (new : a ∉ keys) (count : α → Nat) :
    countUp a (keys.map fun b => (b, count b)) =
      keys.map (fun b => (b, count b)) ++ [(a, 1)] := by
  induction keys with
  | nil => rfl
  | cons b rest ih =>
      rw [List.mem_cons, not_or] at new
      rw [List.map_cons, countUp, if_neg (Ne.symm new.1), ih new.2, List.cons_append]

theorem countUp_of_mem {a : α} {keys : List α} (distinct : keys.Nodup) (old : a ∈ keys)
    (count : α → Nat) :
    countUp a (keys.map fun b => (b, count b)) =
      keys.map fun b => (b, if b = a then count b + 1 else count b) := by
  induction keys with
  | nil => cases old
  | cons b rest ih =>
      rw [List.nodup_cons] at distinct
      rw [List.map_cons, List.map_cons, countUp]
      by_cases same : b = a
      · rw [if_pos same, if_pos same]
        refine congrArg (_ :: ·) (List.map_congr_left fun c inside => ?_)
        have other : c ≠ a := by
          rintro rfl
          exact distinct.1 (same ▸ inside)
        rw [if_neg other]
      · have later := (List.mem_cons.mp old).resolve_left (Ne.symm same)
        rw [if_neg same, if_neg same, ih distinct.2 later]

/-- Counting one more member of a list. -/
theorem countUp_counts (l : List α) (a : α) :
    countUp a (l.eraseDups.map fun b => (b, l.count b)) =
      (l ++ [a]).eraseDups.map fun b => (b, (l ++ [a]).count b) := by
  have counted (b : α) : (l ++ [a]).count b = if b = a then l.count b + 1 else l.count b := by
    by_cases same : b = a
    · simp [same]
    · simp [same, Ne.symm same]
  by_cases old : a ∈ l
  · have keys : (l ++ [a]).eraseDups = l.eraseDups := by
      simp [List.eraseDups_append, List.removeAll, old]
    rw [countUp_of_mem (nodup_eraseDups l) (List.mem_eraseDups.mpr old), keys]
    simp only [counted]
  · have keys : (l ++ [a]).eraseDups = l.eraseDups ++ [a] := by
      simp [List.eraseDups_append, List.removeAll, old, List.eraseDups_cons]
    rw [countUp_of_notMem (fun inside => old (List.mem_eraseDups.mp inside)), keys, List.map_append]
    congr 1
    · refine List.map_congr_left fun b inside => ?_
      have other : b ≠ a := by
        rintro rfl
        exact old (List.mem_eraseDups.mp inside)
      rw [counted, if_neg other]
    · simp [List.count_eq_zero.mpr old]

/-- A tally has one entry for each member of the list, in order of first occurrence. -/
theorem tally_eq (l : List α) : tally l = l.eraseDups.map fun a => (a, l.count a) := by
  have continued (seen rest : List α) :
      rest.foldl (fun counts a => countUp a counts)
          (seen.eraseDups.map fun a => (a, seen.count a)) =
        (seen ++ rest).eraseDups.map fun a => (a, (seen ++ rest).count a) := by
    induction rest generalizing seen with
    | nil => rw [List.append_nil, List.foldl_nil]
    | cons a rest ih =>
        rw [List.foldl_cons, countUp_counts, ih, List.append_assoc, List.singleton_append]
  exact continued [] l

theorem sum_countUp (a : α) (counts : List (α × Nat)) :
    ((countUp a counts).map Prod.snd).sum = (counts.map Prod.snd).sum + 1 := by
  induction counts with
  | nil => rfl
  | cons entry rest ih =>
      rw [countUp]
      split
      · simp only [List.map_cons, List.sum_cons]
        omega
      · simp only [List.map_cons, List.sum_cons, ih]
        omega

/-- The counts of a tally add up to the number of members. -/
theorem sum_tally (l : List α) : ((tally l).map Prod.snd).sum = l.length := by
  have continued (counts : List (α × Nat)) :
      ((l.foldl (fun counts a => countUp a counts) counts).map Prod.snd).sum =
        (counts.map Prod.snd).sum + l.length := by
    induction l generalizing counts with
    | nil => rfl
    | cons a rest ih =>
        rw [List.foldl_cons, ih, sum_countUp, List.length_cons]
        omega
  exact (continued []).trans (Nat.zero_add _)

end Tally

/-! ## Greatest depths -/

/-- A number is the greatest of some numbers, or zero if there are none. -/
structure IsGreatestOf (greatest : Int) (numbers : List Int) : Prop where
  bounds : ∀ n ∈ numbers, n ≤ greatest
  attained : greatest ∈ numbers ∨ numbers = [] ∧ greatest = 0

/-- The greatest depth of some nodes, or zero if there are none. -/
def deepestOf (nodes : List Node) : Nat :=
  nodes.foldl (fun deepest node => max deepest node.depth) 0

theorem isGreatestOf_nil : IsGreatestOf 0 [] :=
  ⟨fun _ inside => absurd inside List.not_mem_nil, Or.inr ⟨rfl, rfl⟩⟩

theorem isGreatestOf_deepestOf (nodes : List Node) :
    IsGreatestOf (deepestOf nodes) (nodes.map fun node => (node.depth : Int)) := by
  have deepest : deepestOf nodes = (nodes.map Node.depth).max?.getD 0 := by
    rw [deepestOf, ← List.foldl_map, List.foldl_max, Nat.zero_max]
  cases greatest : (nodes.map Node.depth).max? with
  | none =>
      obtain rfl : nodes = [] := by simpa using greatest
      exact isGreatestOf_nil
  | some depth =>
      obtain ⟨inside, bounds⟩ := List.max?_eq_some_iff.mp greatest
      obtain ⟨node, found, rfl⟩ := List.mem_map.mp inside
      rw [deepest, greatest, Option.getD_some]
      refine ⟨?_, Or.inl (List.mem_map.mpr ⟨node, found, rfl⟩)⟩
      intro n listed
      obtain ⟨other, present, rfl⟩ := List.mem_map.mp listed
      exact Int.ofNat_le.mpr (bounds _ (List.mem_map.mpr ⟨other, present, rfl⟩))

/-! ## The statistics of a search -/

/-- The node that a result describes. -/
def Result.node (r : Result) : Node := ⟨r.segments, r.value⟩

/-- Results stand in the order in which a search comes upon them: in document order, or in the order
in which a path query selects their nodes. -/
def IsTraversal (o : Options) (document : Value) (found : List Result) : Prop :=
  match o.mode with
  | .text _ => (found.map Result.node).Sublist document.nodes
  | .jsonPath => ∀ nodes, Query.run o.query document = .ok nodes → found.map Result.node <+: nodes

/-- What the statistics of a search say is true of its results, which are given also in the order in
which they were found. -/
structure Statistics.IsCountOf (s : Statistics) (results found : List Result) : Prop where
  total : s.total = results.length
  byKind : s.byKind = (found.map Result.kind).eraseDups.map fun kind =>
    (kind, (results.map Result.kind).count kind)
  byDepth : s.byDepth = (found.map Result.depth).eraseDups.map fun depth =>
    (depth, (results.map Result.depth).count depth)
  sumByKind : (s.byKind.map Prod.snd).sum = s.total
  sumByDepth : (s.byDepth.map Prod.snd).sum = s.total
  bounded : ∀ r ∈ results, r.depth ≤ s.deepest

/-- The statistics that are made of results count them, in whatever order these are reported. -/
theorem isCountOf_ofResults {mode : String} {deepest : Nat} {truncated : Bool}
    {results found : List Result} (same : results.Perm found)
    (bounded : ∀ r ∈ found, r.depth ≤ deepest) :
    (Statistics.ofResults mode deepest truncated found).IsCountOf results found where
  total := same.length_eq.symm
  byKind := by
    simp only [Statistics.ofResults, tally_eq, (same.map Result.kind).count_eq]
  byDepth := by
    simp only [Statistics.ofResults, tally_eq, (same.map Result.depth).count_eq]
  sumByKind := by
    simp only [Statistics.ofResults, sum_tally, List.length_map]
  sumByDepth := by
    simp only [Statistics.ofResults, sum_tally, List.length_map]
  bounded r inside := bounded r (same.mem_iff.mp inside)

variable {o : Options} {document : Value} {response : Response}

theorem isCountOf_text {mode : Match.TextMode} (texts : o.mode = .text mode)
    (searched : search o document = .ok response) :
    (∃ found, response.results.Perm found ∧ IsTraversal o document found ∧
      response.statistics.IsCountOf response.results found) ∧
    (response.statistics.truncated = false →
      IsGreatestOf response.statistics.deepest
        ((reachedNodes o document).map fun node => (node.depth : Int))) := by
  obtain ⟨m, prepared, runs⟩ := exists_matcher_of_search texts searched
  rw [search_of_not_breaksDown texts prepared runs] at searched
  obtain rfl := Except.ok.inj searched
  have deepest : (textScan m o document).deepest =
      deepestOf (readUntil (isHit m o) o.limit.toNat (reachedNodes o document)) := by
    rw [textScan, Scan.after, wanted_start]
    rfl
  have reports := (@perm_grouped_firstHits m o document).map (report m o)
  constructor
  · refine ⟨(firstHits m o document).map (report m o), reports, ?_, isCountOf_ofResults reports ?_⟩
    · have nodes : ((firstHits m o document).map (report m o)).map Result.node =
          firstHits m o document := by
        rw [List.map_map]
        exact List.map_id _
      rw [IsTraversal, texts, nodes]
      exact (List.take_sublist _ _).trans (List.filter_sublist.trans List.filter_sublist)
    · intro r inside
      obtain ⟨node, found, rfl⟩ := List.mem_map.mp inside
      rw [firstHits, ← filter_readUntil] at found
      rw [deepest]
      exact (isGreatestOf_deepestOf _).bounds _
        (List.mem_map.mpr ⟨node, (List.mem_filter.mp found).1, rfl⟩)
  · intro whole
    have finished : ¬ (readUntil (isHit m o) o.limit.toNat (reachedNodes o document)).length <
        (reachedNodes o document).length := by
      simpa [textScan, Scan.after, wanted_start, Statistics.ofResults] using whole
    rw [(of_not_length_readUntil_lt _ finished).1] at deepest
    exact deepest ▸ isGreatestOf_deepestOf _

theorem isCountOf_path (paths : o.mode = .jsonPath) (searched : search o document = .ok response) :
    (∃ found, response.results.Perm found ∧ IsTraversal o document found ∧
      response.statistics.IsCountOf response.results found) ∧
    IsGreatestOf response.statistics.deepest (response.results.map Result.depth) := by
  rcases response_cases paths searched with ⟨nodes, ran, rfl⟩ | ⟨e, unrooted, rfl⟩
  · have depths : ((keptNodes o nodes).map (selected o)).map Result.depth =
        (keptNodes o nodes).map fun node => (node.depth : Int) := List.map_map
    have greatest : IsGreatestOf (deepestOf (keptNodes o nodes))
        (((keptNodes o nodes).map (selected o)).map Result.depth) :=
      depths ▸ isGreatestOf_deepestOf _
    refine ⟨⟨_, .refl _, ?_, isCountOf_ofResults (.refl _) fun r inside =>
      greatest.bounds _ (List.mem_map_of_mem inside)⟩, greatest⟩
    rw [IsTraversal, paths]
    intro others ranAlike
    obtain rfl := Except.ok.inj (ran.symm.trans ranAlike)
    have same : ((keptNodes o nodes).map (selected o)).map Result.node = keptNodes o nodes := by
      rw [List.map_map]
      exact List.map_id _
    exact same ▸ List.take_prefix _ _
  · refine ⟨⟨[], .refl _, ?_, isCountOf_ofResults (.refl _) ?_⟩, isGreatestOf_nil⟩
    · rw [IsTraversal, paths]
      exact fun nodes _ => List.nil_prefix
    · exact fun _ inside => absurd inside List.not_mem_nil

/-- The statistics of a search count its results, with the keys of each tally in the order in which
the search comes upon them. No result lies deeper than the greatest depth. In a search by a path
query this is the depth of a result, and in a text search that was not cut off that of a node that
is not too deep, the deepest in both cases. -/
theorem search_counts_results (searched : search o document = .ok response) :
    (∃ found, response.results.Perm found ∧ IsTraversal o document found ∧
      response.statistics.IsCountOf response.results found) ∧
    (o.mode = .jsonPath →
      IsGreatestOf response.statistics.deepest (response.results.map Result.depth)) ∧
    (∀ mode, o.mode = .text mode → response.statistics.truncated = false →
      IsGreatestOf response.statistics.deepest
        ((document.nodes.filter o.reaches).map fun node => (node.depth : Int))) := by
  cases mode : o.mode with
  | jsonPath =>
      obtain ⟨counted, greatest⟩ := isCountOf_path mode searched
      exact ⟨counted, fun _ => greatest, fun _ isText => Mode.noConfusion isText⟩
  | text textMode =>
      obtain ⟨counted, greatest⟩ := isCountOf_text mode searched
      exact ⟨counted, fun isPath => Mode.noConfusion isPath, fun _ _ => greatest⟩

/-- A number that is found by its key, and behind it a string that is found twice. -/
def numberFirst : Value := .obj [("b", .obj [("xy", .int 7)]), ("xy", .str "xy")]

/-- The string is ranked first, but the tallies start with the number, which was found first. -/
theorem search_counts_number_first :
    ∃ response, search firstTwo numberFirst = .ok response ∧
      response.results.map Result.kind = ["string", "number"] ∧
      response.statistics.byKind = [("number", 1), ("string", 1)] ∧
      response.statistics.byDepth = [(2, 1), (1, 1)] ∧
      (∀ r ∈ response.results, r.depth ≤ 2) := by
  have runs : ¬ BreaksDown (.simple true ['x', 'y']) firstTwo numberFirst :=
    not_breaksDown Match.TextMode.noConfusion
  have searched := search_of_not_breaksDown (o := firstTwo) rfl rfl runs
  obtain ⟨⟨found, same, -, counted⟩, -⟩ := search_counts_results searched
  refine ⟨_, searched, by decide +kernel, by decide +kernel, by decide +kernel, ?_⟩
  have deepest : (textScan (.simple true ['x', 'y']) firstTwo numberFirst).deepest = 2 := by
    decide +kernel
  intro r inside
  have bounded : r.depth ≤ (textScan (.simple true ['x', 'y']) firstTwo numberFirst).deepest :=
    counted.bounded r inside
  rwa [deepest] at bounded

end JsonSeek.Search
