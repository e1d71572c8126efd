import JsonSeek.Proofs.NodeOrder
import JsonSeek.Proofs.PrunedDocument

/-!
# Searching a reduced document

A text search that is repeated on the document reduced to its own results finds the same results in
the same order (`search_toResults`). The reduced document lists fewer places, in the order of the
document, and what is found at one of them was found there before: a container on the way keeps its
kind, and a null that fills a gap has no text. So the first hits are the same, even if a result that
is kept whole holds further hits behind the limit. Only a search that asks for nulls is led astray.
-/

namespace JsonSeek

namespace Search

/-! ## Passes over fewer nodes -/

section Pass

variable {hit : Node → Bool} {wanted : Nat} {thin all : List Node}

/-- Nodes at some of the places of others, in the same order. No place has become a hit, and the
hits that are wanted are still there. -/
structure IsThinning (hit : Node → Bool) (wanted : Nat) (thin all : List Node) : Prop where
  order : (thin.map Node.path).Sublist (all.map Node.path)
  once : (all.map Node.path).Nodup
  fewer : ∀ x ∈ thin, ∀ y ∈ all, x.path = y.path → hit x = true → hit y = true
  kept : ∀ y ∈ (all.filter hit).take wanted, y ∈ thin

theorem IsThinning.path_ne {y z : Node} (thinning : IsThinning hit wanted thin (y :: all))
    (behind : z ∈ all) : z.path ≠ y.path := by
  intro same
  have once := thinning.once
  rw [List.map_cons, List.nodup_cons] at once
  exact once.1 (List.mem_map.mpr ⟨z, behind, same⟩)

theorem IsThinning.tail_once {y : Node} (thinning : IsThinning hit wanted thin (y :: all)) :
    (all.map Node.path).Nodup := by
  have once := thinning.once
  rw [List.map_cons, List.nodup_cons] at once
  exact once.2

/-- A place that is left out is no hit. -/
theorem IsThinning.of_dropped {y : Node} (thinning : IsThinning hit (wanted + 1) thin (y :: all))
    (order : (thin.map Node.path).Sublist (all.map Node.path)) :
    hit y = false ∧ IsThinning hit (wanted + 1) thin all := by
  have noHit : hit y = false := by
    refine Bool.eq_false_iff.mpr fun isHit => ?_
    have there : y ∈ thin := thinning.kept y (by simp [isHit])
    obtain ⟨z, behind, same⟩ := List.mem_map.mp (order.subset (List.mem_map_of_mem there))
    exact thinning.path_ne behind same
  refine ⟨noHit, order, thinning.tail_once, ?_, ?_⟩
  · intro x inThin z inAll
    exact thinning.fewer x inThin z (List.mem_cons_of_mem _ inAll)
  · intro z first
    exact thinning.kept z (by simpa [noHit] using first)

/-- A place that is kept is a hit exactly if it was one, and then the node is the same. -/
theorem IsThinning.of_kept {x y : Node}
    (thinning : IsThinning hit (wanted + 1) (x :: thin) (y :: all)) (same : x.path = y.path)
    (order : (thin.map Node.path).Sublist (all.map Node.path)) :
    (hit y = true → x = y) ∧ hit x = hit y ∧
      IsThinning hit (if hit y then wanted else wanted + 1) thin all := by
  have later (z : Node) (behind : z ∈ all) (inside : z ∈ x :: thin) : z ∈ thin := by
    rcases List.mem_cons.mp inside with rfl | inside
    · exact absurd same (thinning.path_ne behind)
    · exact inside
  have isSame : hit y = true → x = y := by
    intro isHit
    rcases List.mem_cons.mp (thinning.kept y (by simp [isHit])) with rfl | inside
    · rfl
    · obtain ⟨z, behind, samePath⟩ := List.mem_map.mp (order.subset (List.mem_map_of_mem inside))
      exact absurd samePath (thinning.path_ne behind)
  have alike : hit x = hit y := by
    cases isHit : hit y with
    | true => rw [isSame isHit, isHit]
    | false =>
        refine Bool.eq_false_iff.mpr fun found => ?_
        rw [thinning.fewer x List.mem_cons_self y List.mem_cons_self same found] at isHit
        cases isHit
  refine ⟨isSame, alike, order, thinning.tail_once, ?_, ?_⟩
  · intro x inThin z inAll
    exact thinning.fewer x (List.mem_cons_of_mem _ inThin) z (List.mem_cons_of_mem _ inAll)
  · intro z first
    have behind : z ∈ all := (List.mem_filter.mp (List.mem_of_mem_take first)).1
    refine later z behind (thinning.kept z ?_)
    cases isHit : hit y with
    | true =>
        rw [isHit, if_pos rfl] at first
        rw [List.filter_cons_of_pos isHit, List.take_succ_cons]
        exact List.mem_cons_of_mem _ first
    | false =>
        rw [isHit, if_neg Bool.false_ne_true] at first
        rwa [List.filter_cons_of_neg (by simp [isHit])]

/-- A pass over fewer nodes finds the same, and reads only at places that were read before. -/
theorem IsThinning.pass (thinning : IsThinning hit wanted thin all) :
    (thin.filter hit).take wanted = (all.filter hit).take wanted ∧
      ∀ x ∈ readUntil hit wanted thin, ∃ y ∈ readUntil hit wanted all, x.path = y.path := by
  induction all generalizing thin wanted with
  | nil =>
      have empty := List.map_eq_nil_iff.mp (List.sublist_nil.mp thinning.order)
      subst empty
      exact ⟨rfl, fun x inside => ⟨x, inside, rfl⟩⟩
  | cons y rest ih =>
      cases wanted with
      | zero =>
          refine ⟨rfl, fun x inside => ?_⟩
          cases thin <;> cases inside
      | succ wanted =>
          rcases List.sublist_cons_iff.mp thinning.order with dropped | ⟨places, split, order⟩
          · obtain ⟨noHit, later⟩ := thinning.of_dropped dropped
            obtain ⟨found, read⟩ := ih later
            rw [List.filter_cons_of_neg (by simp [noHit]), readUntil, noHit]
            refine ⟨found, fun x inside => ?_⟩
            obtain ⟨z, behind, same⟩ := read x inside
            exact ⟨z, List.mem_cons_of_mem _ behind, same⟩
          · obtain ⟨x, more, rfl, same, rfl⟩ := List.map_eq_cons_iff.mp split
            obtain ⟨isSame, alike, later⟩ := thinning.of_kept same order
            obtain ⟨found, read⟩ := ih later
            constructor
            · cases isHit : hit y with
              | true =>
                  rw [isHit, if_pos rfl] at found
                  rw [isSame isHit, List.filter_cons_of_pos isHit, List.filter_cons_of_pos isHit,
                    List.take_succ_cons, List.take_succ_cons, found]
              | false =>
                  rw [isHit, if_neg Bool.false_ne_true] at found
                  rw [List.filter_cons_of_neg (by simp [alike, isHit]),
                    List.filter_cons_of_neg (by simp [isHit]), found]
            · rw [readUntil, readUntil, alike]
              intro z inside
              rcases List.mem_cons.mp inside with rfl | inside
              · exact ⟨y, List.mem_cons_self, same⟩
              · obtain ⟨w, behind, samePlace⟩ := read z inside
                exact ⟨w, List.mem_cons_of_mem _ behind, samePlace⟩

end Pass

/-! ## Nodes at the same place -/

section Place

variable {m : Match.Matcher} {o : Options} {path : Path} {v w : Value}

/-- Two nodes at one place. Nothing is found at the first that is not found at the second, and the
matcher breaks down on the first only if it does on the second. -/
structure IsShadow (m : Match.Matcher) (o : Options) (x y : Node) : Prop where
  place : x.path = y.path
  hit : isHit m o x = true → isHit m o y = true
  breaks : breaksOn m o x = true → breaksOn m o y = true

/-- Nodes of the same kind at one place with the same text are not told apart. -/
theorem isShadow_of_kind (kind : v.kind = w.kind) (text : v.text? = w.text?) :
    IsShadow m o ⟨path, v⟩ ⟨path, w⟩ where
  place := rfl
  hit := by simp only [isHit, keyFound, valueFound, pathFound, kind, text, imp_self]
  breaks := by simp only [breaksOn, kind, text, imp_self]

theorem allows_of_allows_null (noNull : ∀ names, o.kinds = some names → Kind.null.name ∉ names)
    (allowed : o.allows .null = true) (kind : Kind) : o.allows kind = true := by
  unfold Options.allows at allowed ⊢
  cases kinds : o.kinds with
  | none => rfl
  | some names =>
      rw [kinds] at allowed
      exact absurd (List.contains_iff_mem.mp allowed) (noNull names kinds)

/-- Unless nulls are asked for, nothing is found at a null that is not found at any other value in
its place. -/
theorem isShadow_null (noNull : ∀ names, o.kinds = some names → Kind.null.name ∉ names) :
    IsShadow m o ⟨path, .null⟩ ⟨path, v⟩ where
  place := rfl
  hit := by
    intro found
    obtain ⟨allowed, texts⟩ := Bool.and_eq_true_iff.mp found
    refine Bool.and_eq_true_iff.mpr ⟨allows_of_allows_null noNull allowed _, ?_⟩
    simp only [keyFound, valueFound, pathFound, Bool.or_eq_true] at texts ⊢
    rcases texts with (key | value) | path
    · exact Or.inl (Or.inl key)
    · simp [Value.text?] at value
    · exact Or.inr path
  breaks := by
    intro found
    obtain ⟨allowed, texts⟩ := Bool.and_eq_true_iff.mp found
    refine Bool.and_eq_true_iff.mpr ⟨allows_of_allows_null noNull allowed _, ?_⟩
    simp only [Bool.or_eq_true] at texts ⊢
    rcases texts with (key | value) | path
    · exact Or.inl (Or.inl key)
    · simp [Value.text?] at value
    · exact Or.inr path

end Place

/-! ## Reduced documents -/

/-- The places that a search reaches. -/
theorem map_path_reachedNodes (o : Options) (document : Value) :
    (reachedNodes o document).map Node.path =
      (document.placesFrom []).filter fun path => o.reaches ⟨path, .null⟩ := by
  rw [Value.placesFrom, List.filter_map]
  rfl

section Reduced

open Prune Value

variable {m : Match.Matcher} {o : Options} {document tree : Value} {targets : List Path}

variable (distinct : document.HasDistinctKeys) (holds : HoldsAll targets document)
  (reduced : reduce .filled targets document = some tree)
  (noNull : ∀ names, o.kinds = some names → Kind.null.name ∉ names)

include distinct holds reduced noNull

/-- Whatever is found in a reduced document was found in its place before. -/
theorem isShadow_of_reduce {x y : Node} (inTree : x ∈ tree.nodes) (inDocument : y ∈ document.nodes)
    (same : x.path = y.path) : IsShadow m o x y := by
  have treeDistinct := hasDistinctKeys_of_reduce distinct reduced
  obtain ⟨role, -, fits⟩ :=
    exists_role distinct holds reduced (treeDistinct.mem_nodes_iff.mp inTree)
  cases role with
  | kept =>
      rw [distinct.eq_of_path_eq (distinct.mem_nodes_iff.mpr fits) inDocument same]
      exact ⟨rfl, id, id⟩
  | passage =>
      obtain ⟨whole, found, thinned⟩ := fits
      obtain ⟨path, v⟩ := x
      have before : (⟨path, whole⟩ : Node) ∈ document.nodes := distinct.mem_nodes_iff.mpr found
      rw [← distinct.eq_of_path_eq before inDocument same]
      cases thinned <;> exact isShadow_of_kind rfl rfl
  | gap =>
      obtain ⟨null, -⟩ := fits
      obtain ⟨path, v⟩ := x
      obtain ⟨place, w⟩ := y
      subst null same
      exact isShadow_null noNull

variable (wanted : ∀ node ∈ firstHits m o document, node.path ∈ targets)

include wanted

theorem isThinning_reachedNodes :
    IsThinning (isHit m o) o.limit.toNat (reachedNodes o tree) (reachedNodes o document) where
  order := by
    rw [map_path_reachedNodes, map_path_reachedNodes]
    exact (placesFrom_sublist reduced []).filter _
  once := by
    rw [map_path_reachedNodes]
    exact (distinct.nodup_placesFrom []).filter _
  fewer := by
    intro x inTree y inDocument same
    exact (isShadow_of_reduce distinct holds reduced noNull (List.mem_filter.mp inTree).1
      (List.mem_filter.mp inDocument).1 same).hit
  kept := by
    intro y first
    obtain ⟨present, reached⟩ :=
      List.mem_filter.mp (List.mem_filter.mp (List.mem_of_mem_take first)).1
    obtain ⟨_, same, there⟩ :=
      get?_of_reduce distinct (wanted y first) (distinct.mem_nodes_iff.mp present)
    obtain rfl := Option.some.inj (reduced.symm.trans same)
    have treeDistinct := hasDistinctKeys_of_reduce distinct reduced
    exact List.mem_filter.mpr ⟨treeDistinct.mem_nodes_iff.mpr there, reached⟩

/-- The first hits of a document are those of what is left of it, if they are kept. -/
theorem firstHits_of_reduce : firstHits m o tree = firstHits m o document :=
  (isThinning_reachedNodes distinct holds reduced noNull wanted).pass.1

/-- If the matcher breaks down on what is left of a document, it did so on the document. -/
theorem breaksDown_of_reduce (breaks : BreaksDown m o tree) : BreaksDown m o document := by
  rw [breaksDown_iff, List.any_eq_true] at breaks ⊢
  obtain ⟨x, readAgain, breaksAgain⟩ := breaks
  obtain ⟨y, read, same⟩ :=
    (isThinning_reachedNodes distinct holds reduced noNull wanted).pass.2 x readAgain
  have inTree := (List.mem_filter.mp (mem_of_mem_readUntil readAgain)).1
  have inDocument := (List.mem_filter.mp (mem_of_mem_readUntil read)).1
  have shadow := isShadow_of_reduce distinct holds reduced noNull (m := m) inTree inDocument same
  exact ⟨y, read, shadow.breaks breaksAgain⟩

end Reduced

section Again

open Prune Value

variable {m : Match.Matcher} {o : Options} {document : Value}

theorem path_mem_pathsOf {node : Node} (first : node ∈ firstHits m o document) :
    node.path ∈
      pathsOf ((grouped (scopeCount m o) (firstHits m o document)).map (report m o)) := by
  have isHit := isHit_of_mem_firstHits first
  have inGroup : node ∈ grouped (scopeCount m o) (firstHits m o document) :=
    mem_grouped_iff.mpr ⟨first, scopeCount_pos_of_isHit isHit, scopeCount_le⟩
  exact List.mem_map.mpr ⟨report m o node, List.mem_map_of_mem inGroup, rfl⟩

/-- A text search that does not ask for nulls finds the same results again in the document reduced
to them. Only a pattern that breaks down yields no results to begin with. -/
theorem search_toResults {mode : Match.TextMode} (texts : o.mode = .text mode)
    (prepared : Match.Matcher.prepare mode o.query o.caseSensitive o.threshold = .ok m)
    (distinct : document.HasDistinctKeys)
    (noNull : ∀ names, o.kinds = some names → Kind.null.name ∉ names) :
    ((∃ response, search o document = .ok response) ∨
        mode = .regex ∧ BreaksDown m o document) ∧
      ∀ response, search o document = .ok response →
        ∃ tree again, toResults .filled response.results document = .ok tree ∧
          search o tree = .ok again ∧ again.results = response.results := by
  by_cases breaks : BreaksDown m o document
  · have failed := search_of_breaksDown texts prepared breaks
    have isPattern : mode = .regex := Decidable.byContradiction fun other =>
      not_breaksDown (by rwa [mode_of_prepare prepared]) breaks
    refine ⟨Or.inr ⟨isPattern, breaks⟩, fun response searched => ?_⟩
    rw [failed] at searched
    cases searched
  · have answered := search_of_not_breaksDown texts prepared breaks
    refine ⟨Or.inl ⟨_, answered⟩, fun response searched => ?_⟩
    have found : ∀ r ∈ response.results, IsFoundIn document r := fun r inside =>
      ⟨o, response, searched, inside⟩
    have read := fun r inside => (found r inside).pathOf_eq distinct
    have holds := holdsAll_pathsOf distinct found
    rw [answered] at searched
    obtain rfl := Except.ok.inj searched
    by_cases none : pathsOf
        ((grouped (scopeCount m o) (firstHits m o document)).map (report m o)) = []
    · have whole := toResults_eq .filled read document
      rw [none] at whole
      exact ⟨document, _, whole, answered, rfl⟩
    · have reduced := reduce_eq_toPaths distinct holds none
      have same := firstHits_of_reduce (m := m) distinct holds reduced noNull
        fun _ first => path_mem_pathsOf first
      have runs := mt (breaksDown_of_reduce (m := m) distinct holds reduced noNull
        fun _ first => path_mem_pathsOf first) breaks
      refine ⟨_, _, toResults_eq .filled read document,
        search_of_not_breaksDown texts prepared runs, ?_⟩
      rw [same]

/-- A search for a single object. -/
def findOneBook : Options :=
  Request.fill .default
    { query := "book", caseSensitive := some true, kinds := some ["object", "string"]
      limit := some 1 }

/-- The limit leaves out a second hit, which is kept all the same within the first. In the reduced
document, where the first hit stands behind a null, it is found alone again. -/
theorem search_toResults_of_one_book :
    findOneBook.mode = .text .simple ∧
      Match.Matcher.prepare .simple findOneBook.query findOneBook.caseSensitive
        findOneBook.threshold = .ok (.simple true ['b', 'o', 'o', 'k']) ∧
      shelf.HasDistinctKeys ∧
      (∀ names, findOneBook.kinds = some names → Kind.null.name ∉ names) ∧
      ∃ response tree again, search findOneBook shelf = .ok response ∧
        response.results.map (·.segments) = [[.index 1, .key "book"]] ∧
        toResults .filled response.results shelf = .ok tree ∧
        tree.get? [.index 0] = some .null ∧
        tree.get? [.index 1, .key "book", .key "by"] = some (.str "book") ∧
        search findOneBook tree = .ok again ∧ again.results = response.results := by
  have noNull : ∀ names, findOneBook.kinds = some names → Kind.null.name ∉ names := by
    intro names kinds
    obtain rfl := Option.some.inj kinds
    decide
  have runs : ¬ BreaksDown (.simple true ['b', 'o', 'o', 'k']) findOneBook shelf :=
    not_breaksDown Match.TextMode.noConfusion
  have answered := search_of_not_breaksDown rfl rfl runs
  have paths : pathsOf ((grouped (scopeCount (.simple true ['b', 'o', 'o', 'k']) findOneBook)
      (firstHits (.simple true ['b', 'o', 'o', 'k']) findOneBook shelf)).map
        (report (.simple true ['b', 'o', 'o', 'k']) findOneBook)) = [[.index 1, .key "book"]] := by
    decide +kernel
  obtain ⟨tree, again, reduced, searched, same⟩ :=
    (search_toResults rfl rfl hasDistinctKeys_shelf noNull).2 _ answered
  have found : ∀ r ∈ _, pathOf r = .ok r.segments := fun r inside =>
    IsFoundIn.pathOf_eq hasDistinctKeys_shelf ⟨findOneBook, _, answered, inside⟩
  have shape := (toResults_eq .filled found shelf).symm.trans reduced
  rw [paths] at shape
  obtain rfl := Except.ok.inj shape
  exact ⟨rfl, rfl, hasDistinctKeys_shelf, noNull, _, _, again, answered, paths, reduced, rfl, rfl,
    searched, same⟩

end Again

end Search

end JsonSeek
