import JsonSeek.Proofs.FoundNodes
import JsonSeek.Proofs.PathSpelling

/-!
# Following reported paths

A result reports its path in two spellings. Both lead back to its value unless a key on the way is
lost in brackets or the spelling without `$` starts with one. These are the only exceptions: each
path that falls under them is the path of a result that cannot be found again.
-/

namespace JsonSeek

namespace Value

/-- The part of a document that the spelling of a path leads to. -/
def find? (document : Value) (text : String) : Option Value :=
  (Path.read text).toOption.bind document.get?

theorem find?_of_read {document : Value} {text : String} {path : Path}
    (read : Path.read text = .ok path) : document.find? text = document.get? path := by
  rw [find?, read]
  rfl

theorem isNatural_of_get? {v part : Value} {path : Path} (found : v.get? path = some part) :
    path.IsNatural := by
  induction path generalizing v with
  | nil => simp [Path.IsNatural]
  | cons step rest ih =>
      rw [get?_cons] at found
      obtain ⟨next, stepped, found⟩ := Option.bind_eq_some_iff.mp found
      intro i inside
      rcases List.mem_cons.mp inside with first | later
      · obtain rfl := first
        cases v with
        | arr items =>
            obtain ⟨n, same, -⟩ := mem_children_arr_iff.mp (mem_children_of_step? stepped)
            cases same
            omega
        | _ => cases stepped
      · exact ih found i later

/-! ## A document for a path -/

/-- What no other part of a spine is equal to. -/
def mark : Value := .bool true

/-- A document that holds a mark at the end of a path and nothing beside the path but null. -/
def spine : Path → Value
  | [] => mark
  | .key name :: rest => .obj [(name, spine rest)]
  | .index i :: rest => .arr (List.replicate i.toNat .null ++ [spine rest])

theorem hasDistinctKeys_spine (path : Path) : (spine path).HasDistinctKeys := by
  induction path with
  | nil => exact .scalar rfl
  | cons step rest ih =>
      cases step with
      | key name => exact .obj (by simp) (by simpa using ih)
      | index i =>
          refine .arr fun v inside => ?_
          rcases List.mem_append.mp inside with padding | last
          · rw [List.eq_of_mem_replicate padding]
            exact .scalar rfl
          · rw [List.mem_singleton.mp last]
            exact ih

theorem get?_null_ne_mark (path : Path) : null.get? path ≠ some mark := by
  cases path with
  | nil => simp [mark]
  | cons step rest => cases step <;> simp [get?_cons, step?]

theorem step?_spine_self {step : Segment} {rest : Path} (natural : Path.IsNatural (step :: rest)) :
    (spine (step :: rest)).step? step = some (spine rest) := by
  cases step with
  | key name => exact if_pos rfl
  | index i =>
      have notNegative : ¬ i < 0 := Int.not_lt.mpr (natural i List.mem_cons_self)
      simp [spine, step?, notNegative]

theorem step?_spine_of_ne {step other : Segment} {rest : Path}
    (natural : Path.IsNatural (step :: rest)) (different : other ≠ step) :
    (spine (step :: rest)).step? other = none ∨
      (spine (step :: rest)).step? other = some .null := by
  cases step with
  | key name =>
      cases other with
      | index j => exact Or.inl rfl
      | key label =>
          refine Or.inl (if_neg ?_)
          rintro rfl
          exact different rfl
  | index i =>
      cases other with
      | key label => exact Or.inl rfl
      | index j =>
          simp only [spine, step?]
          split
          · exact Or.inl rfl
          · rename_i notNegative
            rcases Nat.lt_trichotomy j.toNat i.toNat with before | same | behind
            · right
              rw [List.getElem?_append_left (by simpa using before),
                List.getElem?_replicate_of_lt before]
            · have first := natural i List.mem_cons_self
              exact absurd (congrArg Segment.index (by omega)) different
            · left
              rw [List.getElem?_eq_none]
              simp only [List.length_append, List.length_replicate, List.length_singleton]
              omega

/-- Only the path itself leads to the mark. -/
theorem get?_spine_iff {path other : Path} (natural : path.IsNatural) :
    (spine path).get? other = some mark ↔ other = path := by
  induction path generalizing other with
  | nil =>
      cases other with
      | nil => simp [spine]
      | cons step rest => cases step <;> simp [spine, mark, get?_cons, step?]
  | cons step rest ih =>
      cases other with
      | nil => cases step <;> simp [spine, mark]
      | cons first more =>
          rw [get?_cons]
          by_cases same : first = step
          · rw [same, step?_spine_self natural, Option.bind_some, ih natural.tail]
            simp
          · refine iff_of_false ?_ (by simp [same])
            rcases step?_spine_of_ne natural same with nothing | padding
            · simp [nothing]
            · rw [padding]
              exact get?_null_ne_mark more

/-- A text that leads to the mark is read as the path of the spine. -/
theorem read_of_find?_spine {path : Path} (natural : path.IsNatural) {text : String}
    (found : (spine path).find? text = some mark) : Path.read text = .ok path := by
  rw [find?] at found
  cases read : Path.read text with
  | error fault =>
      rw [read] at found
      cases found
  | ok other =>
      rw [read] at found
      rw [(get?_spine_iff natural).mp found]

end Value

namespace Search

open Value

variable {o : Options} {document : Value}

/-! ## From a result to its node -/

/-- If all keys on the way are readable, the rooted spelling leads back. -/
theorem find?_jsonPath (distinct : document.HasDistinctKeys) {response : Response}
    (searched : search o document = .ok response) {r : Result} (found : r ∈ response.results)
    (readable : r.segments.IsReadable) : document.find? r.jsonPath = some r.value := by
  obtain ⟨node, inside, segments, value, -, jsonPath⟩ := exists_describes distinct searched found
  have leads := distinct.mem_nodes_iff.mp inside
  rw [segments] at readable
  have read := (Path.read_rooted_iff (isNatural_of_get? leads)).mpr readable
  rw [jsonPath, value, find?_of_read read, leads]

/-- If moreover the first key does not start with `$`, so does the canonical spelling. -/
theorem find?_path (distinct : document.HasDistinctKeys) {response : Response}
    (searched : search o document = .ok response) {r : Result} (found : r ∈ response.results)
    (readable : r.segments.IsReadable) (noDollar : ¬ r.segments.StartsWithDollar) :
    document.find? r.path = some r.value := by
  obtain ⟨node, inside, segments, value, path, -⟩ := exists_describes distinct searched found
  have leads := distinct.mem_nodes_iff.mp inside
  rw [segments] at readable noDollar
  have read := ((Path.read_both_iff (isNatural_of_get? leads)).mpr ⟨readable, noDollar⟩).1
  rw [path, value, find?_of_read read, leads]

/-! ## From a path to a result -/

/-- A search that finds every node by its label, up to a limit. -/
def findAll (limit : Nat) : Options :=
  Request.fill .default { query := "", caseSensitive := some true, limit := some limit }

theorem occursIn_nil (text : List Char) : Match.occursIn [] text = true := by
  cases text <;> rfl

theorem isHit_findAll (limit : Nat) (node : Node) :
    isHit (.simple true []) (findAll limit) node = true := by
  have found (text : String) : (outcomeOf (.simple true []) text).matched = true := by
    simp [outcomeOf, Match.Matcher.run, Match.Matcher.runSimple, occursIn_nil]
  simp [isHit, keyFound, found, findAll, Request.fill, Options.allows, Settings.default]

/-- Every node of a document is described by some result. -/
theorem exists_search_describes (document : Value) :
    ∃ o response, search o document = .ok response ∧
      ∀ node ∈ document.nodes, ∃ r ∈ response.results, r.Describes node := by
  have runs : ¬ BreaksDown (.simple true []) (findAll document.nodes.length) document :=
    not_breaksDown Match.TextMode.noConfusion
  refine ⟨_, _, search_of_not_breaksDown rfl rfl runs, fun node inside => ?_⟩
  have all : firstHits (.simple true []) (findAll document.nodes.length) document =
      document.nodes := by
    have reached : reachedNodes (findAll document.nodes.length) document = document.nodes :=
      List.filter_eq_self.mpr fun _ _ => rfl
    rw [firstHits, reached, List.filter_eq_self.mpr fun node _ => isHit_findAll _ node]
    exact List.take_length
  refine ⟨_, List.mem_map.mpr ⟨node, mem_grouped_iff.mpr ⟨?_, ?_, scopeCount_le⟩, rfl⟩,
    describes_ofNode _ _ _ _⟩
  · rw [all]
    exact inside
  · exact scopeCount_pos_of_isHit (isHit_findAll _ node)

/-- Something holds of every result that any search of any document finds at a path. -/
def AlwaysAt (path : Path) (holds : Value → Result → Prop) : Prop :=
  ∀ o document response r, document.HasDistinctKeys → search o document = .ok response →
    r ∈ response.results → r.segments = path → holds document r

/-- What always holds at a path holds of a result that describes the mark of its spine. -/
theorem AlwaysAt.on_spine {path : Path} (natural : path.IsNatural)
    {holds : Value → Result → Prop} (always : AlwaysAt path holds) :
    ∃ r, r.Describes ⟨path, mark⟩ ∧ holds (spine path) r := by
  have distinct := hasDistinctKeys_spine path
  have inside : ⟨path, mark⟩ ∈ (spine path).nodes :=
    distinct.mem_nodes_iff.mpr ((get?_spine_iff natural).mpr rfl)
  obtain ⟨o, response, searched, every⟩ := exists_search_describes (spine path)
  obtain ⟨r, found, describes⟩ := every _ inside
  exact ⟨r, describes, always o _ response r distinct searched found describes.1⟩

/-- The rooted spelling of every result at a path leads back exactly if all keys of the path are
readable, and both spellings do exactly if moreover the first key does not start with `$`. -/
theorem results_lead_back_iff {path : Path} (natural : path.IsNatural) :
    (AlwaysAt path (fun document r => document.find? r.jsonPath = some r.value) ↔
      path.IsReadable) ∧
    (AlwaysAt path (fun document r =>
        document.find? r.path = some r.value ∧ document.find? r.jsonPath = some r.value) ↔
      path.IsReadable ∧ ¬ path.StartsWithDollar) := by
  constructor
  · constructor
    · intro always
      obtain ⟨r, ⟨-, value, -, jsonPath⟩, leads⟩ := always.on_spine natural
      rw [jsonPath, value] at leads
      exact (Path.read_rooted_iff natural).mp (read_of_find?_spine natural leads)
    · rintro readable o document response r distinct searched found rfl
      exact find?_jsonPath distinct searched found readable
  · constructor
    · intro always
      obtain ⟨r, ⟨-, value, shortPath, jsonPath⟩, leads, rootedLeads⟩ := always.on_spine natural
      rw [shortPath, value] at leads
      rw [jsonPath, value] at rootedLeads
      exact (Path.read_both_iff natural).mp
        ⟨read_of_find?_spine natural leads, read_of_find?_spine natural rootedLeads⟩
    · rintro ⟨readable, noDollar⟩ o document response r distinct searched found rfl
      exact ⟨find?_path distinct searched found readable noDollar,
        find?_jsonPath distinct searched found readable⟩

/-- Below a key with a single quote and an empty key, both spellings lead back. -/
theorem quoted_and_empty_keys_lead_back :
    Path.IsNatural [.key "it's]", .index 2, .key ""] ∧
      AlwaysAt [.key "it's]", .index 2, .key ""] (fun document r =>
        document.find? r.path = some r.value ∧ document.find? r.jsonPath = some r.value) := by
  have natural : Path.IsNatural [.key "it's]", .index 2, .key ""] := by simp [Path.IsNatural]
  have readable : Path.IsReadable [.key "it's]", .index 2, .key ""] := by
    have quoted : Path.isReadableKey "it's]" = true ∧ Path.isReadableKey "" = true := by
      decide +kernel
    simp [Path.IsReadable, quoted]
  have noDollar : ¬ Path.StartsWithDollar [.key "it's]", .index 2, .key ""] := by
    rintro ⟨name, rest, same, -, first⟩
    cases same
    exact absurd first (by decide +kernel)
  exact ⟨natural, (results_lead_back_iff natural).2.mpr ⟨readable, noDollar⟩⟩

/-- A document whose only key starts with `$`. -/
def dollarKey : Value := .obj [("$ref", .int 1)]

/-- A document whose only key holds both quotes. -/
def mixedQuotes : Value := .obj [("a'b\"c", .int 1)]

/-- Each spelling of a result may lead nowhere. -/
theorem results_not_led_back :
    (dollarKey.HasDistinctKeys ∧ ∃ o response, search o dollarKey = .ok response ∧
      ∃ r ∈ response.results, r.value = .int 1 ∧ dollarKey.find? r.path = none) ∧
    mixedQuotes.HasDistinctKeys ∧ ∃ o response, search o mixedQuotes = .ok response ∧
      ∃ r ∈ response.results, r.value = .int 1 ∧ mixedQuotes.find? r.jsonPath = none := by
  have single (name : String) : (Value.obj [(name, .int 1)]).HasDistinctKeys :=
    .obj (by simp) (by simpa using .scalar rfl)
  have node (name : String) : ⟨[.key name], .int 1⟩ ∈ (Value.obj [(name, .int 1)]).nodes :=
    (single name).mem_nodes_iff.mpr (by simp [get?_cons, step?, field?])
  have pathLost : (dollarKey.find? (Path.canonical [.key "$ref"])).isNone = true := by
    decide +kernel
  have jsonPathLost : (mixedQuotes.find? (Path.rooted [.key "a'b\"c"])).isNone = true := by
    decide +kernel
  constructor
  · obtain ⟨o, response, searched, every⟩ := exists_search_describes dollarKey
    obtain ⟨r, found, -, value, path, -⟩ := every _ (node "$ref")
    refine ⟨single _, o, response, searched, r, found, value, ?_⟩
    rw [path]
    exact Option.isNone_iff_eq_none.mp pathLost
  · obtain ⟨o, response, searched, every⟩ := exists_search_describes mixedQuotes
    obtain ⟨r, found, -, value, -, jsonPath⟩ := every _ (node "a'b\"c")
    refine ⟨single _, o, response, searched, r, found, value, ?_⟩
    rw [jsonPath]
    exact Option.isNone_iff_eq_none.mp jsonPathLost

end Search

end JsonSeek
