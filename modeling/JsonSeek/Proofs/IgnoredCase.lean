import JsonSeek.Proofs.LoweredText
import JsonSeek.Proofs.Occurrences
import JsonSeek.Proofs.Truncation

/-!
# Hits that are lost when case is ignored

Ignoring case is meant to find more. But a capital sigma is lowered according to what stands around
it, so that a query may be lowered otherwise on its own than within a text that contains it, and
then it is not found any more. The queries that keep their hits are the steady ones, in which every
sigma is settled by the query itself (`ignoring_case_keeps_hits_iff`).
-/

namespace JsonSeek

namespace Text

/-! ## Settled sigmas -/

/-- Whether some character of a text is not skipped when looking for the end of a word. -/
def decides (s : List Char) : Bool := s.any fun c => !holds caseIgnorableBounds c.toNat

/-- A sigma between two texts has the same lower case whatever stands around them: it has to be
clear that a letter follows, that no letter precedes, or that one precedes and none follows. -/
def IsSettled (first rest : List Char) : Prop :=
  startsCased rest = true ∨
    decides first = true ∧ (startsCased first.reverse = false ∨ decides rest = true)

/-- Every capital sigma of a text is settled by the text itself. -/
def IsSteady (s : List Char) : Prop :=
  ∀ first rest, s = first ++ 'Σ' :: rest → IsSettled first rest

instance (first rest : List Char) : Decidable (IsSettled first rest) :=
  inferInstanceAs (Decidable (_ ∨ _))

/-- A steady text can be told by looking at each of its characters. -/
theorem isSteady_iff {s : List Char} :
    IsSteady s ↔
      ∀ i < s.length, s[i]? = some 'Σ' → IsSettled (s.take i) (s.drop (i + 1)) := by
  constructor
  · intro steady i short sigma
    refine steady _ _ ?_
    obtain ⟨_, here⟩ := List.getElem?_eq_some_iff.mp sigma
    rw [← here, List.getElem_cons_drop, List.take_append_drop]
  · rintro settled first rest rfl
    have here := settled first.length (by simp) (by simp)
    have behind : (first ++ 'Σ' :: rest).drop (first.length + 1) = rest := by simp
    rwa [List.take_left, behind] at here

instance (s : List Char) : Decidable (IsSteady s) := decidable_of_iff _ isSteady_iff.symm

section

variable {s : List Char}

theorem decides_cons (c : Char) (rest : List Char) :
    decides (c :: rest) = (!holds caseIgnorableBounds c.toNat || decides rest) :=
  List.any_cons

theorem decides_reverse (s : List Char) : decides s.reverse = decides s := List.any_reverse

/-- Behind a character that is not skipped, nothing matters. -/
theorem startsCased_append_of_decides (decided : decides s = true) (t : List Char) :
    startsCased (s ++ t) = startsCased s := by
  obtain ⟨c, inside, seen⟩ := List.any_eq_true.mp decided
  obtain ⟨first, rest, rfl⟩ := List.append_of_mem inside
  have seen' : holds caseIgnorableBounds c.toNat = false := by simpa using seen
  rw [List.append_assoc, List.cons_append]
  exact startsCased_append_cons_congr seen' seen' rfl first (rest ++ t) rest

/-- Characters that are skipped do not matter. -/
theorem startsCased_append_of_not_decides (skipped : decides s = false) (t : List Char) :
    startsCased (s ++ t) = startsCased t := by
  induction s with
  | nil => rfl
  | cons c rest ih =>
      rw [decides_cons, Bool.or_eq_false_iff, Bool.not_eq_false'] at skipped
      rw [List.cons_append, startsCased_cons_of_ignorable skipped.1, ih skipped.2]

/-- Only a text with a character that is not skipped begins with case. -/
theorem startsCased_of_not_decides (skipped : decides s = false) : startsCased s = false := by
  have nothing := startsCased_append_of_not_decides skipped []
  rwa [List.append_nil] at nothing

theorem sigma_notMem_of_not_decides (skipped : decides s = false) : 'Σ' ∉ s := fun inside => by
  have decided : decides s = true :=
    List.any_eq_true.mpr ⟨'Σ', inside, by rw [sigma_not_ignorable]; rfl⟩
  rw [skipped] at decided
  cases decided

/-- A settled sigma has the same lower case in every context. -/
theorem IsSettled.lowerChar_eq {first rest : List Char} (settled : IsSettled first rest)
    (before behind : List Char) :
    lowerChar (first.reverse ++ before) (rest ++ behind) 'Σ' =
      lowerChar first.reverse rest 'Σ' := by
  rcases settled with cased | ⟨decided, uncased | decidedBehind⟩
  · rw [lowerChar_sigma_of_not_final fun _ => startsCased_append_of_left cased behind,
      lowerChar_sigma_of_not_final fun _ => cased]
  · rw [← decides_reverse] at decided
    have still := startsCased_append_of_decides decided before
    rw [lowerChar_sigma_of_not_final (by simp [still, uncased]),
      lowerChar_sigma_of_not_final (by simp [uncased])]
  · rw [← decides_reverse] at decided
    rw [lowerChar, lowerChar, startsCased_append_of_decides decided,
      startsCased_append_of_decides decidedBehind]

/-- A steady text has the same lower case in every context. -/
theorem IsSteady.lowerBetween_eq (steady : IsSteady s) (before behind : List Char) :
    lowerBetween before behind s = lower s := by
  rw [lower_eq_lowerBetween]
  refine lowerBetween_congr fun first rest split => ?_
  rw [(steady first rest split).lowerChar_eq, List.append_nil, List.append_nil]

/-- A text that contains a steady one still does so in lower case. -/
theorem IsSteady.lower_infix (steady : IsSteady s) {t : List Char} (contained : s <:+: t) :
    lower s <:+: lower t := by
  obtain ⟨before, behind, rfl⟩ := contained
  rw [lower_eq_lowerBetween (before ++ s ++ behind), lowerBetween_append, lowerBetween_append,
    steady.lowerBetween_eq]
  exact List.infix_append _ _ _

/-! ## Sigmas that are not settled -/

/-- Where there is no sigma, the context does not matter. -/
theorem lowerBetween_of_no_sigma (none : 'Σ' ∉ s) (before behind before' behind' : List Char) :
    lowerBetween before behind s = lowerBetween before' behind' s :=
  lowerBetween_congr fun first rest split => by
    rw [split] at none
    exact absurd (List.mem_append_right first List.mem_cons_self) none

/-- Behind a sigma it does not matter what stands before it. -/
theorem lowerBetween_sigma_cons (before before' behind s : List Char) :
    lowerBetween ('Σ' :: before) behind s = lowerBetween ('Σ' :: before') behind s :=
  lowerBetween_congr fun first rest _ => by
    rw [lowerChar, lowerChar,
      startsCased_append_cons_congr sigma_not_ignorable sigma_not_ignorable rfl first.reverse
        before before']

theorem lowerChar_a (before behind : List Char) : lowerChar before behind 'a' = ['a'] := by
  rw [lowerChar, if_neg (by decide), if_neg (by decide)]
  decide +kernel

theorem startsCased_a : startsCased ['a'] = true := by decide +kernel

/-- A letter in front makes a sigma final that nothing in the query precedes. The text then holds
one `σ` less than the query. -/
theorem not_lower_infix_cons {first rest : List Char} (skipped : decides first = false)
    (bare : startsCased rest = false) :
    ¬ lower (first ++ 'Σ' :: rest) <:+: lower ('a' :: first ++ 'Σ' :: rest) := by
  intro contained
  have query : lowerChar first.reverse rest 'Σ' = ['σ'] := by
    refine lowerChar_sigma_of_not_final fun cased => ?_
    rw [startsCased_of_not_decides (decides_reverse first ▸ skipped)] at cased
    cases cased
  have text : lowerChar ('a' :: first).reverse rest 'Σ' = ['ς'] := by
    refine lowerChar_sigma_of_final ?_ bare
    rw [List.reverse_cons, startsCased_append_of_not_decides (decides_reverse first ▸ skipped)]
    exact startsCased_a
  have before := lowerBetween_of_no_sigma (sigma_notMem_of_not_decides skipped) ['a'] ['Σ'] [] ['Σ']
  have behind := lowerBetween_sigma_cons ('a' :: first).reverse first.reverse [] rest
  have more : (lower (first ++ 'Σ' :: rest)).count 'σ' =
      (lower ('a' :: first ++ 'Σ' :: rest)).count 'σ' + 1 := by
    rw [lower_append_sigma, lower_append_sigma, query, text, behind, lowerBetween, lowerChar_a,
      before]
    simp [Nat.add_assoc]
  exact Nat.not_succ_le_self _ (more ▸ contained.sublist.count_le 'σ')

/-- A letter behind a sigma keeps it from being final, if the query has nothing behind it that
decides. The text then holds one `ς` less than the query. -/
theorem not_lower_infix_concat {first rest : List Char} (cased : startsCased first.reverse = true)
    (skipped : decides rest = false) :
    ¬ lower (first ++ 'Σ' :: rest) <:+: lower (first ++ 'Σ' :: (rest ++ ['a'])) := by
  intro contained
  have query : lowerChar first.reverse rest 'Σ' = ['ς'] :=
    lowerChar_sigma_of_final cased (startsCased_of_not_decides skipped)
  have text : lowerChar first.reverse (rest ++ ['a']) 'Σ' = ['σ'] := by
    refine lowerChar_sigma_of_not_final fun _ => ?_
    rw [startsCased_append_of_not_decides skipped]
    exact startsCased_a
  have behind := lowerBetween_of_no_sigma (sigma_notMem_of_not_decides skipped)
    ('Σ' :: first.reverse) (['a'] ++ []) ('Σ' :: first.reverse) []
  have more : (lower (first ++ 'Σ' :: rest)).count 'ς' =
      (lower (first ++ 'Σ' :: (rest ++ ['a']))).count 'ς' + 1 := by
    rw [lower_append_sigma, lower_append_sigma, query, text, lowerBetween_append, lowerBetween,
      lowerBetween, lowerChar_a, behind]
    simp [Nat.add_assoc]
  exact Nat.not_succ_le_self _ (more ▸ contained.sublist.count_le 'ς')

/-- A query with a sigma that it does not settle is contained in a text that does not contain it in
lower case. -/
theorem exists_not_lower_infix {first rest : List Char} (loose : ¬ IsSettled first rest) :
    ∃ t, first ++ 'Σ' :: rest <:+: t ∧ ¬ lower (first ++ 'Σ' :: rest) <:+: lower t := by
  simp only [IsSettled, not_or, not_and, Bool.not_eq_true, Bool.not_eq_false] at loose
  obtain ⟨bare, loose⟩ := loose
  cases decided : decides first with
  | false => exact ⟨_, List.infix_cons (List.infix_refl _), not_lower_infix_cons decided bare⟩
  | true =>
      obtain ⟨cased, skipped⟩ := loose decided
      have contained : first ++ 'Σ' :: rest <:+: first ++ 'Σ' :: (rest ++ ['a']) :=
        ⟨[], ['a'], by simp⟩
      exact ⟨_, contained, not_lower_infix_concat cased skipped⟩

/-- A text is steady exactly if every text that contains it does so in lower case. -/
theorem isSteady_iff_lower_infix : IsSteady s ↔ ∀ t, s <:+: t → lower s <:+: lower t := by
  refine ⟨fun steady t contained => steady.lower_infix contained, fun kept first rest split => ?_⟩
  subst split
  refine Decidable.byContradiction fun loose => ?_
  obtain ⟨t, contained, lost⟩ := exists_not_lower_infix loose
  exact lost (kept t contained)

example : ¬ IsSteady ['Α', 'Σ'] ∧ IsSteady ['Σ', 'Α', 'Σ', ' '] := by decide +kernel

end

end Text

/-! ## Matching texts -/

namespace Match

/-- The matcher of a substring search. -/
def simpleMatcher (caseSensitive : Bool) (query : String) : Matcher :=
  .simple caseSensitive (normalize caseSensitive query.toList)

/-- A substring search for a query finds it in a text. -/
def Finds (caseSensitive : Bool) (query text : String) : Prop :=
  ∃ m outcome, (∀ threshold, Matcher.prepare .simple query caseSensitive threshold = .ok m) ∧
    m.run text.toList = .ok outcome ∧ outcome.matched = true

section

variable {caseSensitive : Bool} {query text : String}

theorem matched_simpleMatcher :
    (Search.outcomeOf (simpleMatcher caseSensitive query) text).matched = true ↔
      normalize caseSensitive query.toList <:+: normalize caseSensitive text.toList :=
  matched_runSimple caseSensitive _ text.toList

theorem finds_iff_matched :
    Finds caseSensitive query text ↔
      (Search.outcomeOf (simpleMatcher caseSensitive query) text).matched = true := by
  constructor
  · rintro ⟨m, outcome, prepared, ran, matched⟩
    cases prepared .zero
    cases ran
    exact matched
  · exact fun matched => ⟨_, _, fun _ => rfl, rfl, matched⟩

theorem finds_iff :
    Finds caseSensitive query text ↔
      normalize caseSensitive query.toList <:+: normalize caseSensitive text.toList :=
  finds_iff_matched.trans matched_simpleMatcher

/-- Exactly the steady queries are still found wherever they are found when case counts. -/
theorem isSteady_iff_finds :
    Text.IsSteady query.toList ↔ ∀ text, Finds true query text → Finds false query text := by
  simp only [Text.isSteady_iff_lower_infix, finds_iff, normalize, if_true, Bool.false_eq_true,
    if_false]
  exact ⟨fun kept text => kept text.toList, fun kept t => by simpa using kept (String.ofList t)⟩

end

end Match

/-! ## Searching documents -/

namespace Search

/-- Ignoring case keeps the hits of a search in a document: both searches answer, and if the one
that ignores case is not cut off, then it finds every node that the other one finds. -/
def KeepsHits (o : Options) (document : Value) : Prop :=
  ∃ strict lenient, search { o with caseSensitive := true } document = .ok strict ∧
    search { o with caseSensitive := false } document = .ok lenient ∧
    (lenient.statistics.truncated = false →
      ∀ r ∈ strict.results, ∃ s ∈ lenient.results, s.segments = r.segments)

section

variable {m m' : Match.Matcher} {o : Options} {document : Value}

/-- A matcher that finds more texts makes more nodes hits. -/
theorem isHit_of_isHit
    (more : ∀ text, (outcomeOf m text).matched = true → (outcomeOf m' text).matched = true)
    {node : Node} (hit : isHit m o node = true) : isHit m' o node = true := by
  simp only [isHit, keyFound, valueFound, pathFound, Bool.and_eq_true, Bool.or_eq_true,
    Option.any_eq_true] at hit ⊢
  obtain ⟨allowed, (⟨looked, found⟩ | ⟨looked, s, text, found⟩) | ⟨looked, found⟩⟩ := hit
  · exact ⟨allowed, .inl (.inl ⟨looked, more _ found⟩)⟩
  · exact ⟨allowed, .inl (.inr ⟨looked, s, text, more _ found⟩)⟩
  · exact ⟨allowed, .inr ⟨looked, more _ found⟩⟩

/-- A scan that is not cut off reports all hits. -/
theorem mem_firstHits_of_not_truncated (whole : (textScan m o document).truncated = false)
    {node : Node} (reached : node ∈ reachedNodes o document) (hit : isHit m o node = true) :
    node ∈ firstHits m o document := by
  have finished := mt truncated_textScan_iff.mpr (Bool.eq_false_iff.mp whole)
  rw [firstHits, List.take_of_length_le (of_not_length_readUntil_lt _ finished).2]
  exact List.mem_filter.mpr ⟨reached, hit⟩

/-- A substring search answers, and its results are the first hits. -/
theorem exists_response (texts : o.mode = .text .simple) (document : Value) :
    ∃ response, search o document = .ok response ∧
      response.statistics.truncated =
        (textScan (Match.simpleMatcher o.caseSensitive o.query) o document).truncated ∧
      (response.results.map Result.segments).Perm
        ((firstHits (Match.simpleMatcher o.caseSensitive o.query) o document).map Node.path) := by
  refine ⟨_, search_of_not_breaksDown texts rfl (not_breaksDown Match.TextMode.noConfusion), rfl,
    ?_⟩
  rw [List.map_map]
  exact perm_grouped_firstHits.map Node.path

/-- What is found in texts is found in documents. -/
theorem keepsHits_of_finds (texts : o.mode = .text .simple)
    (more : ∀ text, Match.Finds true o.query text → Match.Finds false o.query text)
    (document : Value) : KeepsHits o document := by
  obtain ⟨strict, searched, -, places⟩ :=
    exists_response (o := { o with caseSensitive := true }) texts document
  obtain ⟨lenient, searched', truncated, places'⟩ :=
    exists_response (o := { o with caseSensitive := false }) texts document
  refine ⟨strict, lenient, searched, searched', fun whole r inside => List.mem_map.mp ?_⟩
  obtain ⟨node, first, path⟩ := List.mem_map.mp (places.subset (List.mem_map_of_mem inside))
  have reached : node ∈ reachedNodes o document :=
    (List.mem_filter.mp (List.mem_of_mem_take first)).1
  have hit : isHit (Match.simpleMatcher false o.query) o node = true :=
    isHit_of_isHit (fun text matched => Match.finds_iff_matched.mp
      (more text (Match.finds_iff_matched.mpr matched))) (isHit_of_mem_firstHits first)
  have found := mem_firstHits_of_not_truncated (truncated.symm.trans whole) reached hit
  exact places'.symm.subset (List.mem_map.mpr ⟨node, found, path⟩)

end

/-! ## A document that is one text -/

/-- A search among the strings of a document. -/
def amongValues (caseSensitive : Bool) (query : String) : Options :=
  Request.fill .default
    { query := query, caseSensitive := some caseSensitive, inKeys := some false }

section

variable {m : Match.Matcher} {caseSensitive : Bool} {query text : String}

/-- The only node of a string is a hit if the string is found. -/
theorem length_hits_amongValues :
    ((reachedNodes (amongValues caseSensitive query) (.str text)).filter
      (isHit m (amongValues caseSensitive query))).length = (outcomeOf m text).matched.toNat := by
  have nodes : reachedNodes (amongValues caseSensitive query) (.str text) = [⟨[], .str text⟩] := rfl
  have hit : isHit m (amongValues caseSensitive query) ⟨[], .str text⟩ =
      (outcomeOf m text).matched := by
    simp [isHit, keyFound, valueFound, pathFound, amongValues, Request.fill, Settings.default,
      Options.allows, Value.text?]
  rw [nodes, List.filter_cons, hit]
  cases (outcomeOf m text).matched <;> rfl

/-- A search in a string by itself is not cut off, and finds it or nothing. -/
theorem search_amongValues (caseSensitive : Bool) (query text : String) :
    ∃ response, search (amongValues caseSensitive query) (.str text) = .ok response ∧
      response.statistics.truncated = false ∧
      (response.results ≠ [] ↔ Match.Finds caseSensitive query text) := by
  obtain ⟨response, searched, truncated, places⟩ :=
    exists_response (o := amongValues caseSensitive query) rfl (.str text)
  have hits := @length_hits_amongValues (Match.simpleMatcher caseSensitive query) caseSensitive
    query text
  have few : ((reachedNodes (amongValues caseSensitive query) (.str text)).filter
      (isHit (Match.simpleMatcher caseSensitive query) (amongValues caseSensitive query))).length <
        (amongValues caseSensitive query).limit.toNat := by
    rw [hits]
    exact Nat.lt_of_le_of_lt (Bool.toNat_le _) (by decide : 1 < 1000)
  have whole : (textScan (Match.simpleMatcher caseSensitive query)
      (amongValues caseSensitive query) (.str text)).truncated = false := by
    refine Bool.eq_false_iff.mpr fun cut => absurd ?_ (Nat.not_le.mpr few)
    exact le_of_length_readUntil_lt _ (truncated_textScan_iff.mp cut)
  have count : response.results.length =
      (outcomeOf (Match.simpleMatcher caseSensitive query) text).matched.toNat := by
    have same := places.length_eq
    rw [List.length_map, List.length_map] at same
    exact same.trans (List.length_take.trans ((Nat.min_eq_right (Nat.le_of_lt few)).trans hits))
  refine ⟨response, searched, truncated.trans whole, ?_⟩
  rw [Match.finds_iff_matched, ← List.length_pos_iff, count]
  cases (outcomeOf (Match.simpleMatcher caseSensitive query) text).matched <;> decide

/-- If a search in a text by itself keeps its hit, then the text is still found. -/
theorem finds_of_keepsHits (kept : KeepsHits (amongValues caseSensitive query) (.str text))
    (found : Match.Finds true query text) : Match.Finds false query text := by
  obtain ⟨strict, lenient, searched, searched', keeps⟩ := kept
  obtain ⟨response, answered, -, finds⟩ := search_amongValues true query text
  obtain ⟨response', answered', whole, finds'⟩ := search_amongValues false query text
  obtain rfl := Except.ok.inj (searched.symm.trans answered)
  obtain rfl := Except.ok.inj (searched'.symm.trans answered')
  obtain ⟨r, inside⟩ := List.exists_mem_of_ne_nil _ (finds.mpr found)
  obtain ⟨s, inside', -⟩ := keeps whole r inside
  exact finds'.mp (List.ne_nil_of_mem inside')

end

/-! ## Queries that keep their hits -/

/-- Ignoring case keeps the hits of a query in texts, and those of every substring search for it in
documents, exactly if the query is steady: then, and only then, it is found wherever it is found
when case counts. -/
theorem ignoring_case_keeps_hits_iff (query : String) :
    ((∀ text, Match.Finds true query text → Match.Finds false query text) ↔
      Text.IsSteady query.toList) ∧
      ((∀ o : Options, o.query = query → o.mode = .text .simple →
        ∀ document, KeepsHits o document) ↔ Text.IsSteady query.toList) := by
  have steady := @Match.isSteady_iff_finds query
  refine ⟨steady.symm, fun kept => ?_, ?_⟩
  · exact steady.mpr fun text => finds_of_keepsHits (kept (amongValues true query) rfl rfl _)
  · rintro isSteady o rfl texts document
    exact keepsHits_of_finds texts (steady.mp isSteady) document

/-- A query with a sigma at the end of its first word, which is settled by the blank behind it. -/
theorem ignoring_case_keeps_hits_of_two_words :
    Text.IsSteady "ΟΔΟΣ 5".toList ∧ Match.Finds true "ΟΔΟΣ 5" "ΟΔΟΣ 55" ∧
      Match.Finds false "ΟΔΟΣ 5" "ΟΔΟΣ 55" ∧
      ∀ document, KeepsHits (amongValues false "ΟΔΟΣ 5") document := by
  have isSteady : Text.IsSteady "ΟΔΟΣ 5".toList := by decide +kernel
  have found : Match.Finds true "ΟΔΟΣ 5" "ΟΔΟΣ 55" :=
    Match.finds_iff.mpr ⟨[], ['5'], rfl⟩
  obtain ⟨texts, documents⟩ := ignoring_case_keeps_hits_iff "ΟΔΟΣ 5"
  exact ⟨isSteady, found, texts.mpr isSteady "ΟΔΟΣ 55" found,
    documents.mpr isSteady (amongValues false "ΟΔΟΣ 5") rfl rfl⟩

/-- The capital sigma is found at the end of a word if case counts, and lost if it is ignored: there
it becomes a final sigma, and on its own an ordinary one. -/
theorem ignoring_case_loses_final_sigma :
    Match.Finds true "Σ" "ΑΣ" ∧ ¬ Match.Finds false "Σ" "ΑΣ" ∧
      ¬ KeepsHits (amongValues false "Σ") (.str "ΑΣ") := by
  have found : Match.Finds true "Σ" "ΑΣ" := Match.finds_iff.mpr ⟨['Α'], [], rfl⟩
  have lost : ¬ Match.Finds false "Σ" "ΑΣ" := by
    rw [Match.finds_iff, ← Match.occursIn_iff_infix]
    decide +kernel
  exact ⟨found, lost, fun kept => lost (finds_of_keepsHits kept found)⟩

end Search

end JsonSeek
