import JsonSeek.Search.TextScan

/-!
# What a text search says about one node

The meaning of a text search at a single node, put without lists of scopes: which of its texts are
found, whether that makes the node a hit, and the result that describes it. `judge_eq` shows that
judging a node gives exactly this. Judging fails if the matcher breaks down on a text that the
options look at, which only a pattern can do.
-/

namespace JsonSeek

/-- The text of a string. -/
def Value.text? : Value → Option String
  | .str s => some s
  | _ => none

namespace Search

variable (m : Match.Matcher) (o : Options) (node : Node)

/-! ## Single texts -/

/-- What the matcher says about a text; nothing if it breaks down on it. -/
def outcomeOf (text : String) : Match.Outcome :=
  match m.run text.toList with
  | .ok outcome => outcome
  | .error _ => .none

/-- Whether the matcher breaks down on a text. -/
def failsOn (text : String) : Bool :=
  match m.run text.toList with
  | .ok _ => false
  | .error _ => true

/-- The score of a single text that matches. -/
def hitScore : Binary64 :=
  match m.mode with
  | .fuzzy => Match.fuzzyHitScore
  | _ => Match.fullScore

/-- Only running a pattern fails, and only because of a crossed group. -/
theorem run_eq (text : String) :
    m.run text.toList =
      if failsOn m text then .error .crossedGroup else .ok (outcomeOf m text) := by
  unfold failsOn outcomeOf
  cases ran : m.run text.toList with
  | ok outcome => rfl
  | error fault =>
      cases m with
      | simple caseSensitive query => cases ran
      | fuzzy caseSensitive query threshold => cases ran
      | regex pattern =>
          cases pattern with
          | none => cases ran
          | some pattern =>
              simp only [Match.Matcher.run] at ran
              split at ran
              · cases ran
              · cases ran
                rfl

theorem failsOn_eq_false (notPattern : m.mode ≠ .regex) (text : String) :
    failsOn m text = false := by
  cases m with
  | simple caseSensitive query => rfl
  | fuzzy caseSensitive query threshold => rfl
  | regex pattern => exact absurd rfl notPattern

/-- Every text that matches scores the same. -/
theorem score_of_matched {text : String} (matched : (outcomeOf m text).matched = true) :
    (outcomeOf m text).score = hitScore m := by
  unfold outcomeOf at matched ⊢
  cases m with
  | simple caseSensitive query =>
      simp only [Match.Matcher.run, Match.Matcher.runSimple] at matched ⊢
      split at matched
      · rename_i found
        rw [if_pos found]
        rfl
      · cases matched
  | fuzzy caseSensitive query threshold =>
      simp only [Match.Matcher.run, Match.Matcher.runFuzzy] at matched ⊢
      split at matched
      · rename_i found
        rw [if_pos found]
        rfl
      · cases matched
  | regex pattern =>
      cases pattern with
      | none => cases matched
      | some pattern =>
          simp only [Match.Matcher.run] at matched ⊢
          cases spans : pattern.spans text.toList with
          | error crossed =>
              cases crossed
              simp [spans, Match.Outcome.none] at matched
          | ok found =>
              simp only [spans, Match.Matcher.outcomeOfMatches] at matched ⊢
              split at matched
              · cases matched
              · rename_i nonempty
                rw [if_neg nonempty]
                rfl

/-! ## The meaning -/

/-- Whether the label of a node is looked at and matches. -/
def keyFound : Bool := o.inKeys && (outcomeOf m node.path.label).matched

/-- Whether the value of a node is looked at, is a string and matches. -/
def valueFound : Bool := o.inValues && node.value.text?.any fun s => (outcomeOf m s).matched

/-- Whether the path of a node is looked at and matches. -/
def pathFound : Bool := o.inPaths && (outcomeOf m node.path.rooted).matched

/-- How many texts of a node are found. -/
def scopeCount : Nat :=
  (keyFound m o node).toNat + (valueFound m o node).toNat + (pathFound m o node).toNat

/-- Whether a node is reported: its kind is allowed and one of its texts is found. -/
def isHit : Bool :=
  o.allows node.value.kind && (keyFound m o node || valueFound m o node || pathFound m o node)

/-- Whether the matcher breaks down on a text of the node that has to be looked at. -/
def breaksOn : Bool :=
  o.allows node.value.kind &&
    ((o.inKeys && failsOn m node.path.label) ||
      (o.inValues && node.value.text?.any (failsOn m)) ||
      (o.inPaths && failsOn m node.path.rooted))

/-- The last text of a node that is found, in the order label, value, path. -/
def lastFound : Option String :=
  if pathFound m o node then some node.path.rooted
  else if valueFound m o node then node.value.text?
  else if keyFound m o node then some node.path.label
  else none

/-- A score added up a number of times. -/
def scoreTimes (score : Binary64) : Nat → Binary64
  | 0 => .zero
  | n + 1 => (scoreTimes score n).add score

/-- The result for a node that is a hit. -/
def report : Result :=
  .ofNode node (scoreTimes (hitScore m) (scopeCount m o node))
    { inKey := keyFound m o node
      inValue := valueFound m o node
      inPath := pathFound m o node
      text := lastFound m o node
      positions := match lastFound m o node with
        | some text => (outcomeOf m text).positions
        | none => [] }
    o.withAncestors

/-! ## Judging -/

variable {m o node}

theorem scopeCount_pos_iff :
    0 < scopeCount m o node ↔
      (keyFound m o node || valueFound m o node || pathFound m o node) = true := by
  unfold scopeCount
  cases keyFound m o node <;> cases valueFound m o node <;> cases pathFound m o node <;> decide

theorem scopeCount_le : scopeCount m o node ≤ 3 := by
  unfold scopeCount
  cases keyFound m o node <;> cases valueFound m o node <;> cases pathFound m o node <;> decide

theorem scopeCount_pos_of_isHit (hit : isHit m o node = true) : 0 < scopeCount m o node :=
  scopeCount_pos_iff.mpr (Bool.and_eq_true_iff.mp hit).2

/-- The hit of a text, if it matches. -/
def scopeHit (m : Match.Matcher) (scope : Scope) (text : String) : List ScopeHit :=
  if (outcomeOf m text).matched then [⟨scope, text, outcomeOf m text⟩] else []

theorem hitsAmong_eq (texts : List (Scope × String)) :
    hitsAmong m texts =
      if texts.any (fun entry => failsOn m entry.2) then .error .crossedGroup
      else .ok (texts.flatMap fun entry => scopeHit m entry.1 entry.2) := by
  induction texts with
  | nil => rfl
  | cons entry rest ih =>
      obtain ⟨scope, text⟩ := entry
      simp only [hitsAmong, run_eq m text, ih, List.any_cons, List.flatMap_cons]
      cases failsOn m text with
      | true => rfl
      | false =>
          cases rest.any (fun entry => failsOn m entry.2) with
          | true => rfl
          | false =>
              cases matched : (outcomeOf m text).matched <;>
                simp [scopeHit, matched, Except.map]

theorem scopesOf_eq :
    o.scopesOf node =
      (if o.inKeys then [(.key, node.path.label)] else []) ++
        (if o.inValues then node.value.text?.toList.map fun s => (.value, s) else []) ++
          (if o.inPaths then [(.path, node.path.rooted)] else []) := by
  unfold Options.scopesOf
  cases node.value <;> cases o.inValues <;> rfl

theorem any_failsOn_scopesOf :
    (o.scopesOf node).any (fun entry => failsOn m entry.2) =
      ((o.inKeys && failsOn m node.path.label) ||
        (o.inValues && node.value.text?.any (failsOn m)) ||
        (o.inPaths && failsOn m node.path.rooted)) := by
  rw [scopesOf_eq]
  cases o.inKeys <;> cases o.inValues <;> cases o.inPaths <;> cases node.value.text? <;>
    simp [Bool.or_assoc]

/-- The hits of a node: one for each text that is found, in the order label, value, path. -/
theorem flatMap_scopesOf :
    (o.scopesOf node).flatMap (fun entry => scopeHit m entry.1 entry.2) =
      (if keyFound m o node then
        [⟨.key, node.path.label, outcomeOf m node.path.label⟩] else []) ++
        (if valueFound m o node then
          node.value.text?.toList.map fun s => ⟨.value, s, outcomeOf m s⟩ else []) ++
          (if pathFound m o node then
            [⟨.path, node.path.rooted, outcomeOf m node.path.rooted⟩] else []) := by
  rw [scopesOf_eq]
  unfold keyFound valueFound pathFound
  cases o.inKeys <;> cases o.inValues <;> cases o.inPaths <;> cases node.value.text? <;>
    simp [scopeHit]

theorem resultOf_scopes :
    resultOf o node ((o.scopesOf node).flatMap fun entry => scopeHit m entry.1 entry.2) =
      if keyFound m o node || valueFound m o node || pathFound m o node then
        some (report m o node)
      else none := by
  have keyScore : keyFound m o node = true →
      (outcomeOf m node.path.label).score = hitScore m := fun found =>
    score_of_matched m (Bool.and_eq_true_iff.mp found).2
  have pathScore : pathFound m o node = true →
      (outcomeOf m node.path.rooted).score = hitScore m := fun found =>
    score_of_matched m (Bool.and_eq_true_iff.mp found).2
  have valueText : valueFound m o node = true →
      ∃ s, node.value.text? = some s ∧ (outcomeOf m s).score = hitScore m := by
    intro found
    obtain ⟨s, text, matched⟩ := (Option.any_eq_true _ _).mp (Bool.and_eq_true_iff.mp found).2
    exact ⟨s, text, score_of_matched m matched⟩
  rw [flatMap_scopesOf]
  unfold resultOf report lastFound scopeCount
  cases value : valueFound m o node with
  | false =>
      cases key : keyFound m o node <;> cases path : pathFound m o node <;>
        simp_all [totalScore, Hits.ofScopes, scoreTimes]
  | true =>
      obtain ⟨s, text, valueScore⟩ := valueText value
      cases key : keyFound m o node <;> cases path : pathFound m o node <;>
        simp_all [totalScore, Hits.ofScopes, scoreTimes]

/-- Judging a node reports it exactly if it is a hit, unless the matcher breaks down on it. -/
theorem judge_eq :
    judge m o node =
      if breaksOn m o node then .error .crossedGroup
      else .ok (if isHit m o node then some (report m o node) else none) := by
  unfold judge breaksOn isHit scopeHits
  cases o.allows node.value.kind with
  | false => rfl
  | true =>
      simp only [if_true, Bool.true_and, hitsAmong_eq, any_failsOn_scopesOf]
      split
      · rfl
      · exact congrArg Except.ok resultOf_scopes

end Search

end JsonSeek
