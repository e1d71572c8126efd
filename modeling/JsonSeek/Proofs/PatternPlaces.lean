import JsonSeek.Regex.Find

/-!
# Matches lie within the text

However a pattern moves through a text, by repetitions, looks behind and ways back, each place that
it comes to splits that text. So every match begins and ends within it (`spans_within`).
-/

namespace JsonSeek.Regex

variable {text : List Char}

/-! ## Places -/

/-- A place splits a text into the characters before it and those after it. -/
structure Place.IsIn (text : List Char) (p : Place) : Prop where
  splits : p.before.reverse ++ p.after = text
  counts : p.offset = p.before.length

namespace Place.IsIn

variable {p q : Place}

theorem offset_le (inside : p.IsIn text) : p.offset ≤ text.length := by
  rw [inside.counts, ← inside.splits, List.length_append, List.length_reverse]
  exact Nat.le_add_right _ _

theorem start (text : List Char) : (Place.start text).IsIn text := ⟨rfl, rfl⟩

theorem forward (inside : p.IsIn text) {c : Char} {rest : List Char} (next : p.after = c :: rest) :
    Place.IsIn text ⟨p.offset + 1, c :: p.before, rest⟩ where
  splits := by
    rw [← inside.splits, next, List.reverse_cons, List.append_assoc, List.singleton_append]
  counts := congrArg (· + 1) inside.counts

theorem backward (inside : p.IsIn text) {c : Char} {before : List Char}
    (last : p.before = c :: before) :
    Place.IsIn text ⟨p.offset - 1, before, c :: p.after⟩ where
  splits := by
    rw [← inside.splits, last, List.reverse_cons, List.append_assoc, List.singleton_append]
  counts := by
    rw [inside.counts, last, List.length_cons, Nat.add_sub_cancel]

theorem next? (inside : p.IsIn text) (moved : p.next? = some q) : q.IsIn text := by
  unfold Place.next? at moved
  split at moved
  · cases moved
  · rename_i c rest next
    cases moved
    exact inside.forward next

theorem step? (inside : p.IsIn text) {test : CharTest} (moved : p.step? test = some q) :
    q.IsIn text := by
  unfold Place.step? at moved
  split at moved
  · cases moved
  · rename_i c rest next
    split at moved
    · cases moved
      exact inside.forward next
    · cases moved

theorem back? {count : Nat} (inside : p.IsIn text) (moved : p.back? count = some q) :
    q.IsIn text := by
  induction count generalizing p with
  | zero =>
      cases moved
      exact inside
  | succ count ih =>
      unfold Place.back? at moved
      split at moved
      · cases moved
      · rename_i c before last
        exact ih (inside.backward last) moved

theorem skip? {folding : Folding} {skipped : List Char} (inside : p.IsIn text)
    (moved : p.skip? folding skipped = some q) : q.IsIn text := by
  induction skipped generalizing p with
  | nil =>
      cases moved
      exact inside
  | cons c rest ih =>
      unfold Place.skip? at moved
      split at moved
      · cases moved
      · rename_i d after next
        split at moved
        · exact ih (inside.forward next) moved
        · cases moved

theorem advances {test : CharTest} {fuel : Nat} {done : List Place}
    (before : ∀ q ∈ done, q.IsIn text) (inside : p.IsIn text) :
    ∀ q ∈ Regex.advances test fuel done p, q.IsIn text := by
  have reached : ∀ q ∈ p :: done, q.IsIn text := by
    simpa using ⟨inside, before⟩
  induction fuel generalizing done p with
  | zero => exact reached
  | succ fuel ih =>
      unfold Regex.advances
      split
      · exact reached
      · rename_i next moved
        have later := inside.step? moved
        exact ih reached later (by simpa using ⟨later, inside, before⟩)

end Place.IsIn

/-! ## States and attempts -/

/-- Both places of a state are places of a text. -/
structure State.IsIn (text : List Char) (s : State) : Prop where
  place : s.place.IsIn text
  reached : s.reached.IsIn text

/-- What an attempt leaves behind are places of a text. -/
def Attempt.IsIn (text : List Char) : Attempt → Prop
  | .matched s => s.IsIn text
  | .failed reached _ => reached.IsIn text

/-- A continuation that starts within a text never leaves it. -/
def Stays (text : List Char) (k : Continuation) : Prop := ∀ s, s.IsIn text → (k s).IsIn text

theorem State.IsIn.fail {s : State} (inside : s.IsIn text) : s.fail.IsIn text := inside.reached

theorem State.IsIn.settled {s : State} (inside : s.IsIn text) : s.settled.IsIn text :=
  ⟨inside.place, inside.place⟩

theorem State.isIn_afterTry {s : State} {reached : Place} (tried : reached.IsIn text) :
    (s.afterTry reached).IsIn text := ⟨tried, tried⟩

theorem Attempt.IsIn.orBackAt {a : Attempt} (inside : a.IsIn text) {p : Place}
    (behind : p.IsIn text) : (a.orBackAt p).IsIn text := by
  cases a with
  | matched t => exact inside
  | failed reached bounds => exact behind

theorem stays_finish : Stays text finish := fun _ inside => ⟨inside.place, inside.place⟩

/-! ## Repetitions -/

theorem stays_goOnFrom {looped : Bool} {next : Option CharTest} {k : Continuation}
    (stays : Stays text k) {places : List Place} (among : ∀ p ∈ places, p.IsIn text) :
    Stays text (goOnFrom looped next k places) := by
  intro s inside
  induction places generalizing s with
  | nil => exact inside.fail
  | cons p rest ih =>
      have later := fun q found => among q (List.mem_cons_of_mem p found)
      have place := among p List.mem_cons_self
      unfold goOnFrom
      split
      · have tried := stays { s with place := p, reached := p } ⟨place, place⟩
        split
        · rename_i t result
          exact result ▸ tried
        · rename_i reached bounds result
          rw [result] at tried
          exact ih later _ ⟨inside.place, tried⟩
      · exact ih later s inside

theorem stays_runCharRepetition {eagerness : Eagerness} {least : Nat} {most : Option Nat}
    {test : CharTest} {looped : Bool} {next : Option CharTest} {k : Continuation}
    (stays : Stays text k) :
    Stays text (runCharRepetition eagerness least most test looped next k) := by
  intro s inside
  have counted (steps : Nat) : ∀ p ∈ advances test steps [] s.place, p.IsIn text :=
    Place.IsIn.advances nofun inside.place
  have furthest (steps : Nat) : ((advances test steps [] s.place).headD s.place).IsIn text := by
    cases found : advances test steps [] s.place with
    | nil => exact inside.place
    | cons p rest => exact counted steps p (found ▸ List.mem_cons_self)
  have reached (steps : Nat) : (if test.isLowered then
      (advances test steps [] s.place).headD s.place else s.place).IsIn text := by
    split
    · exact furthest steps
    · exact inside.place
  unfold runCharRepetition
  simp only
  split
  · exact inside.fail
  · cases eagerness with
    | greedy =>
        simp only
        split
        · exact reached _
        · refine stays_goOnFrom stays (fun p found => ?_) _ ⟨inside.place, reached _⟩
          exact counted _ p (List.mem_of_mem_take found)
    | possessive =>
        simp only
        split
        · exact reached _
        · exact stays _ ⟨furthest _, reached _⟩
    | lazy =>
        simp only
        split
        · exact reached _
        · refine stays_goOnFrom stays (fun p found => ?_) _ ⟨inside.place, reached _⟩
          exact counted _ p (List.mem_of_mem_take (List.mem_reverse.mp found))

/-- The body of a repetition never leaves the text, whatever follows it. -/
def BodyStays (text : List Char) (body : Continuation → Continuation) : Prop :=
  ∀ k, Stays text k → Stays text (body k)

section Repetition

variable {body : Continuation → Continuation} {least : Nat} {most : Option Nat} {k : Continuation}
  (bodyStays : BodyStays text body) (stays : Stays text k)

include bodyStays stays

theorem stays_runGreedy (fuel count : Nat) (last : Option Nat) :
    Stays text (runGreedy body least most k fuel count last) := by
  induction fuel generalizing count last with
  | zero => exact fun s inside => inside.fail
  | succ fuel ih =>
      intro s inside
      have again (last : Option Nat) := bodyStays _ (ih (count + 1) last) _ inside.settled
      unfold runGreedy
      split
      · exact (again last).orBackAt inside.place
      · simp only
        split
        · rename_i t result
          split at result
          · exact result ▸ again _
          · cases result
        · exact (stays _ inside.settled).orBackAt inside.place

theorem stays_runLazy (looped : Bool) (fuel count : Nat) (last : Option Nat) :
    Stays text (runLazy body looped least most k fuel count last) := by
  induction fuel generalizing count last with
  | zero => exact fun s inside => inside.fail
  | succ fuel ih =>
      intro s inside
      have tried := stays _ inside.settled
      have again (last : Option Nat) (bounds : Bounds) :=
        bodyStays _ (ih (count + 1) last) { s.settled with bounds } ⟨inside.place, inside.place⟩
      unfold runLazy
      split
      · exact (again last s.bounds).orBackAt inside.place
      · split
        · rename_i t result
          exact result ▸ tried
        · simp only
          split
          · exact (again (some s.place.offset) _).orBackAt inside.place
          · exact inside.place

theorem stays_runPossessive {start : Place} (begins : start.IsIn text) (fuel count : Nat)
    (last : Option Nat) : Stays text (runPossessive body least most k start fuel count last) := by
  induction fuel generalizing count last with
  | zero => exact fun s inside => inside.fail
  | succ fuel ih =>
      intro s inside
      have once := bodyStays _ stays_finish _ inside
      unfold runPossessive
      split
      · split
        · rename_i t result
          rw [result] at once
          exact ih _ _ t once
        · exact begins
      · split
        · split
          · rename_i t result
            rw [result] at once
            exact ih _ _ t once
          · rename_i reached bounds result
            rw [result] at once
            exact stays _ (State.isIn_afterTry once)
        · exact stays _ inside

end Repetition

theorem stays_runRepetition {eagerness : Eagerness} {least : Nat} {most : Option Nat}
    {body : Bool → Continuation → Continuation} (bodyStays : ∀ looped, BodyStays text (body looped))
    {looped : Bool} {k : Continuation} (stays : Stays text k) :
    Stays text (runRepetition eagerness least most body looped k) := by
  intro s inside
  cases eagerness with
  | greedy => exact stays_runGreedy (bodyStays true) stays _ _ _ s inside
  | lazy => exact stays_runLazy (bodyStays true) stays _ _ _ _ s inside
  | possessive =>
      exact stays_runPossessive (bodyStays looped) stays inside.place _ _ _ _ inside.settled

/-! ## Nodes -/

mutual

/-- A node never leaves the text, whatever follows it. -/
theorem stays_run (node : Node) (looped : Bool) (next : Option CharTest) :
    BodyStays text (node.run looped next) := by
  intro k stays s inside
  cases node with
  | char test =>
      unfold Node.run
      split
      · rename_i place moved
        exact stays _ ⟨inside.place.step? moved, inside.reached⟩
      · exact inside.fail
  | anchor a =>
      unfold Node.run
      split
      · exact stays s inside
      · exact inside.fail
  | group number body =>
      cases number with
      | none => exact stays_runSequence body looped next k stays s inside
      | some number =>
          unfold Node.run
          refine stays_runSequence body looped none _ (fun t within => ?_) _ ⟨inside.1, inside.2⟩
          exact stays _ ⟨within.place, within.reached⟩
  | choice branches => exact stays_runBranches branches looped k stays s inside
  | backreference number folding width =>
      unfold Node.run
      split
      · exact inside.fail
      · split
        · rename_i place moved
          exact stays _ ⟨inside.place.skip? moved, inside.reached⟩
        · exact inside.fail
  | ahead negated body =>
      have tried := stays_runSequence body looped none finish stays_finish _ inside.settled
      unfold Node.run
      split
      · rename_i t result
        rw [result] at tried
        split
        · exact tried.fail
        · exact stays _ ⟨inside.place, tried.reached⟩
      · rename_i reached bounds result
        rw [result] at tried
        split
        · exact stays _ ⟨inside.place, tried⟩
        · exact tried
  | behind negated width body =>
      unfold Node.run
      split
      · split
        · exact stays s inside
        · exact inside.fail
      · rename_i place moved
        have before := inside.place.back? moved
        have tried := stays_runSequence body looped none finish stays_finish
          { s with place, reached := place } ⟨before, before⟩
        split
        · rename_i t result
          rw [result] at tried
          split
          · exact tried.fail
          · exact stays _ ⟨inside.place, tried.reached⟩
        · rename_i reached bounds result
          rw [result] at tried
          split
          · exact stays _ ⟨inside.place, tried⟩
          · exact tried
  | repetition eagerness least most body =>
      unfold Node.run
      split
      · exact stays_runCharRepetition stays s inside
      · exact stays_runRepetition (fun looped => stays_runSequence body looped none) stays s inside
  | atomic body =>
      have tried := stays_runSequence body looped none finish stays_finish _ inside.settled
      unfold Node.run
      split
      · rename_i t result
        rw [result] at tried
        exact stays t tried
      · exact inside.place
  | conditional number present absent =>
      unfold Node.run
      split
      · exact stays_runSequence present looped _ k stays s inside
      · exact stays_runSequence absent looped next k stays s inside

/-- A sequence of nodes never leaves the text, whatever follows it. -/
theorem stays_runSequence (nodes : List Node) (looped : Bool) (next : Option CharTest) :
    BodyStays text (runSequence nodes looped next) := by
  intro k stays s inside
  cases nodes with
  | nil => exact stays s inside
  | cons node rest =>
      exact stays_run node looped _ _ (stays_runSequence rest looped next k stays) s inside

/-- A choice never leaves the text, whatever follows it. -/
theorem stays_runBranches (branches : List (List Node)) (looped : Bool) :
    BodyStays text (runBranches branches looped) := by
  intro k stays s inside
  cases branches with
  | nil => exact inside.fail
  | cons branch rest =>
      unfold runBranches
      split
      · have tried := stays_runSequence branch looped none k stays _ inside.settled
        split
        · rename_i t result
          exact result ▸ tried
        · rename_i reached bounds result
          rw [result] at tried
          exact stays_runBranches rest looped k stays _ ⟨inside.place, tried⟩
      · exact stays_runBranches rest looped k stays s inside

end

/-! ## Matches -/

variable {pattern : Pattern} {place : Place} {found : Found}

theorem isIn_of_matchAt {nonempty : Bool} (inside : place.IsIn text)
    (matched : pattern.matchAt nonempty place = some found) :
    found.start = place.offset ∧ found.stop.IsIn text := by
  have accepted : Stays text fun s =>
      if nonempty && s.place.offset == place.offset then s.fail else finish s := by
    intro s inside
    dsimp only
    split
    · exact inside.fail
    · exact stays_finish s inside
  have ran := stays_runSequence pattern.nodes false none _ accepted ⟨place, place, []⟩
    ⟨inside, inside⟩
  unfold Pattern.matchAt at matched
  simp only at matched
  split at matched
  · rename_i s result
    rw [result] at ran
    cases matched
    exact ⟨rfl, ran.place⟩
  · cases matched

theorem exists_matchAt_of_searchFrom {fuel : Nat} {nonempty : Bool} (inside : place.IsIn text)
    (matched : pattern.searchFrom fuel nonempty place = some found) :
    ∃ nonempty place, place.IsIn text ∧ pattern.matchAt nonempty place = some found := by
  induction fuel generalizing nonempty place with
  | zero => cases matched
  | succ fuel ih =>
      unfold Pattern.searchFrom at matched
      split at matched
      · rename_i here result
        cases matched
        split at result
        · exact ⟨_, _, inside, result⟩
        · cases result
      · split at matched
        · cases matched
        · rename_i next moved
          exact ih (inside.next? moved) matched

theorem exists_matchAt_of_search {nonempty : Bool} (inside : place.IsIn text)
    (matched : pattern.search nonempty place = some found) :
    ∃ nonempty place, place.IsIn text ∧ pattern.matchAt nonempty place = some found := by
  unfold Pattern.search at matched
  split at matched
  · cases matched
  · exact exists_matchAt_of_searchFrom inside matched

theorem exists_matchAt_of_spansFrom {fuel : Nat} {nonempty : Bool} {spans : List (Nat × Nat)}
    (inside : place.IsIn text) (ran : pattern.spansFrom fuel nonempty place = .ok spans) :
    ∀ span ∈ spans, ∃ nonempty place found, place.IsIn text ∧
      pattern.matchAt nonempty place = some found ∧ span = (found.start, found.stop.offset) := by
  induction fuel generalizing nonempty place spans with
  | zero =>
      cases ran
      exact nofun
  | succ fuel ih =>
      unfold Pattern.spansFrom at ran
      split at ran
      · cases ran
        exact nofun
      · rename_i found searched
        obtain ⟨_, _, within, matched⟩ := exists_matchAt_of_search inside searched
        split at ran
        · cases ran
        · cases later : pattern.spansFrom fuel (found.start == found.stop.offset) found.stop with
          | error crossed =>
              rw [later] at ran
              cases ran
          | ok rest =>
              rw [later] at ran
              cases ran
              exact List.forall_mem_cons.mpr
                ⟨⟨_, _, found, within, matched, rfl⟩, ih (isIn_of_matchAt within matched).2 later⟩

/-- The spans that a pattern yields are those of matches at places of the text. -/
theorem exists_matchAt_of_spans {spans : List (Nat × Nat)} (ran : pattern.spans text = .ok spans) :
    ∀ span ∈ spans, ∃ nonempty place found, place.IsIn text ∧
      pattern.matchAt nonempty place = some found ∧ span = (found.start, found.stop.offset) :=
  exists_matchAt_of_spansFrom (.start text) ran

/-- All matches of a pattern in a text begin and end within it. -/
theorem spans_within {spans : List (Nat × Nat)} (ran : pattern.spans text = .ok spans) :
    ∀ span ∈ spans, span.1 ≤ text.length ∧ span.2 ≤ text.length := by
  intro span found
  obtain ⟨_, place, found, inside, matched, rfl⟩ := exists_matchAt_of_spans ran span found
  obtain ⟨starts, stops⟩ := isIn_of_matchAt inside matched
  exact ⟨starts ▸ inside.offset_le, stops.offset_le⟩

/-- A pattern of no nodes only matches where it stands. -/
theorem spans_of_no_nodes {spans : List (Nat × Nat)} (none : pattern.nodes = [])
    (ran : pattern.spans text = .ok spans) : ∀ span ∈ spans, span.1 = span.2 := by
  intro span found
  obtain ⟨_, place, found, inside, matched, rfl⟩ := exists_matchAt_of_spans ran span found
  simp only [Pattern.matchAt, none, runSequence] at matched
  split at matched
  · rename_i s result
    split at result
    · cases result
    · cases result
      cases matched
      rfl
  · cases matched

end JsonSeek.Regex
