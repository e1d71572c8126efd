import JsonSeek.Regex.Pattern

/-!
# Running patterns

A node is run at a place of a text with a continuation that stands for the rest of the pattern. The
first way to match that the continuation accepts is the result, so that alternatives are tried in
order and a later failure comes back to the next one.

What has been captured is a list of bounds, two for each group. When an alternative fails, bounds of
groups that were unknown before are forgotten. Those that were known before are put back within a
repetition; elsewhere they stay as the failed alternative left them.

A repetition beyond its least number is tried only if the place differs from the one where the last
such try began. So an empty repetition ends the loop, and the rest of the text bounds it. A
possessive repetition goes on from the place that its last try had reached, even if that try failed;
the state remembers this place. Engines differ in this. Newer ones go on from the place in front of
the failed try, as a repetition in an atomic group does everywhere.
-/

namespace JsonSeek.Regex

/-- A place in a text: the characters before it, reversed, those after it, and its offset. -/
structure Place where
  offset : Nat
  before : List Char
  after : List Char

/-- The offsets where groups were opened and closed: two entries for each group, the opening first.
The list ends with the last entry that is known. -/
abbrev Bounds := List (Option Nat)

/-- A place with what has been captured on the way. The reached place is the one where an
alternative was tried or a part came to its end most recently. -/
structure State where
  place : Place
  reached : Place
  bounds : Bounds

/-- How running ends: with a match, or with what the last failure leaves behind. -/
inductive Attempt
  | matched (s : State)
  | failed (reached : Place) (bounds : Bounds)

/-- What follows in the pattern. -/
abbrev Continuation := State → Attempt

/-! ## Places -/

/-- The start of a text. -/
def Place.start (text : List Char) : Place := ⟨0, [], text⟩

/-- The next place, behind one more character. -/
def Place.next? (p : Place) : Option Place :=
  match p.after with
  | [] => none
  | c :: rest => some ⟨p.offset + 1, c :: p.before, rest⟩

/-- The place a number of characters earlier. -/
def Place.back? (p : Place) : (count : Nat) → Option Place
  | 0 => some p
  | count + 1 =>
    match p.before with
    | [] => none
    | c :: before => Place.back? ⟨p.offset - 1, before, c :: p.after⟩ count

/-- The next place, if a character that passes the test stands before it. -/
def Place.step? (p : Place) (test : CharTest) : Option Place :=
  match p.after with
  | [] => none
  | c :: rest => if test.accepts c then some ⟨p.offset + 1, c :: p.before, rest⟩ else none

/-- The characters between two offsets. -/
def Place.between (p : Place) (first last : Nat) : List Char :=
  let fromFirst := (p.before.take (p.offset - first)).reverse ++ p.after.drop (first - p.offset)
  fromFirst.take (last - first)

/-- Moves over a text that is equal under a folding. -/
def Place.skip? (folding : Folding) : List Char → Place → Option Place
  | [], p => some p
  | c :: rest, p =>
    match p.after with
    | [] => none
    | d :: after =>
      if folding.lower c.toNat = folding.lower d.toNat then
        Place.skip? folding rest ⟨p.offset + 1, d :: p.before, after⟩
      else none

/-- Whether the character at an edge belongs to a word. -/
def edgeInWord (asciiOnly : Bool) : List Char → Bool
  | [] => false
  | c :: _ => CharClass.word.holds asciiOnly c.toNat

/-- Whether an anchor holds at a place. An empty text has no word edges, and no places that are none
either. -/
def Anchor.holds (a : Anchor) (p : Place) : Bool :=
  match a with
  | lineStart everyLine => p.before.isEmpty || (everyLine && p.before.head? == some '\n')
  | lineEnd everyLine =>
    p.after.isEmpty || p.after == ['\n'] || (everyLine && p.after.head? == some '\n')
  | textStart => p.before.isEmpty
  | textEnd => p.after.isEmpty
  | wordEdge asciiOnly negated =>
    !(p.before.isEmpty && p.after.isEmpty) &&
      ((edgeInWord asciiOnly p.before != edgeInWord asciiOnly p.after) != negated)

/-! ## Bounds -/

/-- Sets an entry. Entries that it skips are unknown. -/
def Bounds.put (b : Bounds) (i offset : Nat) : Bounds :=
  if i < b.length then b.set i (some offset)
  else b ++ List.replicate (i - b.length) none ++ [some offset]

/-- The entry for the opening of a group. -/
def openingOf (group : Nat) : Nat := 2 * (group - 1)

/-- The offsets of a group that has been captured. -/
def Bounds.captured? (b : Bounds) (group : Nat) : Option (Nat × Nat) :=
  match b[openingOf group]?, b[openingOf group + 1]? with
  | some (some first), some (some last) => if first ≤ last then some (first, last) else none
  | _, _ => none

/-- Whether some group was closed before it was opened. -/
def Bounds.areCrossed : Bounds → Bool
  | some first :: some last :: rest => last < first || Bounds.areCrossed rest
  | _ :: _ :: rest => Bounds.areCrossed rest
  | _ => false

/-- The bounds after an alternative has failed, from those before it and those that it leaves. -/
def Bounds.revert (looped : Bool) (before left : Bounds) : Bounds :=
  if looped then before else left.take before.length

/-! ## Parts that are run by themselves -/

/-- Accepts every state and notes its place as reached. -/
def finish : Continuation := fun s => .matched { s with reached := s.place }

/-- The state at its own place, which is noted as reached. -/
def State.settled (s : State) : State := { s with reached := s.place }

/-- The failure that a state has come to. -/
def State.fail (s : State) : Attempt := .failed s.reached s.bounds

/-! ## Repetitions of single characters -/

/-- The places behind zero, one, two … characters that pass a test, at most `fuel` of them, put in
front of `done` so that the furthest comes first. -/
def advances (test : CharTest) : (fuel : Nat) → (done : List Place) → Place → List Place
  | 0, done, p => p :: done
  | fuel + 1, done, p =>
    match p.step? test with
    | none => p :: done
    | some q => advances test fuel (p :: done) q

/-- Goes on from each of several places until that succeeds. Places where the next character cannot
match are passed over. -/
def goOnFrom (looped : Bool) (next : Option CharTest) (k : Continuation) : List Place → Continuation
  | [], s => s.fail
  | p :: rest, s =>
    if next.all (·.allowsLiteral p.after.head?) then
      match k { s with place := p, reached := p } with
      | .matched t => .matched t
      | .failed reached bounds =>
        goOnFrom looped next k rest { s with reached, bounds := s.bounds.revert looped bounds }
    else goOnFrom looped next k rest s

/-- The repetition of a test on one character: the places after an allowed number of steps are tried
from the furthest, from the nearest, or the furthest alone. A test that is made by lower case notes
every place as reached. -/
def runCharRepetition (eagerness : Eagerness) (least : Nat) (most : Option Nat) (test : CharTest)
    (looped : Bool) (next : Option CharTest) (k : Continuation) (s : State) : Attempt :=
  let length := s.place.after.length
  if length < least then s.fail
  else
    let bound := min (most.getD length) length
    let steps := match eagerness with
      | .lazy => least
      | .greedy | .possessive => bound
    let reachedBy (steps : Nat) : List Place := advances test steps [] s.place
    let counted := reachedBy steps
    let reached := if test.isLowered then counted.headD s.place else s.place
    if counted.length ≤ least then .failed reached s.bounds
    else
      match eagerness with
      | .greedy => goOnFrom looped next k (counted.take (counted.length - least)) { s with reached }
      | .possessive => k { s with place := counted.headD s.place, reached }
      | .lazy =>
        let all := reachedBy bound
        goOnFrom looped none k (all.take (all.length - least)).reverse { s with reached }

/-! ## Repetitions of parts of any kind -/

/-- Whether one more repetition may be tried after `count` of them. `last` is the offset where the
last try beyond the least number began. -/
def mayRepeat (most : Option Nat) (count : Nat) (last : Option Nat) (p : Place) : Bool :=
  most.all (count < ·) && last != some p.offset

/-- The attempt, or a failure with the given place as reached. -/
def Attempt.orBackAt (a : Attempt) (p : Place) : Attempt :=
  match a with
  | .matched t => .matched t
  | .failed _ bounds => .failed p bounds

/-- A repetition that tries one more before it goes on. -/
def runGreedy (body : Continuation → Continuation) (least : Nat) (most : Option Nat)
    (k : Continuation) : (fuel count : Nat) → (last : Option Nat) → Continuation
  | 0, _, _, s => s.fail
  | fuel + 1, count, last, s =>
    if count < least then
      (body (runGreedy body least most k fuel (count + 1) last) s.settled).orBackAt s.place
    else
      let more := if mayRepeat most count last s.place then
        body (runGreedy body least most k fuel (count + 1) (some s.place.offset)) s.settled
      else s.fail
      match more with
      | .matched t => .matched t
      | .failed .. => (k s.settled).orBackAt s.place

/-- A repetition that goes on before it tries one more. -/
def runLazy (body : Continuation → Continuation) (looped : Bool) (least : Nat) (most : Option Nat)
    (k : Continuation) : (fuel count : Nat) → (last : Option Nat) → Continuation
  | 0, _, _, s => s.fail
  | fuel + 1, count, last, s =>
    if count < least then
      (body (runLazy body looped least most k fuel (count + 1) last) s.settled).orBackAt s.place
    else
      match k s.settled with
      | .matched t => .matched t
      | .failed _ bounds =>
        let s := { s.settled with bounds := s.bounds.revert looped bounds }
        if mayRepeat most count last s.place then
          (body (runLazy body looped least most k fuel (count + 1) (some s.place.offset))
            s).orBackAt s.place
        else s.fail

/-- The state from which a possessive repetition goes on after a failed try: the place that the try
reached, with what had been captured before it. Engines that go back keep the place from before the
try as well. -/
def State.afterTry (s : State) (reached : Place) : State := { s with place := reached, reached }

/-- A repetition that never comes back to what it has taken. -/
def runPossessive (body : Continuation → Continuation) (least : Nat) (most : Option Nat)
    (k : Continuation) (start : Place) : (fuel count : Nat) → (last : Option Nat) → Continuation
  | 0, _, _, s => s.fail
  | fuel + 1, count, last, s =>
    if count < least then
      match body finish s with
      | .matched t => runPossessive body least most k start fuel (count + 1) last t
      | .failed _ bounds => .failed start bounds
    else if mayRepeat most count last s.place then
      match body finish s with
      | .matched t =>
        runPossessive body least most k start fuel (count + 1) (some s.place.offset) t
      | .failed reached _ => k (s.afterTry reached)
    else k s

/-- The repetition of a part of any kind. -/
def runRepetition (eagerness : Eagerness) (least : Nat) (most : Option Nat)
    (body : (looped : Bool) → Continuation → Continuation) (looped : Bool) (k : Continuation)
    (s : State) : Attempt :=
  let fuel := least + s.place.after.length + 2
  match eagerness with
  | .greedy => runGreedy (body true) least most k fuel 0 none s
  | .lazy => runLazy (body true) looped least most k fuel 0 none s
  | .possessive => runPossessive (body looped) least most k s.place fuel 0 none s.settled

/-! ## Nodes -/

mutual

/-- Runs a node. It is known whether the node stands in a repetition, and which test follows it, if
one does. -/
def Node.run : Node → (looped : Bool) → (next : Option CharTest) → Continuation → Continuation
  | .char test, _, _, k, s =>
    match s.place.step? test with
    | some place => k { s with place }
    | none => s.fail
  | .anchor a, _, _, k, s => if a.holds s.place then k s else s.fail
  | .group none body, looped, next, k, s => runSequence body looped next k s
  | .group (some number) body, looped, _, k, s =>
    let close (t : State) : State :=
      { t with bounds := t.bounds.put (openingOf number + 1) t.place.offset }
    runSequence body looped none (fun t => k (close t))
      { s with bounds := s.bounds.put (openingOf number) s.place.offset }
  | .choice branches, looped, _, k, s => runBranches branches looped k s
  | .backreference number folding _, _, _, k, s =>
    match s.bounds.captured? number with
    | none => s.fail
    | some (first, last) =>
      match s.place.skip? folding (s.place.between first last) with
      | some place => k { s with place }
      | none => s.fail
  | .ahead negated body, looped, _, k, s =>
    match runSequence body looped none finish s.settled with
    | .matched t => if negated then t.fail else k { t with place := s.place }
    | .failed reached bounds =>
      if negated then k { s with reached, bounds := s.bounds.revert looped bounds }
      else .failed reached bounds
  | .behind negated width body, looped, _, k, s =>
    match s.place.back? width.least with
    | none => if negated then k s else s.fail
    | some place =>
      match runSequence body looped none finish { s with place, reached := place } with
      | .matched t => if negated then t.fail else k { t with place := s.place }
      | .failed reached bounds =>
        if negated then k { s with reached, bounds := s.bounds.revert looped bounds }
        else .failed reached bounds
  | .repetition eagerness least most body, looped, next, k, s =>
    match singleTest? body with
    | some test => runCharRepetition eagerness least most test looped next k s
    | none =>
      runRepetition eagerness least most (fun looped => runSequence body looped none) looped k s
  | .atomic body, looped, _, k, s =>
    match runSequence body looped none finish s.settled with
    | .matched t => k t
    | .failed _ bounds => .failed s.place bounds
  | .conditional number present absent, looped, next, k, s =>
    if (s.bounds.captured? number).isSome then
      runSequence present looped (if absent.isEmpty then next else none) k s
    else runSequence absent looped next k s

/-- Runs the nodes of a sequence one after the other. -/
def runSequence : List Node → (looped : Bool) → (next : Option CharTest) → Continuation →
    Continuation
  | [], _, _, k, s => k s
  | node :: rest, looped, next, k, s =>
    node.run looped (headTest? rest next) (runSequence rest looped next k) s

/-- Runs the branches of a choice until one succeeds. A branch whose first character cannot match is
passed over. -/
def runBranches : List (List Node) → (looped : Bool) → Continuation → Continuation
  | [], _, _, s => s.fail
  | branch :: rest, looped, k, s =>
    if (headTest? branch none).all (·.allows s.place.after.head?) then
      match runSequence branch looped none k s.settled with
      | .matched t => .matched t
      | .failed reached bounds =>
        runBranches rest looped k { s with reached, bounds := s.bounds.revert looped bounds }
    else runBranches rest looped k s

end

end JsonSeek.Regex
