import JsonSeek.Regex.Run

/-!
# Finding all matches

`Pattern.spans` lists the places where a pattern matches in a text, from left to right and without
overlap. A match may be empty and may begin where the last one ended, but after an empty match
another empty one at the same offset is refused.

A pattern that begins with a set is tried only in front of characters of that set. A match in which
some group was closed before it was opened is an error.
-/

namespace JsonSeek.Regex

/-- A group of a match ends before it begins. -/
inductive CrossedGroup
  | closedFirst
deriving DecidableEq

/-- A match: the offset of its start, the place of its end, and what was captured. -/
structure Found where
  start : Nat
  stop : Place
  bounds : Bounds

/-- The match of the pattern at a place, if there is one. With `nonempty`, a match that ends at its
start is refused and the next way to match is tried. -/
def Pattern.matchAt (pattern : Pattern) (nonempty : Bool) (place : Place) : Option Found :=
  let accept (s : State) : Attempt :=
    if nonempty && s.place.offset == place.offset then s.fail else finish s
  match runSequence pattern.nodes false none accept ⟨place, place, []⟩ with
  | .matched s => some ⟨place.offset, s.place, s.bounds⟩
  | .failed .. => none

/-- Whether the pattern is tried at a place. -/
def Pattern.isTriedAt (pattern : Pattern) (place : Place) : Bool :=
  pattern.first.all fun test => place.after.head?.any test.accepts

/-- The first match at a place or behind it, at most `fuel` places being tried. Only at the first
one is an empty match refused. -/
def Pattern.searchFrom (pattern : Pattern) : (fuel : Nat) → (nonempty : Bool) → Place → Option Found
  | 0, _, _ => none
  | fuel + 1, nonempty, place =>
    match if pattern.isTriedAt place then pattern.matchAt nonempty place else none with
    | some found => some found
    | none =>
      match place.next? with
      | none => none
      | some next => pattern.searchFrom fuel false next

/-- The first match at a place or behind it, which needs enough characters there. -/
def Pattern.search (pattern : Pattern) (nonempty : Bool) (place : Place) : Option Found :=
  if place.after.length < pattern.least then none
  else pattern.searchFrom (place.after.length + 1 - pattern.untried) nonempty place

/-- The matches at a place and behind it. Between two matches the place moves on, or an empty match
is refused, so that twice the rest of the text bounds their number. -/
def Pattern.spansFrom (pattern : Pattern) : (fuel : Nat) → (nonempty : Bool) → Place →
    Except CrossedGroup (List (Nat × Nat))
  | 0, _, _ => .ok []
  | fuel + 1, nonempty, place =>
    match pattern.search nonempty place with
    | none => .ok []
    | some found =>
      if found.bounds.areCrossed then .error .closedFirst
      else
        (pattern.spansFrom fuel (found.start == found.stop.offset) found.stop).map
          ((found.start, found.stop.offset) :: ·)

/-- The start and end offsets of all matches in a text. -/
def Pattern.spans (pattern : Pattern) (text : List Char) :
    Except CrossedGroup (List (Nat × Nat)) :=
  pattern.spansFrom (2 * text.length + 2) false (.start text)

-- Repeating an `a` in front of a `b`, in a text without a `b`: the possessive repetition has moved
-- over the `a` when the try fails, and an atomic group goes back.
example :
    let part : List Node :=
      [.char (.literal .exact false 'a'.toNat), .ahead false [.char (.literal .exact false 'b'.toNat)]]
    let spans (node : Node) := ((Pattern.ofNodes false [node] 0).spans ['a', 'a']).toOption
    spans (.repetition .possessive 0 none part) = some [(0, 1), (1, 2), (2, 2)] ∧
      spans (.atomic [.repetition .greedy 0 none part]) = some [(0, 0), (1, 1), (2, 2)] := by
  decide +kernel

end JsonSeek.Regex
