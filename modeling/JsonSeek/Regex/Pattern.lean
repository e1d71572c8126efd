import JsonSeek.Regex.CharTest

/-!
# Patterns

A pattern is a sequence of nodes. Capturing groups are numbered from one; a part that has matched is
remembered by the two positions where its group was opened and closed.
-/

namespace JsonSeek.Regex

/-- Conditions on a position. -/
inductive Anchor
  | lineStart (everyLine : Bool)
  | lineEnd (everyLine : Bool)
  | textStart
  | textEnd
  | wordEdge (asciiOnly negated : Bool)
deriving DecidableEq

/-- How many characters a part can match, at least and at most. -/
structure Width where
  least : Nat
  most : Nat
deriving DecidableEq

/-- Which numbers of repetitions are tried first, and whether others are tried at all. -/
inductive Eagerness
  | greedy
  | lazy
  | possessive
deriving DecidableEq

/-- A part of a pattern. -/
inductive Node
  | char (test : CharTest)
  | anchor (a : Anchor)
  | group (number : Option Nat) (body : List Node)
  | choice (branches : List (List Node))
  | backreference (number : Nat) (folding : Folding) (width : Width)
  | ahead (negated : Bool) (body : List Node)
  | behind (negated : Bool) (width : Width) (body : List Node)
  | repetition (eagerness : Eagerness) (least : Nat) (most : Option Nat) (body : List Node)
  | atomic (body : List Node)
  | conditional (number : Nat) (present absent : List Node)

/-- The bound on widths. -/
def Width.bound : Nat := Nat.pow 2 64

/-- The greatest width that a look behind can have. -/
def Width.lookBound : Nat := Nat.pow 2 32 - 1

def Width.zero : Width := ⟨0, 0⟩

def Width.one : Width := ⟨1, 1⟩

def Width.capped (w : Width) : Width := ⟨min w.least bound, min w.most bound⟩

/-- The width of two parts, one behind the other. -/
def Width.append (v w : Width) : Width := ⟨v.least + w.least, v.most + w.most⟩

/-- The width of a part that may be either of two. -/
def Width.either (v w : Width) : Width := ⟨min v.least w.least, max v.most w.most⟩

/-- The width of a repeated part. -/
def Width.repeated (w : Width) (least : Nat) (most : Option Nat) : Width :=
  ⟨w.least * least, match most with
    | some most => w.most * most
    | none => if w.most = 0 then 0 else bound⟩

mutual

/-- The width of a node. -/
def Node.width : Node → Width
  | .char _ => .one
  | .anchor _ | .ahead .. | .behind .. => .zero
  | .group _ body | .atomic body => (sequenceWidth body).capped
  | .choice branches => branchesWidth branches
  | .backreference _ _ width => width
  | .repetition _ least most body => (sequenceWidth body).capped.repeated least most
  | .conditional _ present absent =>
    (sequenceWidth present).capped.either (sequenceWidth absent).capped

/-- The width of a sequence of nodes. -/
def sequenceWidth : List Node → Width
  | [] => .zero
  | node :: rest => node.width.append (sequenceWidth rest)

/-- The width of a choice. -/
def branchesWidth : List (List Node) → Width
  | [] => .zero
  | [branch] => (sequenceWidth branch).capped
  | branch :: rest => (sequenceWidth branch).capped.either (branchesWidth rest)

end

mutual

/-- Whether every look behind in a node has one possible width. -/
def Node.isFixed : Node → Bool
  | .char _ | .anchor _ | .backreference .. => true
  | .group _ body | .atomic body | .ahead _ body | .repetition _ _ _ body => sequenceIsFixed body
  | .behind _ width body =>
    width.least == width.most && width.least ≤ Width.lookBound && sequenceIsFixed body
  | .choice branches => branchesAreFixed branches
  | .conditional _ present absent => sequenceIsFixed present && sequenceIsFixed absent

/-- Whether every look behind in a sequence has one possible width. -/
def sequenceIsFixed : List Node → Bool
  | [] => true
  | node :: rest => node.isFixed && sequenceIsFixed rest

/-- Whether every look behind in the branches has one possible width. -/
def branchesAreFixed : List (List Node) → Bool
  | [] => true
  | branch :: rest => sequenceIsFixed branch && branchesAreFixed rest

end

mutual

/-- Whether a node repeats anything. -/
def Node.repeats : Node → Bool
  | .char _ | .anchor _ | .backreference .. => false
  | .group _ body | .atomic body | .ahead _ body | .behind _ _ body => sequenceRepeats body
  | .repetition .. => true
  | .choice branches => branchesRepeat branches
  | .conditional _ present absent => sequenceRepeats present || sequenceRepeats absent

/-- Whether a sequence repeats anything. -/
def sequenceRepeats : List Node → Bool
  | [] => false
  | node :: rest => node.repeats || sequenceRepeats rest

/-- Whether one of the branches repeats anything. -/
def branchesRepeat : List (List Node) → Bool
  | [] => false
  | branch :: rest => sequenceRepeats branch || branchesRepeat rest

end

/-! ## Beginnings -/

mutual

/-- The test of a node that is a single character. -/
def Node.singleTest? : Node → Option CharTest
  | .char test => some test
  | .group none body => singleTest? body
  | _ => none

/-- The test of a sequence that is a single character. -/
def singleTest? : List Node → Option CharTest
  | [node] => node.singleTest?
  | _ => none

end

mutual

/-- The test that a node begins with, if it does. The test behind it is given. -/
def Node.headTest? : Node → (next : Option CharTest) → Option CharTest
  | .char test, _ => some test
  | .group none body, next => headTest? body next
  | _, _ => none

/-- The test that a sequence begins with, if it does. The test behind it is given. -/
def headTest? : List Node → (next : Option CharTest) → Option CharTest
  | [], next => next
  | node :: rest, next => node.headTest? (headTest? rest next)

end

mutual

/-- The test that every match of a node begins with, if the node shows one. -/
def Node.leadingTest? : Node → Option CharTest
  | .char test => some test
  | .group _ body => leadingTest? body
  | _ => none

/-- The test that every match of a sequence begins with, if the sequence shows one. -/
def leadingTest? : List Node → Option CharTest
  | [] => none
  | node :: _ => node.leadingTest?

end

mutual

/-- Whether a node begins with a literal that is compared as it stands. It is given whether what
follows does. -/
def Node.beginsWithLiteral : Node → (next : Bool) → Bool
  | .char (.literal folding false n), _ => !folding.hasCase n
  | .group _ body, next => beginsWithLiteral body next
  | _, _ => false

/-- Whether a sequence begins with a literal that is compared as it stands. It is given whether what
follows does. -/
def beginsWithLiteral : List Node → (next : Bool) → Bool
  | [], next => next
  | node :: rest, next => node.beginsWithLiteral (beginsWithLiteral rest next)

end

/-- A compiled pattern. -/
structure Pattern where
  nodes : List Node
  /-- The number of capturing groups. -/
  groups : Nat
  /-- A set to which the first character of a match belongs, if the pattern begins with one. -/
  first : Option CharTest
  /-- The least number of characters that the parts of the pattern match. -/
  least : Nat
  /-- How many characters a search leaves untried at the end of a text. -/
  untried : Nat

/-- The pattern of nodes that were read, with the way in which it reads classes as a whole. -/
def Pattern.ofNodes (asciiOnly : Bool) (nodes : List Node) (groups : Nat) : Pattern :=
  let first := (leadingTest? nodes).bind (·.searchSet? asciiOnly)
  let least := (sequenceWidth nodes).least
  { nodes, groups, first, least
    untried := if first.isSome || beginsWithLiteral nodes false then 0 else least - 1 }

end JsonSeek.Regex
