import JsonSeek.Regex.Lexeme
import JsonSeek.Regex.Pattern
import JsonSeek.Text.Identifier
import JsonSeek.Text.Numeral

/-!
# Reading patterns

`Pattern.read` turns a text into a pattern. Flags in force are a `Scope`, passed down to the parts
of a group. What a part needs to know of the parts before it is the `Progress`: which groups there
are, which of them are closed and how wide they are.

Flags for the whole pattern can only stand at its start and are read first. Groups that neither
capture nor change flags are dissolved into the sequence that holds them. Branches of a choice
share their equal heads, and a choice between single characters is a set.
-/

namespace JsonSeek.Regex

/-- The flags in force. -/
structure Scope where
  ignoreCase : Bool
  everyLine : Bool
  dotAll : Bool
  verbose : Bool
  asciiOnly : Bool

/-- How literals treat case. -/
def Scope.folding (scope : Scope) : Folding :=
  if scope.ignoreCase then (if scope.asciiOnly then .ascii else .unicode) else .exact

/-- Switches flags on and off by their letters. -/
def Scope.change (scope : Scope) (added removed : List Char) : Scope :=
  let set (letter : Char) (now : Bool) : Bool :=
    (now || added.contains letter) && !removed.contains letter
  { ignoreCase := set 'i' scope.ignoreCase
    everyLine := set 'm' scope.everyLine
    dotAll := set 's' scope.dotAll
    verbose := set 'x' scope.verbose
    asciiOnly := added.contains 'a' || (scope.asciiOnly && !added.contains 'u') }

/-- What has been read so far, and the rest. `widths` has an entry for every group that was opened,
empty while it is open. `behindFrom` is the first group inside the outermost look behind. -/
structure Progress where
  rest : List Lexeme
  widths : List (Option Width)
  names : List (List Char × Nat)
  behindFrom : Option Nat
  conditions : List Nat

/-- The outcome of reading a part. -/
abbrev Reading (α : Type) := Except Fault (α × Progress)

/-- The width of a closed group that a reference may name at this point. -/
def Progress.groupWidth? (p : Progress) (number : Nat) : Option Width :=
  match p.widths[number - 1]? with
  | some (some width) =>
    match p.behindFrom with
    | some first => if first ≤ number then none else some width
    | none => some width
  | _ => none

/-- Opens a group. -/
def Progress.openGroup (p : Progress) (name : Option (List Char)) : Option Progress :=
  let opened := { p with widths := p.widths ++ [none] }
  match name with
  | none => some opened
  | some name =>
    if (p.names.lookup name).isSome then none
    else some { opened with names := p.names ++ [(name, p.widths.length + 1)] }

/-- Closes a group. -/
def Progress.closeGroup (p : Progress) (number : Nat) (width : Width) : Progress :=
  { p with widths := p.widths.set (number - 1) (some width) }

/-! ## Flags -/

/-- Whether a letter is a flag. -/
def isFlag (c : Char) : Bool := ['i', 'L', 'm', 's', 'x', 'a', 't', 'u'].contains c

/-- Whether a letter is a flag that can be switched off. -/
def isRemovable (c : Char) : Bool := ['i', 'm', 's', 'x'].contains c

/-- Flags for the whole pattern, or for the group that follows. -/
inductive Flags
  | everywhere (added : List Char)
  | inside (added removed : List Char)

/-- The flags that are switched off, up to the colon. -/
def readRemoved (added : List Char) (removed : List Char) : List Lexeme →
    Except Fault (Flags × List Lexeme)
  | .plain c :: rest =>
    if c = ':' then
      if removed.isEmpty || removed.any added.contains then .error .malformed
      else .ok (.inside added removed, rest)
    else if isRemovable c then readRemoved added (c :: removed) rest
    else .error .malformed
  | _ => .error .malformed

/-- The flags behind a question mark. Only one way to read classes can be chosen. -/
def readFlags (added : List Char) : List Lexeme → Except Fault (Flags × List Lexeme)
  | .plain c :: rest =>
    if c = ')' && !added.isEmpty then .ok (.everywhere added, rest)
    else if c = ':' && !added.isEmpty then
      if added.contains 't' then .error .malformed else .ok (.inside added [], rest)
    else if c = '-' then
      if added.contains 't' then .error .malformed else readRemoved added [] rest
    else if isFlag c && c != 'L' && !(c == 'a' && added.contains 'u') &&
        !(c == 'u' && added.contains 'a') then readFlags (c :: added) rest
    else .error .malformed
  | _ => .error .malformed

/-! ## Blanks and comments -/

/-- The lexemes behind the next plain character of the given kind, which may be missing. A dangling
backslash is kept. -/
def dropThrough (last : Char) : List Lexeme → List Lexeme
  | [] => []
  | .dangling :: rest => .dangling :: rest
  | lexeme :: rest => if lexeme = .plain last then rest else dropThrough last rest

/-- The lexemes behind a verbose blank or comment, if there is one in front. -/
def skipVerbose? : List Lexeme → Option (List Lexeme)
  | .plain c :: rest =>
    if Text.isPlainBlank c then some rest
    else if c = '#' then some (dropThrough '\n' rest)
    else none
  | _ => none

/-- The lexemes behind a comment group, if there is one in front; it must be closed. -/
def skipComment? : List Lexeme → Option (Except Fault (List Lexeme))
  | .plain '(' :: .plain '?' :: .plain '#' :: rest =>
    some (if rest.contains (.plain ')') then .ok (dropThrough ')' rest) else .error .malformed)
  | _ => none

/-- The flags for the whole pattern at its start, and the lexemes behind them. -/
def readStart (scope : Scope) : (fuel : Nat) → (letters : List Char) → List Lexeme →
    Except Fault (List Char × List Lexeme)
  | 0, letters, lexemes => .ok (letters, lexemes)
  | fuel + 1, letters, lexemes =>
    match if (scope.change letters []).verbose then skipVerbose? lexemes else none with
    | some rest => readStart scope fuel letters rest
    | none =>
      match skipComment? lexemes with
      | some (.error fault) => .error fault
      | some (.ok rest) => readStart scope fuel letters rest
      | none =>
        match lexemes with
        | .plain '(' :: .plain '?' :: .plain c :: rest =>
          if isFlag c then
            match readFlags [] (.plain c :: rest) with
            | .error fault => .error fault
            | .ok (.everywhere added, rest) => readStart scope fuel (letters ++ added) rest
            | .ok (.inside .., _) => .ok (letters, lexemes)
          else .ok (letters, lexemes)
        | _ => .ok (letters, lexemes)

/-! ## Escapes and repetitions -/

/-- A reference to a group by number, or an octal escape: three octal digits are an escape. -/
def readNumbered (scope : Scope) (c : Char) (p : Progress) : Reading Node :=
  let (second, rest) := takePlain Char.isDigit 1 p.rest
  let (third, restOctal) :=
    if (c :: second).all isOctalDigit && !second.isEmpty then takePlain isOctalDigit 1 rest
    else ([], rest)
  if third.isEmpty then
    let number := numberIn 10 (c :: second)
    match p.groupWidth? number with
    | some width => .ok (.backreference number scope.folding width, { p with rest })
    | none => .error .malformed
  else
    let n := numberIn 8 (c :: (second ++ third))
    if 0o377 < n then .error .malformed
    else .ok (.char (.literal scope.folding false n), { p with rest := restOctal })

/-- The node that an escape outside of sets means. -/
def readEscape (scope : Scope) (c : Char) (p : Progress) : Reading Node :=
  let literal (n : Nat) : Node := .char (.literal scope.folding false n)
  match classEscape? c with
  | some (negated, kind) =>
    .ok (.char (.ofSet scope.folding false [.named negated scope.asciiOnly kind]), p)
  | none =>
    match c with
    | 'A' => .ok (.anchor .textStart, p)
    | 'Z' => .ok (.anchor .textEnd, p)
    | 'b' => .ok (.anchor (.wordEdge scope.asciiOnly false), p)
    | 'B' => .ok (.anchor (.wordEdge scope.asciiOnly true), p)
    | '0' =>
      let (digits, rest) := takePlain isOctalDigit 2 p.rest
      .ok (literal (numberIn 8 digits), { p with rest })
    | _ =>
      if c.isDigit then readNumbered scope c p
      else
        match readLiteralEscape c p.rest with
        | .error fault => .error fault
        | .ok (n, rest) => .ok (literal n, { p with rest })

/-- The least number of repetitions that is refused for its size. -/
def repetitionBound : Nat := Nat.pow 2 32 - 1

/-- The bounds of a repetition in braces, behind the opening brace, and the lexemes behind it. A
brace that opens no such bounds is a literal. -/
def readBounds (lexemes : List Lexeme) :
    Option (Except Fault ((Nat × Option Nat) × List Lexeme)) :=
  match lexemes with
  | .plain '\x7d' :: _ => none
  | _ =>
    let (low, rest) := takePlain Char.isDigit lexemes.length lexemes
    let (high, rest) := match rest with
      | .plain ',' :: rest => takePlain Char.isDigit rest.length rest
      | _ => (low, rest)
    match rest with
    | .plain '\x7d' :: rest =>
      let least := numberIn 10 low
      let most := if high.isEmpty then none else some (numberIn 10 high)
      some <|
        if repetitionBound ≤ least || repetitionBound ≤ most.getD 0 then
          if rest = [.dangling] then .error .malformed else .error .repetitionTooLarge
        else if most.any (· < least) then .error .malformed
        else .ok ((least, most), rest)
    | _ => none

/-- The bounds of the repetition at the front of the lexemes, if there is one. -/
def readRepetition : List Lexeme → Option (Except Fault ((Nat × Option Nat) × List Lexeme))
  | .plain '?' :: rest => some (.ok ((0, some 1), rest))
  | .plain '*' :: rest => some (.ok ((0, none), rest))
  | .plain '+' :: rest => some (.ok ((1, none), rest))
  | .plain '\x7b' :: rest => readBounds rest
  | _ => none

/-- How eager a repetition is, by the mark behind it. -/
def readEagerness : List Lexeme → Eagerness × List Lexeme
  | .plain '?' :: rest => (.lazy, rest)
  | .plain '+' :: rest => (.possessive, rest)
  | rest => (.greedy, rest)

/-! ## Sequences -/

/-- A part of a sequence that is being read: a node, or a group to be dissolved. -/
inductive Piece
  | node (n : Node)
  | bare (body : List Node)

/-- The nodes of a piece. -/
def Piece.nodes : Piece → List Node
  | node n => [n]
  | bare body => body

/-- The nodes that a repetition behind a piece repeats. Anchors and repetitions cannot be
repeated. -/
def Piece.repeatable? : Piece → Option (List Node)
  | node (.anchor _) | node (.repetition ..) => none
  | node n => some [n]
  | bare body => some body

/-- The nodes of a sequence, from its pieces in reverse. -/
def assemble (done : List Piece) : List Node := done.reverse.flatMap Piece.nodes

/-- The members of a set that accepts the same characters as a node. -/
def Node.setItems? : Node → Option (List SetItem)
  | .char (.literal _ false n) => some [.literal n]
  | .char (.set _ _ false items) => some items
  | _ => none

/-- Whether two nodes are equal and hold no other nodes. -/
def Node.sameLeaf : Node → Node → Bool
  | .char s, .char t => s == t
  | .anchor a, .anchor b => a == b
  | .backreference m f _, .backreference n g _ => m == n && f == g
  | _, _ => false

/-- The head that all branches share, and the branches behind it. -/
def sharedHead? : List (List Node) → Option (Node × List (List Node))
  | (head :: tail) :: others =>
    if others.all fun branch => branch.head?.any head.sameLeaf then
      some (head, tail :: others.map List.tail)
    else none
  | _ => none

/-- One choice between branches, after the heads that they share. -/
def joinBranches (folding : Folding) : (fuel : Nat) → List (List Node) → List Node
  | 0, branches => [.choice branches]
  | fuel + 1, branches =>
    match sharedHead? branches with
    | some (head, branches) => head :: joinBranches folding fuel branches
    | none =>
      let single (branch : List Node) : Option (List SetItem) :=
        match branch with
        | [node] => node.setItems?
        | _ => none
      match branches.mapM single with
      | some items => [.char (.ofSet folding false items.flatten.eraseDups)]
      | none => [.choice branches]

/-- A name up to its terminator. -/
def readName (terminator : Char) (lexemes : List Lexeme) :
    Except Fault (List Char × List Lexeme) :=
  match takeUntil terminator lexemes with
  | .error fault => .error fault
  | .ok (name, rest) => if Text.isIdentifier name then .ok (name, rest) else .error .malformed

/-- The group that a conditional asks for, by name or by number. -/
def readCondition (p : Progress) : Reading Nat :=
  match takeUntil ')' p.rest with
  | .error fault => .error fault
  | .ok (name, rest) =>
    let checked (p : Progress) (number : Nat) : Reading Nat :=
      if p.behindFrom.isSome && (p.groupWidth? number).isNone then .error .malformed
      else .ok (number, { p with rest })
    if Text.isIdentifier name then
      match p.names.lookup name with
      | some number => checked p number
      | none => .error .malformed
    else
      match Text.readInt? name with
      | some n =>
        if n ≤ 0 then .error .malformed
        else checked { p with conditions := n.toNat :: p.conditions } n.toNat
      | none => .error .malformed

/-- Takes the closing parenthesis. -/
def closing {α : Type} (a : α) (p : Progress) : Reading α :=
  match p.rest with
  | .plain ')' :: rest => .ok (a, { p with rest })
  | _ => .error .malformed

mutual

/-- The branches of a choice. -/
def readBranches : (fuel : Nat) → Scope → Progress → Reading (List (List Node))
  | 0, _, _ => .error .malformed
  | fuel + 1, scope, p =>
    match readSequence fuel scope [] p with
    | .error fault => .error fault
    | .ok (branch, p) =>
      match p.rest with
      | .plain '|' :: rest =>
        match readBranches fuel scope { p with rest } with
        | .error fault => .error fault
        | .ok (others, p) => .ok (branch :: others, p)
      | _ => .ok ([branch], p)

/-- The nodes up to the end of a group or of the text. -/
def readChoice : (fuel : Nat) → Scope → Progress → Reading (List Node)
  | 0, _, _ => .error .malformed
  | fuel + 1, scope, p =>
    match readBranches fuel scope p with
    | .error fault => .error fault
    | .ok ([only], p) => .ok (only, p)
    | .ok (branches, p) =>
      .ok (joinBranches scope.folding (branches.headD []).length.succ branches, p)

/-- The nodes of a group behind its opening, up to and with the closing parenthesis. -/
def readBody : (fuel : Nat) → Scope → Progress → Reading (List Node)
  | 0, _, _ => .error .malformed
  | fuel + 1, scope, p =>
    match readChoice fuel scope p with
    | .error fault => .error fault
    | .ok (nodes, p) => closing nodes p

/-- A capturing group behind its opening. -/
def readCapture : (fuel : Nat) → Scope → (name : Option (List Char)) → Progress → Reading Piece
  | 0, _, _, _ => .error .malformed
  | fuel + 1, scope, name, p =>
    match p.openGroup name with
    | none => .error .malformed
    | some opened =>
      match readBody fuel scope opened with
      | .error fault => .error fault
      | .ok (body, q) =>
        let number := p.widths.length + 1
        .ok (.node (.group (some number) body),
          q.closeGroup number (sequenceWidth body).capped)

/-- A look behind, behind its opening. -/
def readBehind : (fuel : Nat) → Scope → (negated : Bool) → Progress → Reading Piece
  | 0, _, _, _ => .error .malformed
  | fuel + 1, scope, negated, p =>
    let inside := { p with behindFrom := some (p.behindFrom.getD (p.widths.length + 1)) }
    match readBody fuel scope inside with
    | .error fault => .error fault
    | .ok (body, q) =>
      .ok (.node (.behind negated (sequenceWidth body).capped body),
        { q with behindFrom := p.behindFrom })

/-- A conditional behind its opening: one or two sequences. -/
def readConditional : (fuel : Nat) → Scope → Progress → Reading Piece
  | 0, _, _ => .error .malformed
  | fuel + 1, scope, p =>
    match readCondition p with
    | .error fault => .error fault
    | .ok (number, p) =>
      match readSequence fuel scope [] p with
      | .error fault => .error fault
      | .ok (present, p) =>
        match p.rest with
        | .plain '|' :: rest =>
          match readSequence fuel scope [] { p with rest } with
          | .error fault => .error fault
          | .ok (absent, p) => closing (.node (.conditional number present absent)) p
        | _ => closing (.node (.conditional number present [])) p

/-- A group behind its opening parenthesis, comments apart. -/
def readGroup : (fuel : Nat) → Scope → Progress → Reading Piece
  | 0, _, _ => .error .malformed
  | fuel + 1, scope, p =>
    match p.rest with
    | .plain '?' :: .plain 'P' :: .plain '<' :: rest =>
      match readName '>' rest with
      | .error fault => .error fault
      | .ok (name, rest) => readCapture fuel scope (some name) { p with rest }
    | .plain '?' :: .plain 'P' :: .plain '=' :: rest =>
      match readName ')' rest with
      | .error fault => .error fault
      | .ok (name, rest) =>
        match p.names.lookup name with
        | none => .error .malformed
        | some number =>
          match p.groupWidth? number with
          | none => .error .malformed
          | some width => .ok (.node (.backreference number scope.folding width), { p with rest })
    | .plain '?' :: .plain ':' :: rest =>
      match readBody fuel scope { p with rest } with
      | .error fault => .error fault
      | .ok (body, p) => .ok (.bare body, p)
    | .plain '?' :: .plain '>' :: rest =>
      match readBody fuel scope { p with rest } with
      | .error fault => .error fault
      | .ok (body, p) => .ok (.node (.atomic body), p)
    | .plain '?' :: .plain '=' :: rest =>
      match readBody fuel scope { p with rest } with
      | .error fault => .error fault
      | .ok (body, p) => .ok (.node (.ahead false body), p)
    | .plain '?' :: .plain '!' :: rest =>
      match readBody fuel scope { p with rest } with
      | .error fault => .error fault
      | .ok (body, p) => .ok (.node (.ahead true body), p)
    | .plain '?' :: .plain '<' :: .plain '=' :: rest => readBehind fuel scope false { p with rest }
    | .plain '?' :: .plain '<' :: .plain '!' :: rest => readBehind fuel scope true { p with rest }
    | .plain '?' :: .plain '(' :: rest => readConditional fuel scope { p with rest }
    | .plain '?' :: rest =>
      match readFlags [] rest with
      | .ok (.inside added removed, rest) =>
        match readBody fuel (scope.change added removed) { p with rest } with
        | .error fault => .error fault
        | .ok (body, p) => .ok (.node (.group none body), p)
      | _ => .error .malformed
    | _ => readCapture fuel scope none p

/-- The nodes of a sequence up to a bar, a closing parenthesis or the end; `done` holds the earlier
pieces, reversed. -/
def readSequence : (fuel : Nat) → Scope → (done : List Piece) → Progress → Reading (List Node)
  | 0, _, _, _ => .error .malformed
  | fuel + 1, scope, done, p =>
    let literal (c : Char) : Piece := .node (.char (.literal scope.folding false c.toNat))
    match if scope.verbose then skipVerbose? p.rest else none with
    | some rest => readSequence fuel scope done { p with rest }
    | none =>
      match skipComment? p.rest with
      | some (.error fault) => .error fault
      | some (.ok rest) => readSequence fuel scope done { p with rest }
      | none =>
        match readRepetition p.rest with
        | some (.error fault) => .error fault
        | some (.ok ((least, most), rest)) =>
          match done with
          | [] => .error .malformed
          | last :: earlier =>
            match last.repeatable? with
            | none => .error .malformed
            | some body =>
              let (eagerness, rest) := readEagerness rest
              readSequence fuel scope (.node (.repetition eagerness least most body) :: earlier)
                { p with rest }
        | none =>
          match p.rest with
          | [] => .ok (assemble done, p)
          | .dangling :: _ => .error .malformed
          | .escaped c :: rest =>
            match readEscape scope c { p with rest } with
            | .error fault => .error fault
            | .ok (node, p) => readSequence fuel scope (.node node :: done) p
          | .plain c :: rest =>
            match c with
            | '|' | ')' => .ok (assemble done, p)
            | '.' =>
              readSequence fuel scope (.node (.char (.any scope.dotAll)) :: done) { p with rest }
            | '^' =>
              readSequence fuel scope (.node (.anchor (.lineStart scope.everyLine)) :: done)
                { p with rest }
            | '$' =>
              readSequence fuel scope (.node (.anchor (.lineEnd scope.everyLine)) :: done)
                { p with rest }
            | '[' =>
              match readSet scope.folding scope.asciiOnly rest with
              | .error fault => .error fault
              | .ok (test, rest) =>
                readSequence fuel scope (.node (.char test) :: done) { p with rest }
            | '(' =>
              match readGroup fuel scope { p with rest } with
              | .error fault => .error fault
              | .ok (piece, p) => readSequence fuel scope (piece :: done) p
            | _ => readSequence fuel scope (literal c :: done) { p with rest }

end

/-- Reads a pattern. Whether all classes are ASCII and whether they are not can be chosen by
flags, but not both. -/
def Pattern.read (ignoreCase : Bool) (text : String) : Except Fault Pattern :=
  let all := lexemes text.toList
  let plain : Scope := ⟨ignoreCase, false, false, false, false⟩
  match readStart plain (all.length + 1) [] all with
  | .error fault => .error fault
  | .ok (letters, rest) =>
    let scope := plain.change letters []
    match readChoice (6 * rest.length + 6) scope ⟨rest, [], [], none, []⟩ with
    | .error fault => .error fault
    | .ok (nodes, p) =>
      if letters.contains 'a' && letters.contains 'u' then .error .conflictingFlags
      else if !p.rest.isEmpty || p.conditions.any (p.widths.length < ·) ||
          (letters.contains 't' && sequenceRepeats nodes) || !sequenceIsFixed nodes then
        .error .malformed
      else .ok (.ofNodes scope.asciiOnly nodes p.widths.length)

end JsonSeek.Regex
