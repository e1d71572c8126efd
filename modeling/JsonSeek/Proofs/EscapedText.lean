import JsonSeek.Regex.Escape
import JsonSeek.Regex.Reader

/-!
# Escaped texts are read as they stand

Escaping puts a backslash in front of every character that has a meaning in a pattern. Whatever the
text, the reader takes each of its characters for itself: `readSequence_escapeLexeme` reads one, and
`readSequence_escape` all of them. So an anchor in front of an escaped text or behind it gives a
pattern of that anchor and these characters (`read_startPattern`, `read_endPattern`).
-/

namespace JsonSeek.Regex

variable {scope : Scope}

/-- The lexeme of a character of an escaped text. -/
def escapeLexeme (c : Char) : Lexeme := if specialChars.contains c then .escaped c else .plain c

/-- The node that stands for a character. -/
def literalNode (folding : Folding) (c : Char) : Node := .char (.literal folding false c.toNat)

/-! ## Lexemes -/

theorem lexemes_escape_append (word rest : List Char) :
    lexemes (escape word ++ rest) = word.map escapeLexeme ++ lexemes rest := by
  induction word with
  | nil => rfl
  | cons c word ih =>
      have front : escape (c :: word) =
          (if specialChars.contains c then ['\\', c] else [c]) ++ escape word := List.flatMap_cons
      rw [front, List.append_assoc, List.map_cons, List.cons_append, ← ih]
      unfold escapeLexeme
      split
      · rfl
      · rename_i ordinary
        have other : c ≠ '\\' := by
          rintro rfl
          exact ordinary rfl
        rw [List.singleton_append, lexemes]
        · exact fun same => absurd same other
        · exact fun _ _ same => absurd same other

theorem escapeLexeme_ne_parenthesis (c : Char) : escapeLexeme c ≠ .plain '(' := by
  unfold escapeLexeme
  split
  · exact Lexeme.noConfusion
  · rintro ⟨rfl⟩
    contradiction

/-! ## One character -/

theorem isAlphanum_of_special {c : Char} (special : specialChars.contains c = true) :
    c.isAlphanum = false := by
  have all : (specialChars.all fun c => !c.isAlphanum) = true := by decide
  have other := List.all_eq_true.mp all c (List.contains_iff_mem.mp special)
  rwa [Bool.not_eq_true'] at other

section

variable {c : Char} (other : c.isAlphanum = false)

include other

theorem classEscape?_of_isAlphanum : classEscape? c = none := by
  unfold classEscape?
  split
  case h_7 => rfl
  all_goals exact absurd other (by decide)

theorem controlEscape?_of_isAlphanum : controlEscape? c = none := by
  unfold controlEscape?
  split
  case h_7 => rfl
  all_goals exact absurd other (by decide)

theorem readLiteralEscape_of_isAlphanum (rest : List Lexeme) :
    readLiteralEscape c rest = .ok (c.toNat, rest) := by
  unfold readLiteralEscape
  rw [controlEscape?_of_isAlphanum other]
  dsimp only
  split
  case h_4 =>
    rw [other]
    rfl
  all_goals exact absurd other (by decide)

/-- An escaped character that is neither a letter nor a digit stands for itself. -/
theorem readEscape_of_isAlphanum (p : Progress) :
    readEscape scope c p = .ok (literalNode scope.folding c, p) := by
  have noDigit : c.isDigit = false := (Bool.or_eq_false_iff.mp other).2
  unfold readEscape
  rw [classEscape?_of_isAlphanum other]
  dsimp only
  split
  case h_6 =>
    rw [noDigit, readLiteralEscape_of_isAlphanum other]
    rfl
  all_goals exact absurd other (by decide)

end

/-- A character of an escaped text is read as that character, wherever it stands. -/
theorem readSequence_escapeLexeme (broad : scope.verbose = false) (fuel : Nat) (done : List Piece)
    (c : Char) (rest : List Lexeme) (p : Progress) :
    readSequence (fuel + 1) scope done { p with rest := escapeLexeme c :: rest } =
      readSequence fuel scope (.node (literalNode scope.folding c) :: done) { p with rest } := by
  rw [readSequence, broad]
  by_cases special : specialChars.contains c = true
  · have front : escapeLexeme c = .escaped c := if_pos special
    rw [front]
    simp only [skipComment?, readRepetition]
    rw [readEscape_of_isAlphanum (isAlphanum_of_special special)]
    rfl
  · have front : escapeLexeme c = .plain c := if_neg special
    rw [front]
    -- each character that one of the readers looks for is special
    have noComment : skipComment? (.plain c :: rest) = none := by
      unfold skipComment?
      split
      · rename_i same
        cases same
        exact absurd rfl special
      · rfl
    have noRepetition : readRepetition (.plain c :: rest) = none := by
      unfold readRepetition
      split
      case h_5 => rfl
      all_goals
        rename_i same
        cases same
        exact absurd rfl special
    simp only [Bool.false_eq_true, if_false, noComment, noRepetition]
    split
    case h_8 => rfl
    all_goals exact absurd rfl special

/-! ## Whole texts -/

/-- An escaped text is read as its characters, one after the other. -/
theorem readSequence_escape (broad : scope.verbose = false) (word : List Char) (fuel : Nat)
    (done : List Piece) (rest : List Lexeme) (p : Progress) :
    readSequence (fuel + word.length) scope done { p with rest := word.map escapeLexeme ++ rest } =
      readSequence fuel scope
        ((word.map fun c => .node (literalNode scope.folding c)).reverse ++ done)
        { p with rest } := by
  induction word generalizing done with
  | nil => rfl
  | cons c word ih =>
      rw [List.length_cons, ← Nat.add_assoc, List.map_cons, List.cons_append,
        readSequence_escapeLexeme broad, ih, List.map_cons, List.reverse_cons, List.append_assoc,
        List.singleton_append]

/-- No flags at all. -/
def Scope.plain : Scope := ⟨false, false, false, false, false⟩

/-- Nothing has been read yet. -/
def Progress.start (rest : List Lexeme) : Progress := ⟨rest, [], [], none, []⟩

theorem readStart_plain {all : List Lexeme} (other : all.head? ≠ some (.plain '(')) (fuel : Nat) :
    readStart .plain (fuel + 1) [] all = .ok ([], all) := by
  have noComment : skipComment? all = none := by
    unfold skipComment?
    split
    · exact absurd rfl other
    · rfl
  have noBlanks : (Scope.plain.change [] []).verbose = false := rfl
  rw [readStart, noBlanks]
  simp only [noComment, Bool.false_eq_true, if_false]
  rintro c rest rfl
  exact other rfl

/-- A text that begins with no parenthesis is the pattern of its nodes if they take up all of it. -/
theorem read_of_readSequence {text : List Char} {nodes : List Node}
    (other : (lexemes text).head? ≠ some (.plain '('))
    (whole : readSequence (6 * (lexemes text).length + 4) .plain [] (.start (lexemes text)) =
      .ok (nodes, .start []))
    (fixed : sequenceIsFixed nodes = true) :
    Pattern.read false (String.ofList text) = .ok (.ofNodes false nodes 0) := by
  have flags := readStart_plain other (lexemes text).length
  have branches : readBranches (6 * (lexemes text).length + 5) .plain (.start (lexemes text)) =
      .ok ([nodes], .start []) := by
    rw [readBranches, whole]
    rfl
  have choice : readChoice (6 * (lexemes text).length + 6) .plain (.start (lexemes text)) =
      .ok (nodes, .start []) := by
    rw [readChoice, branches]
  have unchanged : Scope.plain.change [] [] = .plain := rfl
  rw [Pattern.read, String.toList_ofList]
  simp only [Scope.plain, Progress.start] at flags choice unchanged
  simp [flags, unchanged, choice, fixed]

/-! ## Anchored texts -/

variable (word : List Char)

/-- The pattern of a text at the start of a line. -/
def startPattern : Pattern :=
  .ofNodes false (.anchor (.lineStart false) :: word.map (literalNode .exact)) 0

/-- The pattern of a text at the end of a line. -/
def endPattern : Pattern :=
  .ofNodes false (word.map (literalNode .exact) ++ [.anchor (.lineEnd false)]) 0

theorem sequenceIsFixed_literals_append (rest : List Node) :
    sequenceIsFixed (word.map (literalNode .exact) ++ rest) = sequenceIsFixed rest := by
  induction word with
  | nil => rfl
  | cons c word ih => exact ih

/-- The pieces of a text, the last one first. -/
def literalPieces : List Piece := (word.map fun c => .node (literalNode .exact c)).reverse

theorem assemble_cons (piece : Piece) (done : List Piece) :
    assemble (piece :: done) = assemble done ++ piece.nodes := by
  simp [assemble]

theorem assemble_literalPieces_append (done : List Piece) :
    assemble (literalPieces word ++ done) = assemble done ++ word.map (literalNode .exact) := by
  simp [assemble, literalPieces, List.flatMap_map, Piece.nodes, ← List.map_eq_flatMap]

theorem readSequence_literalPieces (fuel : Nat) (done : List Piece) (rest : List Lexeme) :
    readSequence (fuel + word.length) .plain done (.start (word.map escapeLexeme ++ rest)) =
      readSequence fuel .plain (literalPieces word ++ done) (.start rest) :=
  readSequence_escape rfl word fuel done rest (.start [])

/-- A caret and an escaped text are read as the text at the start of a line. -/
theorem read_startPattern :
    Pattern.read false (String.ofList ('^' :: escape word)) = .ok (startPattern word) := by
  have all : lexemes ('^' :: escape word) = .plain '^' :: (word.map escapeLexeme ++ []) := by
    rw [lexemes]
    · simpa [lexemes] using lexemes_escape_append word []
    · exact nofun
    · exact nofun
  have fuel : 6 * (lexemes ('^' :: escape word)).length + 4 =
      5 * word.length + 9 + word.length + 1 := by
    simp only [all, List.length_cons, List.length_append, List.length_map, List.length_nil]
    omega
  refine read_of_readSequence (by rw [all]; exact nofun) ?_ ?_
  · rw [fuel, all]
    calc readSequence (5 * word.length + 9 + word.length + 1) .plain []
          (.start (.plain '^' :: (word.map escapeLexeme ++ [])))
      _ = readSequence (5 * word.length + 9 + word.length) .plain
            [.node (.anchor (.lineStart false))] (.start (word.map escapeLexeme ++ [])) := rfl
      _ = .ok (assemble (literalPieces word ++ [.node (.anchor (.lineStart false))]), .start []) :=
          readSequence_literalPieces ..
      _ = .ok (.anchor (.lineStart false) :: word.map (literalNode .exact), .start []) := by
          rw [assemble_literalPieces_append]
          rfl
  · have fixed := sequenceIsFixed_literals_append word []
    rw [List.append_nil] at fixed
    exact fixed

/-- An escaped text and a dollar sign are read as the text at the end of a line. -/
theorem read_endPattern :
    Pattern.read false (String.ofList (escape word ++ ['$'])) = .ok (endPattern word) := by
  have all : lexemes (escape word ++ ['$']) = word.map escapeLexeme ++ [.plain '$'] :=
    lexemes_escape_append word ['$']
  have fuel : 6 * (lexemes (escape word ++ ['$'])).length + 4 =
      5 * word.length + 10 + word.length := by
    simp only [all, List.length_cons, List.length_append, List.length_map, List.length_nil]
    omega
  refine read_of_readSequence ?_ ?_ (sequenceIsFixed_literals_append word [_])
  · rw [all]
    cases word with
    | nil => exact nofun
    | cons c word => exact fun same => escapeLexeme_ne_parenthesis c (Option.some.inj same)
  · rw [fuel, all]
    calc readSequence (5 * word.length + 10 + word.length) .plain []
          (.start (word.map escapeLexeme ++ [.plain '$']))
      _ = readSequence (5 * word.length + 10) .plain (literalPieces word ++ [])
            (.start [.plain '$']) := readSequence_literalPieces ..
      _ = .ok (assemble (.node (.anchor (.lineEnd false)) :: (literalPieces word ++ [])),
            .start []) := rfl
      _ = .ok (word.map (literalNode .exact) ++ [.anchor (.lineEnd false)], .start []) := by
          rw [assemble_cons, assemble_literalPieces_append]
          rfl

end JsonSeek.Regex
