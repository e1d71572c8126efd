import JsonSeek.Match.Spans
import JsonSeek.Text.Grouped

/-!
# Excerpts of long reports

A report that is longer than a limit is cut. Whole lines are kept, taken in turn from the
beginning and from the end as long as they fit together with their line feeds. If not even the
first line fits, it is cut itself. A notice says what is missing.
-/

namespace JsonSeek.Report

/-- The lines of a text; a text without a line feed is one line. -/
def linesOf : List Char → List (List Char)
  | [] => [[]]
  | c :: rest =>
    if c = '\n' then [] :: linesOf rest
    else
      match linesOf rest with
      | [] => [[c]]
      | line :: lines => (c :: line) :: lines

/-- How many lines are kept from the beginning and from the end, how many characters these take up,
and the other lines in both directions: onward from the first one, and backward from the last. -/
structure Selection where
  head : Nat
  tail : Nat
  used : Nat
  onward : List (List Char)
  backward : List (List Char)

/-- Nothing is kept yet. -/
def Selection.start (lines : List (List Char)) : Selection := ⟨0, 0, 0, lines, lines.reverse⟩

/-- Whether it is the turn of the beginning. Both ends take turns, and the beginning goes first. -/
def Selection.isAtHead (s : Selection) : Bool := s.head ≤ s.tail

/-- Keeps a line. `rest` are the lines behind it in the same direction. -/
def Selection.keep (s : Selection) (line : List Char) (rest : List (List Char)) : Selection :=
  let used := s.used + (line.length + 1)
  if s.isAtHead then { s with head := s.head + 1, used, onward := rest }
  else { s with tail := s.tail + 1, used, backward := rest }

/-- Keeps the next line if it fits with its line feed. -/
def Selection.step? (limit : Int) (s : Selection) : Option Selection :=
  match if s.isAtHead then s.onward else s.backward with
  | [] => none
  | line :: rest =>
    if (s.used + (line.length + 1) : Nat) ≤ limit then some (s.keep line rest) else none

/-- Keeps lines as long as they fit. `left` of them are not kept yet. -/
def Selection.run (limit : Int) : (left : Nat) → Selection → Selection
  | 0, s => s
  | left + 1, s =>
    match s.step? limit with
    | none => s
    | some next => next.run limit left

/-- The lines of a text that fit into a limit. -/
def Selection.ofLines (limit : Int) (lines : List (List Char)) : Selection :=
  (start lines).run limit lines.length

/-- The line that stands for lines left out. -/
def omittedLine (n : Nat) : List Char := ("[... " ++ toString n ++ " lines OMITTED ...]").toList

/-- The notice at the end of an excerpt. -/
def excerptNotice (length lineCount : Nat) (limit : Int) : List Char :=
  ("\n[OUTPUT TRUNCATED: " ++ Text.groupedNat length ++ " chars in " ++ toString lineCount ++
    " lines, over --limit " ++ Text.groupedInt limit ++ "]\n" ++
    "Narrow with --type, --max-depth or --max-results, pass a larger --limit, " ++
    "or --limit 0 for everything\n").toList

/-- What an excerpt keeps of a text. -/
def kept (limit : Int) (text : List Char) : List Char :=
  let lines := linesOf text
  let selection := Selection.ofLines limit lines
  if selection.head = 0 then Match.cut text 0 limit ++ "\n[... rest OMITTED ...]".toList
  else
    let head := lines.take selection.head
    let tail := lines.drop (lines.length - selection.tail)
    let omitted := lines.length - selection.head - selection.tail
    List.intercalate ['\n'] (head ++ omittedLine omitted :: tail)

/-- A text, or an excerpt of it if it is longer than the limit. -/
def excerpt (limit : Int) (text : String) : String :=
  let chars := text.toList
  if chars.length ≤ limit then text
  else
    String.ofList (kept limit chars ++
      excerptNotice chars.length (linesOf chars).length limit)

end JsonSeek.Report
