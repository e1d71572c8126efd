import JsonSeek.Proofs.Lines
import JsonSeek.Proofs.MarkedText

/-!
# What an excerpt keeps

Lines are kept in turn from the beginning and the end of a report while they fit. At every moment
the report consists of the lines kept at its beginning, those not kept yet and those kept at its end
(`Selection.Keeps`). One more line moves from the middle to one of the ends (`Keeps.step`), so that
the lines in both directions never cross. A report that is longer than the limit does not fit as a
whole, and something is left in the middle (`excerpt_keeps_whole_lines`).
-/

namespace JsonSeek.Report

variable {limit : Int} {lines head middle tail : List (List Char)}

/-! ## The size of lines -/

/-- The number of characters of lines with one line feed each. -/
def sizeOfLines (lines : List (List Char)) : Nat := (lines.map fun line => line.length + 1).sum

theorem sizeOfLines_nil : sizeOfLines [] = 0 := rfl

theorem sizeOfLines_cons (line : List Char) (lines : List (List Char)) :
    sizeOfLines (line :: lines) = line.length + 1 + sizeOfLines lines := List.sum_cons

theorem sizeOfLines_append (before after : List (List Char)) :
    sizeOfLines (before ++ after) = sizeOfLines before + sizeOfLines after := by
  simp [sizeOfLines]

theorem sizeOfLines_concat (lines : List (List Char)) (line : List Char) :
    sizeOfLines (lines ++ [line]) = sizeOfLines lines + (line.length + 1) :=
  sizeOfLines_append lines [line]

/-- The lines of a text take up one character more than the text. -/
theorem sizeOfLines_linesOf (text : List Char) : sizeOfLines (linesOf text) = text.length + 1 := by
  induction text with
  | nil => rfl
  | cons c rest ih =>
      by_cases same : c = '\n'
      · rw [same, linesOf_cons_newline, sizeOfLines_cons, ih, List.length_cons, List.length_nil]
        omega
      · rw [linesOf_cons_of_ne same, List.length_cons]
        cases split : linesOf rest with
        | nil => exact absurd split (linesOf_ne_nil rest)
        | cons line lines =>
            rw [split, sizeOfLines_cons] at ih
            rw [List.modifyHead_cons, sizeOfLines_cons, List.length_cons]
            omega

/-! ## Keeping one line after the other -/

/-- A selection keeps some lines at the beginning and some at the end, by turns, and the lines in
the middle are left. -/
structure Selection.Keeps (s : Selection) (head middle tail : List (List Char)) : Prop where
  head_eq : s.head = head.length
  tail_eq : s.tail = tail.length
  used_eq : s.used = sizeOfLines head + sizeOfLines tail
  onward_eq : s.onward = middle ++ tail
  backward_eq : s.backward = middle.reverse ++ head.reverse
  turns : head.length = tail.length ∨ head.length = tail.length + 1

/-- The line that is next: at the beginning of the middle or at its end. -/
def nextLine? (head middle tail : List (List Char)) : Option (List Char) :=
  if head.length ≤ tail.length then middle.head? else middle.getLast?

/-- The next line does not fit. -/
def IsFull (limit : Int) (head middle tail : List (List Char)) : Prop :=
  ∀ line ∈ nextLine? head middle tail,
    limit < (sizeOfLines head + sizeOfLines tail + (line.length + 1) : Nat)

namespace Selection

variable {s : Selection}

theorem keeps_start (lines : List (List Char)) : (start lines).Keeps [] lines [] where
  head_eq := rfl
  tail_eq := rfl
  used_eq := rfl
  onward_eq := (List.append_nil _).symm
  backward_eq := (List.append_nil _).symm
  turns := Or.inl rfl

theorem Keeps.isAtHead_iff (keeps : s.Keeps head middle tail) :
    s.isAtHead = true ↔ head.length ≤ tail.length := by
  rw [isAtHead, decide_eq_true_iff, keeps.head_eq, keeps.tail_eq]

/-- If it is the turn of the beginning, the first line of the middle is kept there. -/
theorem Keeps.keep_onward {line : List Char} (keeps : s.Keeps head (line :: middle) tail)
    (first : s.isAtHead = true) :
    (s.keep line (middle ++ tail)).Keeps (head ++ [line]) middle tail := by
  have turn := keeps.isAtHead_iff.mp first
  have turns := keeps.turns
  rw [keep, if_pos first]
  constructor
  case head_eq => simp [keeps.head_eq]
  case tail_eq => exact keeps.tail_eq
  case used_eq =>
    rw [sizeOfLines_concat, Nat.add_right_comm, ← keeps.used_eq]
  case onward_eq => rfl
  case backward_eq => simp [keeps.backward_eq]
  case turns =>
    rw [List.length_append, List.length_singleton]
    omega

/-- If it is the turn of the end, the last line of the middle is kept there. -/
theorem Keeps.keep_backward {line : List Char} (keeps : s.Keeps head (middle ++ [line]) tail)
    (last : ¬ s.isAtHead = true) :
    (s.keep line (middle.reverse ++ head.reverse)).Keeps head middle (line :: tail) := by
  have turn := (not_congr keeps.isAtHead_iff).mp last
  have turns := keeps.turns
  rw [keep, if_neg last]
  constructor
  case head_eq => exact keeps.head_eq
  case tail_eq => simp [keeps.tail_eq]
  case used_eq =>
    calc s.used + (line.length + 1)
        = sizeOfLines head + sizeOfLines tail + (line.length + 1) := by rw [keeps.used_eq]
      _ = sizeOfLines head + sizeOfLines (line :: tail) := by rw [sizeOfLines_cons]; omega
  case onward_eq => simp [keeps.onward_eq]
  case backward_eq => rfl
  case turns =>
    rw [List.length_cons]
    omega

theorem step?_eq {line : List Char} {rest : List (List Char)} (limit : Int)
    (next : (if s.isAtHead then s.onward else s.backward) = line :: rest) :
    s.step? limit =
      if (s.used + (line.length + 1) : Nat) ≤ limit then some (s.keep line rest) else none := by
  rw [step?, next]

/-- As long as there are lines in the middle, the next one is kept at one of the ends if it fits. -/
theorem Keeps.exists_next (keeps : s.Keeps head middle tail) (left : middle ≠ []) :
    ∃ line rest head' middle' tail', nextLine? head middle tail = some line ∧
      (if s.isAtHead then s.onward else s.backward) = line :: rest ∧
      (s.keep line rest).Keeps head' middle' tail' ∧
      head' ++ middle' ++ tail' = head ++ middle ++ tail ∧
      middle'.length + 1 = middle.length := by
  by_cases first : s.isAtHead = true
  · obtain ⟨line, rest, rfl⟩ := List.exists_cons_of_ne_nil left
    refine ⟨line, _, _, _, _, ?_, ?_, keeps.keep_onward first, by simp, rfl⟩
    · rw [nextLine?, if_pos (keeps.isAtHead_iff.mp first)]
      rfl
    · rw [if_pos first]
      exact keeps.onward_eq
  · obtain ⟨rest, line, rfl⟩ : ∃ rest line, middle = rest ++ [line] :=
      ⟨_, _, (List.dropLast_concat_getLast left).symm⟩
    refine ⟨line, _, _, _, _, ?_, ?_, keeps.keep_backward first, by simp, by simp⟩
    · rw [nextLine?, if_neg ((not_congr keeps.isAtHead_iff).mp first), List.getLast?_concat]
    · rw [if_neg first, keeps.backward_eq, List.reverse_concat]
      rfl

/-- As long as there are lines in the middle, the next one is kept, or it does not fit. -/
theorem Keeps.step (keeps : s.Keeps head middle tail) (left : middle ≠ []) (limit : Int) :
    (s.step? limit = none ∧ IsFull limit head middle tail) ∨
      ∃ next head' middle' tail', s.step? limit = some next ∧ next.Keeps head' middle' tail' ∧
        head' ++ middle' ++ tail' = head ++ middle ++ tail ∧
        middle'.length + 1 = middle.length ∧
        (sizeOfLines head' + sizeOfLines tail' : Nat) ≤ limit := by
  obtain ⟨line, rest, head', middle', tail', isNext, follows, keeps', whole, fewer⟩ :=
    keeps.exists_next left
  by_cases fits : (s.used + (line.length + 1) : Nat) ≤ limit
  · refine Or.inr ⟨_, head', middle', tail', (step?_eq limit follows).trans (if_pos fits), keeps',
      whole, fewer, ?_⟩
    have used : (s.keep line rest).used = s.used + (line.length + 1) := by
      unfold keep
      split <;> rfl
    rwa [← keeps'.used_eq, used]
  · refine Or.inl ⟨(step?_eq limit follows).trans (if_neg fits), fun other same => ?_⟩
    rw [isNext] at same
    cases same
    rw [← keeps.used_eq]
    exact Int.not_le.mp fits

/-- A run goes on until no line is left in the middle or the next one does not fit. -/
theorem Keeps.run (keeps : s.Keeps head middle tail)
    (fits : (sizeOfLines head + sizeOfLines tail : Nat) ≤ limit) :
    ∃ head' middle' tail', (s.run limit middle.length).Keeps head' middle' tail' ∧
      head' ++ middle' ++ tail' = head ++ middle ++ tail ∧
      (sizeOfLines head' + sizeOfLines tail' : Nat) ≤ limit ∧
      IsFull limit head' middle' tail' := by
  induction count : middle.length generalizing s head middle tail with
  | zero =>
      obtain rfl := List.length_eq_zero_iff.mp count
      refine ⟨head, [], tail, keeps, rfl, fits, fun line same => ?_⟩
      simp [nextLine?] at same
  | succ left ih =>
      have some_line : middle ≠ [] := List.ne_nil_of_length_pos (count ▸ Nat.succ_pos left)
      rw [Selection.run]
      rcases keeps.step some_line limit with ⟨stopped, full⟩ |
        ⟨next, head', middle', tail', moved, keeps', whole, fewer, fits'⟩
      · rw [stopped]
        exact ⟨head, middle, tail, keeps, rfl, fits, full⟩
      · rw [moved]
        obtain ⟨head'', middle'', tail'', keeps'', whole', ends⟩ := ih keeps' fits' (by omega)
        exact ⟨head'', middle'', tail'', keeps'', whole'.trans whole, ends⟩

/-- The lines that fit into a limit are some from the beginning and some from the end. -/
theorem exists_keeps_ofLines (room : 0 ≤ limit) (lines : List (List Char)) :
    ∃ head middle tail, (ofLines limit lines).Keeps head middle tail ∧
      head ++ middle ++ tail = lines ∧ (sizeOfLines head + sizeOfLines tail : Nat) ≤ limit ∧
      IsFull limit head middle tail := by
  have ran := (keeps_start lines).run room
  rwa [List.nil_append, List.append_nil] at ran

end Selection

/-! ## Excerpts -/

/-- Lines are cut down to those at the beginning and, by turns, those at the end that fit into a
limit, and some between them are omitted. The next line would have been too much. -/
structure AreCutDown (limit : Nat) (lines head omitted tail : List (List Char)) : Prop where
  whole : head ++ omitted ++ tail = lines
  begun : head ≠ []
  gap : omitted ≠ []
  turns : head.length = tail.length ∨ head.length = tail.length + 1
  fits : sizeOfLines head + sizeOfLines tail ≤ limit
  full : IsFull limit head omitted tail

/-- A selection keeps something exactly if the first line fits. -/
theorem Selection.Keeps.head_ne_nil_iff {s : Selection} {limit : Nat} {first : List Char}
    (keeps : s.Keeps head middle tail) (whole : head ++ middle ++ tail = first :: lines)
    (fits : sizeOfLines head + sizeOfLines tail ≤ limit) (full : IsFull limit head middle tail) :
    head ≠ [] ↔ first.length + 1 ≤ limit := by
  cases head with
  | nil =>
      obtain rfl : tail = [] := by simpa [eq_comm] using keeps.turns
      rw [List.append_nil, List.nil_append] at whole
      subst whole
      have tooMuch := full first rfl
      rw [sizeOfLines_nil, Nat.add_zero, Nat.zero_add] at tooMuch
      exact iff_of_false (fun filled => filled rfl) (by omega)
  | cons line rest =>
      obtain rfl : line = first := (List.cons.inj whole).1
      rw [sizeOfLines_cons] at fits
      exact iff_of_true (List.cons_ne_nil _ _) (by omega)

/-- The whole of a text that is longer than the limit does not fit. -/
theorem middle_ne_nil {limit : Nat} {text : List Char} (long : limit < text.length)
    (whole : head ++ middle ++ tail = linesOf text)
    (fits : sizeOfLines head + sizeOfLines tail ≤ limit) : middle ≠ [] := by
  rintro rfl
  have size := sizeOfLines_linesOf text
  rw [← whole, List.append_nil, sizeOfLines_append] at size
  omega

theorem kept_of_keeps {text : List Char}
    (keeps : (Selection.ofLines limit (linesOf text)).Keeps head middle tail)
    (whole : head ++ middle ++ tail = linesOf text) :
    kept limit text =
      if head = [] then Match.cut text 0 limit ++ "\n[... rest OMITTED ...]".toList
      else List.intercalate ['\n'] (head ++ omittedLine middle.length :: tail) := by
  have front : (linesOf text).take head.length = head := by
    rw [← whole, List.append_assoc, List.take_left']
    rfl
  have count : (linesOf text).length = head.length + middle.length + tail.length := by
    rw [← whole, List.length_append, List.length_append]
  have back : (linesOf text).drop ((linesOf text).length - tail.length) = tail := by
    rw [count, Nat.add_sub_cancel, ← whole, ← List.length_append, List.drop_left']
    rfl
  have omitted : (linesOf text).length - head.length - tail.length = middle.length := by
    omega
  rw [kept]
  simp only [keeps.head_eq, keeps.tail_eq, front, back, omitted, List.length_eq_zero_iff]

theorem cut_zero {limit : Nat} {text : List Char} (short : limit ≤ text.length) :
    Match.cut text 0 limit = text.take limit := by
  have room : 0 + limit ≤ text.length := (Nat.zero_add limit).symm ▸ short
  have front := Match.cut_natCast room
  rwa [Nat.zero_add, List.drop_zero] at front

section

variable {limit : Nat} {text : String}

theorem excerpt_of_le (short : text.length ≤ limit) : excerpt limit text = text :=
  if_pos (by rwa [String.length_toList, Int.ofNat_le])

theorem toList_excerpt_of_lt (long : limit < text.length) :
    (excerpt limit text).toList = kept limit text.toList ++
      excerptNotice text.length (linesOf text.toList).length limit := by
  have tooLong : ¬ (text.toList.length : Int) ≤ limit := by
    rwa [String.length_toList, Int.ofNat_le, Nat.not_le]
  simp only [excerpt, if_neg tooLong]
  rw [String.toList_ofList, String.length_toList]

end

/-- A text that fits is left as it is. Of a longer one whole lines are kept at the beginning and the
end, and the number of those between them is stated exactly. If not even the first line fits, the
text is cut at the limit. -/
theorem excerpt_keeps_whole_lines (limit : Nat) (text : String) :
    (text.length ≤ limit → excerpt limit text = text) ∧
      (limit < text.length →
        ∃ first others, text.toList.splitOn '\n' = first :: others ∧
          (first.length + 1 ≤ limit → ∃ head omitted tail,
            AreCutDown limit (first :: others) head omitted tail ∧
            (excerpt limit text).toList =
              List.intercalate ['\n'] (head ++ omittedLine omitted.length :: tail) ++
                excerptNotice text.length (first :: others).length limit) ∧
          (limit < first.length + 1 → (excerpt limit text).toList =
            text.toList.take limit ++ "\n[... rest OMITTED ...]".toList ++
              excerptNotice text.length (first :: others).length limit)) := by
  refine ⟨excerpt_of_le, fun long => ?_⟩
  obtain ⟨first, others, split⟩ := List.exists_cons_of_ne_nil (linesOf_ne_nil text.toList)
  obtain ⟨head, middle, tail, keeps, whole, fits, full⟩ :=
    Selection.exists_keeps_ofLines (Int.natCast_nonneg limit) (linesOf text.toList)
  have begun := keeps.head_ne_nil_iff (whole.trans split) (Int.ofNat_le.mp fits) full
  have gap := middle_ne_nil (String.length_toList ▸ long) whole (Int.ofNat_le.mp fits)
  rw [toList_excerpt_of_lt long, kept_of_keeps keeps whole, ← linesOf_eq_splitOn, split]
  refine ⟨first, others, rfl, fun room => ⟨head, middle, tail, ?_, ?_⟩, fun noRoom => ?_⟩
  · exact ⟨whole.trans split, begun.mpr room, gap, keeps.turns, Int.ofNat_le.mp fits, full⟩
  · rw [if_neg (begun.mpr room)]
  · have nothing : head = [] :=
      Decidable.byContradiction fun filled => Nat.not_lt.mpr (begun.mp filled) noRoom
    rw [if_pos nothing, cut_zero (String.length_toList ▸ Nat.le_of_lt long)]

/-- A report of five lines. -/
def fiveLines : String := "aa\nbb\ncc\ndd\nee"

/-- Of five lines the first and the last one are kept if there is room for two. -/
theorem excerpt_keeps_ends_of_five_lines :
    6 < fiveLines.length ∧ "aa".length + 1 ≤ 6 ∧
      kept 6 fiveLines.toList = "aa\n[... 3 lines OMITTED ...]\nee".toList ∧
      ∃ head omitted tail,
        AreCutDown 6 (["aa", "bb", "cc", "dd", "ee"].map String.toList) head omitted tail ∧
        (excerpt 6 fiveLines).toList =
          List.intercalate ['\n'] (head ++ omittedLine omitted.length :: tail) ++
            excerptNotice 14 5 6 := by
  have long : 6 < fiveLines.length := by decide
  have lines : fiveLines.toList.splitOn '\n' =
      ["aa", "bb", "cc", "dd", "ee"].map String.toList := by decide
  obtain ⟨first, others, split, whole, -⟩ := (excerpt_keeps_whole_lines 6 fiveLines).2 long
  rw [lines, List.map_cons] at split
  obtain ⟨rfl, rfl⟩ := List.cons.inj split
  exact ⟨long, by decide, by decide +kernel, whole (by decide)⟩

end JsonSeek.Report
