import JsonSeek.Match.Matcher
import JsonSeek.Proofs.Occurrences

/-!
# What marks leave of a text

Marking spans adds the marks and nothing else: the spans that are marked are in order and apart from
each other, so that every character of the text is copied exactly once. The spans that a matcher
reports start within the text, so that this holds of them.
-/

namespace JsonSeek.Match

/-! ## Cutting a text up -/

theorem offsetIn_le_offsetIn {length : Nat} {i j : Int} (start : 0 ≤ i) (le : i ≤ j) :
    offsetIn length i ≤ offsetIn length j := by
  unfold offsetIn
  split <;> split <;> omega

/-- A piece, followed by what comes behind it, is all that comes behind its start. -/
theorem cut_append_drop (text : List Char) {start stop : Int} (inside : 0 ≤ start)
    (forward : start ≤ stop) :
    cut text start stop ++ text.drop (offsetIn text.length stop) =
      text.drop (offsetIn text.length start) := by
  have le : offsetIn text.length start ≤ offsetIn text.length stop :=
    offsetIn_le_offsetIn inside forward
  have behind : text.drop (offsetIn text.length stop) =
      (text.drop (offsetIn text.length start)).drop
        (offsetIn text.length stop - offsetIn text.length start) := by
    rw [List.drop_drop, Nat.add_sub_cancel' le]
  rw [behind]
  exact List.take_append_drop _ _

theorem cut_to_end (text : List Char) (start : Int) :
    cut text start text.length = text.drop (offsetIn text.length start) := by
  have last : offsetIn text.length text.length = text.length := by
    unfold offsetIn
    split <;> omega
  refine List.take_of_length_le (Nat.le_of_eq ?_)
  rw [last, List.length_drop]

theorem offsetIn_natCast {length i : Nat} (short : i ≤ length) : offsetIn length i = i := by
  rw [offsetIn, if_neg (by omega), Int.toNat_natCast, Nat.min_eq_left short]

theorem cut_natCast {text : List Char} {first size : Nat} (short : first + size ≤ text.length) :
    cut text first (first + size : Nat) = (text.drop first).take size := by
  rw [cut, offsetIn_natCast (Nat.le_of_add_right_le short), offsetIn_natCast short]
  exact congrArg (List.take · (text.drop first)) (Nat.add_sub_cancel_left first size)

/-- A piece is cut out between what stands before and behind it. -/
theorem cut_append (first piece last : List Char) :
    cut (first ++ (piece ++ last)) first.length (first.length + piece.length : Nat) = piece := by
  rw [cut_natCast (by simp only [List.length_append]; omega), List.drop_left, List.take_left]

theorem exists_of_cut {text : List Char} {first size : Nat} (short : first + size ≤ text.length) :
    ∃ before piece behind, text = before ++ (piece ++ behind) ∧ before.length = first ∧
      piece.length = size ∧ cut text first (first + size : Nat) = piece := by
  refine ⟨text.take first, (text.drop first).take size, (text.drop first).drop size, ?_, ?_, ?_,
    cut_natCast short⟩
  · rw [List.take_append_drop, List.take_append_drop]
  · rw [List.length_take]
    omega
  · rw [List.length_take, List.length_drop]
    omega

theorem mem_of_mem_cut {text : List Char} {start stop : Int} {c : Char}
    (inside : c ∈ cut text start stop) : c ∈ text :=
  List.mem_of_mem_drop (List.mem_of_mem_take inside)

/-! ## Spans in order -/

/-- Spans in order and apart from each other, none of which starts before the cursor. -/
def InOrder (cursor : Int) : List Span → Prop
  | [] => True
  | span :: rest => cursor ≤ span.start ∧ span.start ≤ span.stop ∧ InOrder span.stop rest

/-- Joining leaves spans in order: the next one either starts behind the current one or makes it
longer. -/
theorem inOrder_joinFrom {cursor : Int} {current : Span} {rest : List Span}
    (start : cursor ≤ current.start) (forward : current.start ≤ current.stop)
    (forwards : ∀ span ∈ rest, span.start ≤ span.stop) :
    InOrder cursor (joinFrom current rest) := by
  induction rest generalizing cursor current with
  | nil => exact ⟨start, forward, trivial⟩
  | cons next rest ih =>
      have further := fun span inside => forwards span (List.mem_cons_of_mem next inside)
      rw [joinFrom]
      split
      · exact ih start (Int.le_trans forward (Int.le_max_right _ _)) further
      · rename_i apart
        exact ⟨start, forward,
          ih (Int.le_of_lt (Int.not_le.mp apart)) (forwards next List.mem_cons_self) further⟩

theorem inOrder_joinSpans {cursor : Int} {spans : List Span}
    (starts : ∀ span ∈ spans, cursor ≤ span.start) : InOrder cursor (joinSpans spans) := by
  have kept : ∀ span ∈ (spans.mergeSort Span.notAfter).filter fun s => s.start < s.stop,
      span ∈ spans ∧ span.start ≤ span.stop := fun span inside => by
    obtain ⟨sorted, forward⟩ := List.mem_filter.mp inside
    exact ⟨List.mem_mergeSort.mp sorted, Int.le_of_lt (of_decide_eq_true forward)⟩
  unfold joinSpans
  split
  · trivial
  · rename_i first rest split
    rw [split] at kept
    obtain ⟨given, forward⟩ := kept first List.mem_cons_self
    exact inOrder_joinFrom (starts first given) forward fun span inside =>
      (kept span (List.mem_cons_of_mem first inside)).2

/-! ## Characters that are no marks -/

section

variable {text opening closing : List Char}

/-- Of the characters of which none stands in the marks, the marked text holds those that are left
of the text, in order. -/
theorem filter_markFrom {p : Char → Bool} (plainOpening : opening.filter p = [])
    (plainClosing : closing.filter p = []) {cursor : Int} {spans : List Span} (inside : 0 ≤ cursor)
    (ordered : InOrder cursor spans) :
    (markFrom text opening closing cursor spans).filter p =
      (text.drop (offsetIn text.length cursor)).filter p := by
  induction spans generalizing cursor with
  | nil => rw [markFrom, cut_to_end]
  | cons span rest ih =>
      obtain ⟨start, forward, ordered⟩ := ordered
      have startInside : 0 ≤ span.start := Int.le_trans inside start
      have before := cut_append_drop text inside start
      have within := cut_append_drop text startInside forward
      rw [markFrom, ← before, ← within]
      simp only [List.filter_append, ih (Int.le_trans startInside forward) ordered, plainOpening,
        plainClosing, List.nil_append, List.append_assoc]

end

theorem filter_wrapSpans {text opening closing : String} {p : Char → Bool}
    (plainOpening : opening.toList.filter p = []) (plainClosing : closing.toList.filter p = [])
    {spans : List Span} (starts : ∀ span ∈ spans, 0 ≤ span.start) :
    (wrapSpans text opening closing spans).toList.filter p = text.toList.filter p := by
  rw [wrapSpans, String.toList_ofList,
    filter_markFrom plainOpening plainClosing (Int.le_refl 0) (inOrder_joinSpans starts)]
  rfl

/-- A character that does not stand in the marks stands in the marked text as often as in the
text. -/
theorem count_wrapSpans {text opening closing : String} {a : Char}
    (plainOpening : a ∉ opening.toList) (plainClosing : a ∉ closing.toList) {spans : List Span}
    (starts : ∀ span ∈ spans, 0 ≤ span.start) :
    (wrapSpans text opening closing spans).toList.count a = text.toList.count a := by
  have none (marks : List Char) (plain : a ∉ marks) : marks.filter (· == a) = [] := by
    rw [List.filter_eq_nil_iff]
    rintro c inside same
    exact plain (eq_of_beq same ▸ inside)
  simp only [List.count_eq_countP, List.countP_eq_length_filter,
    filter_wrapSpans (none _ plainOpening) (none _ plainClosing) starts]

/-! ## Reported spans -/

/-- No span that a matcher reports starts before the text. -/
theorem Matcher.start_nonneg_of_mem_positions {m : Matcher} {text : List Char} {outcome : Outcome}
    (ran : m.run text = .ok outcome) {span : Span} (inside : span ∈ outcome.positions) :
    0 ≤ span.start := by
  cases m with
  | simple caseSensitive query =>
      cases ran
      simp only [runSimple] at inside
      split at inside
      · obtain ⟨-, i, -, -, rfl⟩ := exists_of_mem_occurrences inside
        exact Int.natCast_nonneg i
      · cases inside
  | fuzzy caseSensitive query threshold =>
      cases ran
      simp only [runFuzzy] at inside
      split at inside
      · obtain ⟨i, -, rfl⟩ := List.mem_map.mp inside
        exact Int.natCast_nonneg i
      · cases inside
  | regex pattern =>
      cases pattern with
      | none =>
          cases ran
          cases inside
      | some pattern =>
          simp only [run] at ran
          split at ran
          · cases ran
            simp only [outcomeOfMatches] at inside
            split at inside
            · cases inside
            · obtain ⟨found, -, rfl⟩ := List.mem_map.mp inside
              exact Int.natCast_nonneg found.1
          · cases ran

end JsonSeek.Match
