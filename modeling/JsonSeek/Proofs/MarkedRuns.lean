import JsonSeek.Proofs.MarkedText

/-!
# Marks around covered characters

Which characters of a text are marked depends only on which of them some span covers. `enclosed` is
the text with marks around every run of covered characters, as long as it can be, and marking any
spans that lie within the text gives just this (`wrapSpans_eq_enclosed`), in whatever order they
come and however they overlap.
-/

namespace JsonSeek.Match

/-! ## Runs of covered characters -/

/-- Whether a span covers the character at an offset. -/
def isCovered (spans : List Span) (i : Int) : Bool :=
  spans.any fun span => span.start ≤ i && i < span.stop

/-- A character with the marks that stand next to it: an opening one if a run of covered characters
begins with it, and a closing one if the run ends with it. -/
def encloseChar (opening closing : List Char) (covered : Int → Bool) (offset : Int) (c : Char) :
    List Char :=
  (if covered offset && !covered (offset - 1) then opening else []) ++
    c :: (if covered offset && !covered (offset + 1) then closing else [])

/-- A text whose first character has the given offset, with marks around its covered runs. -/
def encloseFrom (opening closing : List Char) (covered : Int → Bool) (offset : Int) :
    List Char → List Char
  | [] => []
  | c :: rest =>
    encloseChar opening closing covered offset c ++
      encloseFrom opening closing covered (offset + 1) rest

/-- The text with marks around every run of characters that the spans cover. -/
def enclosed (text opening closing : String) (spans : List Span) : String :=
  String.ofList
    (encloseFrom opening.toList closing.toList (isCovered spans) 0 text.toList)

section

variable {opening closing : List Char} {covered : Int → Bool}

theorem encloseFrom_append (offset : Int) (s t : List Char) :
    encloseFrom opening closing covered offset (s ++ t) =
      encloseFrom opening closing covered offset s ++
        encloseFrom opening closing covered (offset + s.length) t := by
  induction s generalizing offset with
  | nil => simp [encloseFrom]
  | cons c rest ih =>
      have further : offset + 1 + (rest.length : Int) = offset + (c :: rest).length := by
        rw [List.length_cons]
        omega
      rw [List.cons_append, encloseFrom, encloseFrom, ih, further, List.append_assoc]

theorem encloseChar_of_uncovered {offset : Int} (bare : covered offset = false) (c : Char) :
    encloseChar opening closing covered offset c = [c] := by
  simp [encloseChar, bare]

/-- Characters that are not covered are copied. -/
theorem encloseFrom_of_uncovered {offset : Int} {s : List Char}
    (bare : ∀ i, offset ≤ i → i < offset + s.length → covered i = false) :
    encloseFrom opening closing covered offset s = s := by
  induction s generalizing offset with
  | nil => rfl
  | cons c rest ih =>
      rw [List.length_cons] at bare
      rw [encloseFrom, encloseChar_of_uncovered (bare offset (Int.le_refl offset) (by omega)),
        ih fun i start stop => bare i (by omega) (by omega)]
      rfl

/-- A run ends with the closing mark, and begins with the opening one unless it has begun before. -/
theorem encloseFrom_of_run {offset : Int} {s : List Char} (nonempty : s ≠ [])
    (run : ∀ i, offset ≤ i → i < offset + s.length → covered i = true)
    (ends : covered (offset + s.length) = false) :
    encloseFrom opening closing covered offset s =
      (if covered (offset - 1) then [] else opening) ++ s ++ closing := by
  induction s generalizing offset with
  | nil => exact absurd rfl nonempty
  | cons c rest ih =>
      rw [List.length_cons] at run ends
      have here : covered offset = true := run offset (Int.le_refl offset) (by omega)
      cases rest with
      | nil =>
          have next : covered (offset + 1) = false := ends
          rw [encloseFrom, encloseChar, here, next]
          cases covered (offset - 1) <;> simp [encloseFrom]
      | cons d rest =>
          have next : covered (offset + 1) = true := by
            refine run _ (by omega) ?_
            rw [List.length_cons]
            omega
          have size : offset + 1 + ((d :: rest).length : Int) =
              offset + ((d :: rest).length + 1 : Nat) := by omega
          have further := ih (List.cons_ne_nil d rest)
            (fun i start stop => run i (by omega) (by omega)) (size ▸ ends)
          rw [Int.add_sub_cancel, if_pos here] at further
          rw [encloseFrom, encloseChar, here, next, further]
          cases covered (offset - 1) <;> simp

/-- Only what is covered from the first character on matters, and whether a run that goes on there
has begun before. -/
theorem encloseFrom_congr {covered' : Int → Bool} {offset : Int} {s : List Char}
    (before : covered offset = true → covered (offset - 1) = covered' (offset - 1))
    (same : ∀ i, offset ≤ i → covered i = covered' i) :
    encloseFrom opening closing covered offset s =
      encloseFrom opening closing covered' offset s := by
  induction s generalizing offset with
  | nil => rfl
  | cons c rest ih =>
      have head : encloseChar opening closing covered offset c =
          encloseChar opening closing covered' offset c := by
        unfold encloseChar
        rw [← same offset (Int.le_refl offset), ← same (offset + 1) (by omega)]
        cases here : covered offset with
        | false => rfl
        | true => rw [before here]
      have tail : encloseFrom opening closing covered (offset + 1) rest =
          encloseFrom opening closing covered' (offset + 1) rest := by
        refine ih (fun _ => ?_) fun i behind => same i (by omega)
        rw [Int.add_sub_cancel]
        exact same offset (Int.le_refl offset)
      rw [encloseFrom, encloseFrom, head, tail]

end

/-! ## What spans cover -/

section

variable {spans rest : List Span} {current : Span} {i : Int}

theorem isCovered_cons (span : Span) (rest : List Span) (i : Int) :
    isCovered (span :: rest) i = ((span.start ≤ i && i < span.stop) || isCovered rest i) :=
  List.any_cons

theorem isCovered_eq_false_of_lt (behind : ∀ span ∈ spans, i < span.start) :
    isCovered spans i = false := by
  refine List.any_eq_false.mpr fun span inside => ?_
  have start := behind span inside
  simp only [Bool.and_eq_true, decide_eq_true_eq]
  omega

theorem isCovered_cons_of_within (start : current.start ≤ i) (stop : i < current.stop) :
    isCovered (current :: rest) i = true := by
  rw [isCovered_cons, decide_eq_true start, decide_eq_true stop]
  rfl

theorem isCovered_cons_of_le (behind : current.stop ≤ i) :
    isCovered (current :: rest) i = isCovered rest i := by
  rw [isCovered_cons, decide_eq_false (Int.not_lt.mpr behind), Bool.and_false, Bool.false_or]

/-- Sorting spans and dropping those that cover nothing leaves what they cover. -/
theorem isCovered_sorted (spans : List Span) (i : Int) :
    isCovered ((spans.mergeSort Span.notAfter).filter fun s => s.start < s.stop) i =
      isCovered spans i := by
  have redundant (span : Span) : (decide (span.start < span.stop) &&
      (decide (span.start ≤ i) && decide (i < span.stop))) =
        (decide (span.start ≤ i) && decide (i < span.stop)) := by
    rw [Bool.eq_iff_iff]
    simp only [Bool.and_eq_true, decide_eq_true_eq]
    omega
  unfold isCovered
  rw [List.any_filter]
  simp only [redundant]
  exact (List.mergeSort_perm spans Span.notAfter).any_eq

theorem pairwise_start_mergeSort (spans : List Span) :
    (spans.mergeSort Span.notAfter).Pairwise fun a b => a.start ≤ b.start := by
  have trans (a b c : Span) : a.notAfter b = true → b.notAfter c = true → a.notAfter c = true := by
    simp only [Span.notAfter, Bool.or_eq_true, Bool.and_eq_true, decide_eq_true_eq, beq_iff_eq]
    omega
  have total (a b : Span) : (a.notAfter b || b.notAfter a) = true := by
    simp only [Span.notAfter, Bool.or_eq_true, Bool.and_eq_true, decide_eq_true_eq, beq_iff_eq]
    omega
  refine (List.pairwise_mergeSort trans total spans).imp fun {a b} ordered => ?_
  simp only [Span.notAfter, Bool.or_eq_true, Bool.and_eq_true, decide_eq_true_eq,
    beq_iff_eq] at ordered
  omega

theorem pairwise_start_joined {next : Span} (stop : Int)
    (sorted : (current :: next :: rest).Pairwise fun a b => a.start ≤ b.start) :
    (⟨current.start, stop⟩ :: rest : List Span).Pairwise fun a b => a.start ≤ b.start := by
  obtain ⟨first, sorted⟩ := List.pairwise_cons.mp sorted
  exact List.pairwise_cons.mpr
    ⟨fun span inside => first span (List.mem_cons_of_mem next inside), sorted.of_cons⟩

/-- A joined span covers what its two parts cover, since there is no gap between them. -/
theorem isCovered_joinFrom (sorted : (current :: rest).Pairwise fun a b => a.start ≤ b.start)
    (i : Int) : isCovered (joinFrom current rest) i = isCovered (current :: rest) i := by
  induction rest generalizing current with
  | nil => rfl
  | cons next rest ih =>
      have ordered := (List.pairwise_cons.mp sorted).1 next List.mem_cons_self
      rw [joinFrom]
      split
      · rename_i touching
        rw [ih (pairwise_start_joined _ sorted)]
        simp only [isCovered_cons, ← Bool.or_assoc]
        congr 1
        rw [Bool.eq_iff_iff]
        simp only [Bool.or_eq_true, Bool.and_eq_true, decide_eq_true_eq]
        omega
      · rw [isCovered_cons, ih sorted.of_cons, isCovered_cons current]

theorem isCovered_joinSpans (spans : List Span) (i : Int) :
    isCovered (joinSpans spans) i = isCovered spans i := by
  have sorted := (pairwise_start_mergeSort spans).filter fun s => s.start < s.stop
  rw [← isCovered_sorted spans i]
  unfold joinSpans
  split
  · rename_i empty
    rw [empty]
  · rename_i first rest split
    rw [split] at sorted ⊢
    exact isCovered_joinFrom sorted i

/-! ## Joined spans -/

/-- A joined span begins as one of the given spans, with all of it, and ends as one of them. -/
theorem exists_of_mem_joinFrom {span : Span} (inside : span ∈ joinFrom current rest) :
    (∃ a ∈ current :: rest, span.start = a.start ∧ a.stop ≤ span.stop) ∧
      ∃ b ∈ current :: rest, span.stop = b.stop := by
  induction rest generalizing current with
  | nil =>
      cases List.mem_singleton.mp inside
      exact ⟨⟨_, inside, rfl, Int.le_refl _⟩, _, inside, rfl⟩
  | cons next rest ih =>
      rw [joinFrom] at inside
      split at inside
      · obtain ⟨⟨a, givenStart, start, within⟩, b, givenStop, stop⟩ := ih inside
        constructor
        · rcases List.mem_cons.mp givenStart with rfl | given
          · exact ⟨current, List.mem_cons_self, start,
              Int.le_trans (Int.le_max_right _ _) within⟩
          · exact ⟨a, List.mem_cons_of_mem _ (List.mem_cons_of_mem _ given), start, within⟩
        · rcases List.mem_cons.mp givenStop with rfl | given
          · rcases Int.le_total next.stop current.stop with shorter | longer
            · exact ⟨current, List.mem_cons_self, stop.trans (Int.max_eq_right shorter)⟩
            · exact ⟨next, List.mem_cons_of_mem _ List.mem_cons_self,
                stop.trans (Int.max_eq_left longer)⟩
          · exact ⟨b, List.mem_cons_of_mem _ (List.mem_cons_of_mem _ given), stop⟩
      · rcases List.mem_cons.mp inside with rfl | inside
        · exact ⟨⟨_, List.mem_cons_self, rfl, Int.le_refl _⟩, _, List.mem_cons_self, rfl⟩
        · obtain ⟨⟨a, givenStart, begins⟩, b, givenStop, stop⟩ := ih inside
          exact ⟨⟨a, List.mem_cons_of_mem _ givenStart, begins⟩, b,
            List.mem_cons_of_mem _ givenStop, stop⟩

/-- There is a gap behind every joined span but the last. -/
theorem pairwise_joinFrom (sorted : (current :: rest).Pairwise fun a b => a.start ≤ b.start) :
    (joinFrom current rest).Pairwise fun a b => a.stop < b.start := by
  induction rest generalizing current with
  | nil => exact List.pairwise_singleton _ _
  | cons next rest ih =>
      rw [joinFrom]
      split
      · exact ih (pairwise_start_joined _ sorted)
      · rename_i apart
        refine List.pairwise_cons.mpr ⟨fun span inside => ?_, ih sorted.of_cons⟩
        obtain ⟨⟨a, given, start, -⟩, -⟩ := exists_of_mem_joinFrom inside
        have behind : next.start ≤ a.start := by
          rcases List.mem_cons.mp given with rfl | given
          · exact Int.le_refl _
          · exact (List.pairwise_cons.mp sorted.of_cons).1 a given
        omega

/-- The spans that are marked cover something each, lie where the given ones lie and have gaps
between them. -/
theorem joinSpans_spec {most : Int} (bounds : ∀ span ∈ spans, 0 ≤ span.start ∧ span.stop ≤ most) :
    (∀ span ∈ joinSpans spans, 0 ≤ span.start ∧ span.start < span.stop ∧ span.stop ≤ most) ∧
      (joinSpans spans).Pairwise fun a b => a.stop < b.start := by
  have sorted := (pairwise_start_mergeSort spans).filter fun s => s.start < s.stop
  have kept : ∀ span ∈ (spans.mergeSort Span.notAfter).filter fun s => s.start < s.stop,
      (0 ≤ span.start ∧ span.stop ≤ most) ∧ span.start < span.stop := by
    intro span inside
    obtain ⟨given, forward⟩ := List.mem_filter.mp inside
    exact ⟨bounds span (List.mem_mergeSort.mp given), of_decide_eq_true forward⟩
  unfold joinSpans
  split
  · exact ⟨List.forall_mem_nil _, List.Pairwise.nil⟩
  · rename_i first rest split
    rw [split] at sorted kept
    refine ⟨fun span inside => ?_, pairwise_joinFrom sorted⟩
    obtain ⟨⟨a, givenStart, start, within⟩, b, givenStop, stop⟩ := exists_of_mem_joinFrom inside
    have := kept a givenStart
    have := kept b givenStop
    omega

end

/-! ## Marking -/

section

variable {text opening closing : List Char}

theorem start_add_length_cut {start stop : Int} (inside : 0 ≤ start) (forward : start ≤ stop)
    (short : stop ≤ text.length) : start + ((cut text start stop).length : Int) = stop := by
  unfold cut offsetIn
  rw [List.length_take, List.length_drop, if_neg (by omega), if_neg (by omega)]
  omega

/-- The first span is a run of its own if there is a gap behind it. -/
theorem encloseFrom_cut (opening closing : List Char) {span : Span} {rest : List Span}
    (start : 0 ≤ span.start) (forward : span.start < span.stop) (short : span.stop ≤ text.length)
    (gap : ∀ next ∈ rest, span.stop < next.start) :
    encloseFrom opening closing (isCovered (span :: rest)) span.start
      (cut text span.start span.stop) = opening ++ cut text span.start span.stop ++ closing := by
  have size := start_add_length_cut start (Int.le_of_lt forward) short
  have nonempty : cut text span.start span.stop ≠ [] := by
    refine List.length_pos_iff.mp ?_
    omega
  have before : isCovered (span :: rest) (span.start - 1) = false := by
    refine isCovered_eq_false_of_lt (List.forall_mem_cons.mpr ⟨by omega, fun next inside => ?_⟩)
    have behind := gap next inside
    omega
  have run : ∀ i, span.start ≤ i → i < span.start + (cut text span.start span.stop).length →
      isCovered (span :: rest) i = true := by
    rw [size]
    exact fun i => isCovered_cons_of_within
  have ends : isCovered (span :: rest) (span.start + (cut text span.start span.stop).length) =
      false := by
    rw [size, isCovered_cons_of_le (Int.le_refl _)]
    exact isCovered_eq_false_of_lt gap
  rw [encloseFrom_of_run nonempty run ends, before]
  rfl

/-- Marking spans with gaps between them encloses what they cover: up to the first span nothing is
covered, the first span is a run, and behind it only the other spans matter. -/
theorem markFrom_eq_encloseFrom {cursor : Int} {spans : List Span} (start : 0 ≤ cursor)
    (bounds : ∀ span ∈ spans,
      cursor ≤ span.start ∧ span.start < span.stop ∧ span.stop ≤ text.length)
    (gaps : spans.Pairwise fun a b => a.stop < b.start) :
    markFrom text opening closing cursor spans =
      encloseFrom opening closing (isCovered spans) cursor
        (text.drop (offsetIn text.length cursor)) := by
  induction spans generalizing cursor with
  | nil =>
      rw [markFrom, cut_to_end]
      exact (encloseFrom_of_uncovered fun _ _ _ => rfl).symm
  | cons span rest ih =>
      obtain ⟨⟨behind, forward, short⟩, bounds⟩ := List.forall_mem_cons.mp bounds
      obtain ⟨gap, gaps⟩ := List.pairwise_cons.mp gaps
      have inside : 0 ≤ span.start := Int.le_trans start behind
      have sizeBefore := start_add_length_cut start behind (by omega : span.start ≤ text.length)
      have size := start_add_length_cut inside (Int.le_of_lt forward) short
      have before : encloseFrom opening closing (isCovered (span :: rest)) cursor
          (cut text cursor span.start) = cut text cursor span.start := by
        refine encloseFrom_of_uncovered fun i _ left => isCovered_eq_false_of_lt ?_
        refine List.forall_mem_cons.mpr ⟨by omega, fun next inside => ?_⟩
        have behind := gap next inside
        omega
      have within := encloseFrom_cut opening closing inside forward short gap
      have further : markFrom text opening closing span.stop rest =
          encloseFrom opening closing (isCovered (span :: rest)) span.stop
            (text.drop (offsetIn text.length span.stop)) := by
        rw [ih (by omega) (fun next inside => ⟨Int.le_of_lt (gap next inside),
          (bounds next inside).2⟩) gaps]
        refine encloseFrom_congr (fun covered => ?_) fun i behind =>
          (isCovered_cons_of_le behind).symm
        rw [isCovered_eq_false_of_lt gap] at covered
        cases covered
      have parted := cut_append_drop text start behind
      have partedAgain := cut_append_drop text inside (Int.le_of_lt forward)
      rw [markFrom, further, ← parted, ← partedAgain, encloseFrom_append, encloseFrom_append,
        sizeBefore, size, before, within]
      simp only [List.append_assoc]

end

theorem enclosed_nil (text opening closing : String) : enclosed text opening closing [] = text := by
  have bare : encloseFrom opening.toList closing.toList (isCovered []) 0 text.toList =
      text.toList :=
    encloseFrom_of_uncovered fun _ _ _ => rfl
  rw [enclosed, bare, String.ofList_toList]

/-- Marking spans that lie within a text encloses what they cover. -/
theorem wrapSpans_eq_enclosed {text : String} (opening closing : String) {spans : List Span}
    (bounds : ∀ span ∈ spans, 0 ≤ span.start ∧ span.stop ≤ text.toList.length) :
    wrapSpans text opening closing spans = enclosed text opening closing spans := by
  obtain ⟨joinedBounds, gaps⟩ := joinSpans_spec bounds
  have same : isCovered (joinSpans spans) = isCovered spans := funext (isCovered_joinSpans spans)
  rw [wrapSpans, enclosed, markFrom_eq_encloseFrom (Int.le_refl 0) joinedBounds gaps, same]
  rfl

end JsonSeek.Match
