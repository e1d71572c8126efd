import JsonSeek.Json.Writer
import JsonSeek.Proofs.Document
import JsonSeek.Proofs.PathImitation

/-!
# JSON text on one line

JSON text in the layout with blanks stands on one line: the texts of numbers hold none but digits,
letters, points and signs, and the newlines of strings are escaped.
-/

namespace JsonSeek

/-! ## Numbers -/

namespace Text

theorem newline_notMem_repr (i : Int) : '\n' ∉ i.repr.toList := fun inside => by
  rcases Path.isDigit_of_mem_index inside with digit | sign
  · exact absurd digit (by decide)
  · exact absurd sign (by decide)

theorem newline_notMem_hexDigits (width n : Nat) : '\n' ∉ hexDigits width n := by
  have plain : ∀ d < 16, Nat.digitChar d ≠ '\n' := by decide
  intro inside
  obtain ⟨place, -, digit⟩ := List.mem_map.mp inside
  exact plain _ (Nat.mod_lt _ (by decide)) digit

end Text

namespace Binary64

theorem newline_notMem_digitsOf (n : Nat) : '\n' ∉ digitsOf n := fun inside =>
  absurd (Text.isDigit_of_mem_toDigits inside) (by decide)

theorem newline_notMem_ofScaled (n : Nat) (exponent : Int) :
    '\n' ∉ (Digits.ofScaled n exponent).digits := by
  simp only [Digits.ofScaled]
  split
  · decide
  · intro inside
    have stripped := List.mem_reverse.mp inside
    have within := (List.dropWhile_sublist _).subset stripped
    exact newline_notMem_digitsOf n (List.mem_reverse.mp within)

theorem newline_notMem_shortestDigits (mantissa : Nat) (exponent : Int) :
    '\n' ∉ (shortestDigits mantissa exponent).digits := by
  simp only [shortestDigits]
  split
  · decide
  · generalize found : List.findSome? _ _ = digits?
    cases digits? with
    | none => exact newline_notMem_ofScaled _ _
    | some digits =>
        obtain ⟨k, -, shortened⟩ := List.exists_of_findSome?_eq_some found
        obtain ⟨n, -, rfl⟩ := Option.map_eq_some_iff.mp shortened
        exact newline_notMem_ofScaled _ _

theorem newline_notMem_roundedDigits (mantissa : Nat) (exponent : Int) (n : Nat) :
    '\n' ∉ (roundedDigits mantissa exponent n).digits := by
  simp only [roundedDigits]
  split
  · decide
  · exact newline_notMem_ofScaled _ _

theorem newline_notMem_exponentText (e : Int) : '\n' ∉ exponentText e := by
  have digits := newline_notMem_digitsOf e.natAbs
  simp only [exponentText]
  split <;> split <;> simp [digits]

/-- Laying digits out adds zeros, points, marks and signs. -/
theorem newline_notMem_write (layout : Layout) {d : Digits} (plain : '\n' ∉ d.digits) :
    '\n' ∉ layout.write d := by
  have exponents := newline_notMem_exponentText (d.point - 1)
  have front {n : Nat} : '\n' ∉ d.digits.take n := fun inside =>
    plain (List.mem_of_mem_take inside)
  have back {n : Nat} : '\n' ∉ d.digits.drop n := fun inside =>
    plain (List.mem_of_mem_drop inside)
  simp only [Layout.write]
  split
  · split
    · simp [zeros, plain]
    · split
      · cases layout.keepsPoint <;> simp [zeros, plain]
      · simp [front, back]
  · split
    · exact List.not_mem_nil
    · rename_i single
      rw [single] at plain
      simpa [exponents] using plain
    · rename_i several
      rw [several] at plain
      simpa [exponents] using plain

theorem newline_notMem_signText (negative : Bool) : '\n' ∉ signText negative := by
  cases negative <;> decide

theorem newline_notMem_text (x : Binary64) : '\n' ∉ x.text.toList := by
  cases x with
  | nan => decide
  | infinite negative => cases negative <;> decide
  | finite negative mantissa exponent =>
      rw [text, String.toList_ofList]
      exact List.not_mem_append (newline_notMem_signText negative)
        (newline_notMem_write _ (newline_notMem_shortestDigits mantissa exponent))

theorem newline_notMem_generalText (x : Binary64) : '\n' ∉ x.generalText.toList := by
  cases x with
  | nan => decide
  | infinite negative => cases negative <;> decide
  | finite negative mantissa exponent =>
      rw [generalText, String.toList_ofList]
      exact List.not_mem_append (newline_notMem_signText negative)
        (newline_notMem_write _ (newline_notMem_roundedDigits mantissa exponent 6))

end Binary64

/-! ## Values -/

namespace Json

theorem newline_notMem_ite {p : Prop} [Decidable p] {s t : List Char} (yes : '\n' ∉ s)
    (no : '\n' ∉ t) : '\n' ∉ if p then s else t := by
  split
  · exact yes
  · exact no

theorem newline_notMem_escapeChar (c : Char) : '\n' ∉ escapeChar c := by
  have digits := Text.newline_notMem_hexDigits 4 c.toNat
  by_cases same : '\n' = c
  · subst same
    decide
  · have word (letter : Char) (plain : '\n' ≠ letter) : '\n' ∉ ['\\', letter] := by
      simp [plain]
    refine newline_notMem_ite (word c same) (newline_notMem_ite (word 'n' (by decide)) ?_)
    refine newline_notMem_ite (word 'r' (by decide)) (newline_notMem_ite (word 't' (by decide)) ?_)
    refine newline_notMem_ite (word 'f' (by decide)) (newline_notMem_ite (word 'b' (by decide)) ?_)
    exact newline_notMem_ite (by simp [digits]) (by simp [same])

theorem newline_notMem_writeString (s : String) : '\n' ∉ writeString s := by
  have escaped : '\n' ∉ s.toList.flatMap escapeChar := fun inside => by
    obtain ⟨c, -, inside⟩ := List.mem_flatMap.mp inside
    exact newline_notMem_escapeChar c inside
  simp [writeString, escaped]

theorem newline_notMem_writeBinary64 (x : Binary64) : '\n' ∉ writeBinary64 x := by
  cases x with
  | nan => decide
  | infinite negative => cases negative <;> decide
  | finite negative mantissa exponent => exact Binary64.newline_notMem_text _

theorem itemTexts_eq_map (layout : Layout) (depth : Nat) (items : List Value) :
    itemTexts layout depth items = items.map (writeAt layout depth) := by
  induction items with
  | nil => rfl
  | cons v rest ih => rw [itemTexts, ih, List.map_cons]

theorem fieldTexts_eq_map (layout : Layout) (depth : Nat) (fields : List (String × Value)) :
    fieldTexts layout depth fields = fields.map fun field =>
      writeString field.1 ++ layout.colon ++ writeAt layout depth field.2 := by
  induction fields with
  | nil => rfl
  | cons field rest ih => rw [fieldTexts, ih, List.map_cons]

theorem newline_notMem_intercalate {separator : List Char} {parts : List (List Char)}
    (plain : '\n' ∉ separator) (all : ∀ part ∈ parts, '\n' ∉ part) :
    '\n' ∉ List.intercalate separator parts := by
  induction parts with
  | nil => exact List.not_mem_nil
  | cons first rest ih =>
      have one := all first List.mem_cons_self
      have others := ih fun part inside => all part (List.mem_cons_of_mem first inside)
      cases rest with
      | nil => simpa using one
      | cons second rest => simp [List.intercalate_cons_cons, one, plain, others]

theorem newline_notMem_enclose {depth : Nat} {opening closing : Char} {parts : List (List Char)}
    (plainOpening : '\n' ≠ opening) (plainClosing : '\n' ≠ closing)
    (all : ∀ part ∈ parts, '\n' ∉ part) :
    '\n' ∉ enclose .spaced depth opening closing parts := by
  have joined : '\n' ∉ List.intercalate [',', ' '] parts :=
    newline_notMem_intercalate (by decide) all
  unfold enclose
  split
  · simp [plainOpening, plainClosing]
  · simp [Layout.lineBreak, Layout.comma, plainOpening, plainClosing, joined]

/-- JSON text in the layout with blanks stands on one line. -/
theorem newline_notMem_writeAt (v : Value) (depth : Nat) : '\n' ∉ writeAt .spaced depth v := by
  induction v using Value.inductionOnChildren generalizing depth with
  | step v ih =>
      cases v with
      | null => exact (by decide : '\n' ∉ "null".toList)
      | bool b =>
          rw [writeAt]
          cases b <;> decide
      | int n => exact Text.newline_notMem_repr n
      | float x => exact newline_notMem_writeBinary64 x
      | str s => exact newline_notMem_writeString s
      | arr items =>
          rw [writeAt, itemTexts_eq_map]
          refine newline_notMem_enclose (by decide) (by decide) fun part inside => ?_
          obtain ⟨item, member, rfl⟩ := List.mem_map.mp inside
          obtain ⟨n, found⟩ := List.mem_iff_getElem?.mp member
          exact ih _ (Value.mem_children_arr_iff.mpr ⟨n, rfl, found⟩) (depth + 1)
      | obj fields =>
          rw [writeAt, fieldTexts_eq_map]
          refine newline_notMem_enclose (by decide) (by decide) fun part inside => ?_
          obtain ⟨field, member, rfl⟩ := List.mem_map.mp inside
          have value := ih _ (Value.mem_children_obj_iff.mpr ⟨field.1, rfl, member⟩) (depth + 1)
          simp [Layout.colon, newline_notMem_writeString field.1, value]

example : String.ofList (writeAt .spaced 0 (.arr [.str "a\nb", .null])) = "[\"a\\nb\", null]" := by
  decide +kernel

end Json

end JsonSeek
