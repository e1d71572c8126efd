import Mathlib.Algebra.GroupWithZero.Nat
import JsonSeek.Report.Excerpt

/-!
# The lines of a text

`linesOf` splits a text at its newlines, of which there is one less than there are lines. Parts that
are joined by newlines come back as the lines if none of them holds a newline.
-/

namespace JsonSeek.Report

theorem linesOf_ne_nil (text : List Char) : linesOf text ≠ [] := by
  cases text with
  | nil => exact List.cons_ne_nil _ _
  | cons c rest =>
      rw [linesOf]
      split
      · exact List.cons_ne_nil _ _
      · split <;> exact List.cons_ne_nil _ _

theorem linesOf_cons_newline (rest : List Char) : linesOf ('\n' :: rest) = [] :: linesOf rest :=
  if_pos rfl

theorem linesOf_cons_of_ne {c : Char} (other : c ≠ '\n') (rest : List Char) :
    linesOf (c :: rest) = (linesOf rest).modifyHead (c :: ·) := by
  rw [linesOf, if_neg other]
  cases split : linesOf rest with
  | nil => exact absurd split (linesOf_ne_nil rest)
  | cons line lines => rfl

theorem linesOf_eq_splitOn (text : List Char) : linesOf text = text.splitOn '\n' := by
  rw [List.splitOn_eq_splitOnP]
  induction text with
  | nil => rfl
  | cons c rest ih =>
      rw [List.splitOnP_cons_eq_if_modifyHead, ← ih]
      by_cases same : c = '\n'
      · rw [same, linesOf_cons_newline, if_pos (beq_self_eq_true _)]
      · rw [linesOf_cons_of_ne same, if_neg (by simp [same])]

/-- A text has one line more than it has newlines. -/
theorem length_linesOf (text : List Char) : (linesOf text).length = text.count '\n' + 1 := by
  induction text with
  | nil => rfl
  | cons c rest ih =>
      by_cases same : c = '\n'
      · rw [same, linesOf_cons_newline, List.length_cons, ih, List.count_cons_self]
      · rw [linesOf_cons_of_ne same, List.length_modifyHead, ih, List.count_cons_of_ne same]

theorem count_intercalate {parts : List (List Char)} (some : parts ≠ []) :
    (List.intercalate ['\n'] parts).count '\n' + 1 =
      parts.length + (parts.map (List.count '\n')).sum := by
  induction parts with
  | nil => exact absurd rfl some
  | cons first rest ih =>
      cases rest with
      | nil => simp [Nat.add_comm]
      | cons second rest =>
          have rest := ih (List.cons_ne_nil _ _)
          simp only [List.intercalate_cons_cons, List.count_append, List.count_singleton_self,
            List.map_cons, List.sum_cons, List.length_cons] at rest ⊢
          omega

theorem length_linesOf_intercalate {parts : List (List Char)} (some : parts ≠ []) :
    (linesOf (List.intercalate ['\n'] parts)).length =
      parts.length + (parts.map (List.count '\n')).sum := by
  rw [length_linesOf, count_intercalate some]

theorem linesOf_intercalate {parts : List (List Char)} (some : parts ≠ [])
    (plain : ∀ part ∈ parts, '\n' ∉ part) :
    linesOf (List.intercalate ['\n'] parts) = parts := by
  rw [linesOf_eq_splitOn]
  exact List.splitOn_intercalate _ plain some

/-- Parts are joined into one line each exactly if there are as many lines as parts. -/
theorem length_linesOf_intercalate_eq_iff {parts : List (List Char)} (some : parts ≠ []) :
    (linesOf (List.intercalate ['\n'] parts)).length = parts.length ↔
      ∀ part ∈ parts, '\n' ∉ part := by
  have counts : (parts.map (List.count '\n')).sum = 0 ↔ ∀ part ∈ parts, '\n' ∉ part := by
    simp [List.sum_eq_zero_iff_forall_eq_nat, List.count_eq_zero]
  rw [length_linesOf_intercalate some, ← counts]
  omega

end JsonSeek.Report
