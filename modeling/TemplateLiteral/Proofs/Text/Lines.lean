import Mathlib.Data.List.DropRight
import TemplateLiteral.Diagnostic.Pointer
import TemplateLiteral.Proofs.Offset.Pointer

/-!
# The lines of a text and the places in them

A line feed ends a line, so that a text with one in it has the line in front of it and then the
lines of what stands behind it. From this one equation follows where a place is: the line is
the number of line feeds in front of the place, and in the line stands what is after the last of
them. Only at the end of a text that ends with a line feed no line begins, and the place is at the
end of the line that has been ended.

## Main definitions

* `Text.lineStart`, `Text.lineRest`: a line before and after a place in it

## Main results

* `Text.line_induction`: a text is one line, or a line, a line feed and a text
* `Text.lines_append_lineFeed`: the lines of a text with a line feed in it
* `Text.line_append`: the line of a place
* `Text.line_end`: the line of what is behind the last line feed
-/

namespace TemplateLiteral.Text

/-- What stands after the last line feed of a text, or all of the text if there is none. -/
def lineStart (before : List Char) : List Char :=
  before.rtakeWhile (· ≠ '\n')

/-- What stands before the first line feed of a text, or all of the text if there is none. -/
def lineRest (after : List Char) : List Char :=
  after.takeWhile (· ≠ '\n')

variable {line before after text : List Char} {n : Nat}

/-! ## Parts of lines -/

theorem lineStart_eq_self (h : '\n' ∉ line) : lineStart line = line := by
  refine List.rtakeWhile_eq_self_iff.2 fun c hc => decide_eq_true ?_
  rintro rfl
  exact h hc

/-- A line feed in front of a text ends what stood before it. -/
theorem lineStart_append_lineFeed (line text : List Char) :
    lineStart (line ++ '\n' :: text) = lineStart text := by
  induction text using List.reverseRecOn with
  | nil => exact List.rtakeWhile_concat_neg _ _ _ (by decide)
  | append_singleton text c ih =>
    rw [lineStart, lineStart, ← List.cons_append, ← List.append_assoc, List.rtakeWhile_concat,
      List.rtakeWhile_concat]
    exact congrArg (fun front => if decide (c ≠ '\n') then front ++ [c] else []) ih

theorem count_append_lineFeed (h : '\n' ∉ line) (text : List Char) :
    (line ++ '\n' :: text).count '\n' = text.count '\n' + 1 := by
  rw [List.count_append, List.count_eq_zero_of_not_mem h, List.count_cons_self, Nat.zero_add]

theorem lineRest_eq_self (h : '\n' ∉ line) : lineRest line = line := by
  refine List.takeWhile_eq_self_iff.2 fun c hc => decide_eq_true ?_
  rintro rfl
  exact h hc

theorem lineRest_append_lineFeed (h : '\n' ∉ line) (text : List Char) :
    lineRest (line ++ '\n' :: text) = line := by
  have hall : ∀ c ∈ line, decide (c ≠ '\n') = true := by
    intro c hc
    refine decide_eq_true ?_
    rintro rfl
    exact h hc
  rw [lineRest, List.takeWhile_append_of_pos hall, List.takeWhile_cons_of_neg (by decide),
    List.append_nil]

/-! ## Lines -/

/-- A text is one line, or it is a line, a line feed and a text. -/
theorem line_induction {motive : List Char → Prop}
    (last : ∀ line, '\n' ∉ line → motive line)
    (feed : ∀ line text, '\n' ∉ line → motive text → motive (line ++ '\n' :: text))
    (text : List Char) : motive text := by
  -- The line that has been read so far stands in front of the text.
  suffices h : ∀ line, '\n' ∉ line → motive (line ++ text) from h [] List.not_mem_nil
  induction text with
  | nil =>
    intro line hline
    rw [List.append_nil]
    exact last line hline
  | cons c text ih =>
    intro line hline
    by_cases hc : c = '\n'
    · subst hc
      exact feed line text hline (ih [] List.not_mem_nil)
    · rw [List.append_cons]
      refine ih (line ++ [c]) fun hmem => ?_
      rcases List.mem_append.1 hmem with hmem | hmem
      · exact hline hmem
      · exact hc (List.mem_singleton.1 hmem).symm

/-- The lines of a text with a line feed in it. -/
theorem lines_append_lineFeed (h : '\n' ∉ line) (text : List Char) :
    lines (line ++ '\n' :: text) = line :: lines text := by
  induction line with
  | nil => exact if_pos rfl
  | cons c line ih =>
    obtain ⟨hc, hline⟩ := not_or.1 (mt List.mem_cons.2 h)
    rw [List.cons_append, lines, if_neg (Ne.symm hc), ih hline]

/-- A text without line feeds is one line, or none if it is empty. -/
theorem lines_eq_singleton (h : '\n' ∉ line) (hne : line ≠ []) : lines line = [line] := by
  induction line with
  | nil => exact absurd rfl hne
  | cons c line ih =>
    obtain ⟨hc, hline⟩ := not_or.1 (mt List.mem_cons.2 h)
    rw [lines, if_neg (Ne.symm hc)]
    cases line with
    | nil => rfl
    | cons d line => rw [ih hline (List.cons_ne_nil d line)]

theorem lines_eq_nil_iff : lines text = [] ↔ text = [] := by
  constructor
  · intro h
    cases text with
    | nil => rfl
    | cons c text =>
      rw [lines] at h
      split at h
      · exact absurd h (List.cons_ne_nil _ _)
      · split at h <;> exact absurd h (List.cons_ne_nil _ _)
  · rintro rfl
    rfl

/-! ## Places -/

theorem lineBefore_append (before after : List Char) :
    lineBefore (before ++ after) (byteLength before) = before := by
  rw [lineBefore, splitAtByte?_append]

/-- A place in the first line. -/
theorem locate_cons_of_le {others : List (List Char)} (h : n ≤ byteLength line) :
    locate (line :: others) n = (0, lineBefore line n) := by
  cases others with
  | nil => rfl
  | cons => exact if_pos h

/-- A place behind the first line and its line feed. -/
theorem locate_cons_add {others : List (List Char)} (h : others ≠ []) :
    locate (line :: others) (byteLength line + 1 + n) =
      ((locate others n).1 + 1, (locate others n).2) := by
  obtain ⟨next, more, rfl⟩ := List.exists_cons_of_ne_nil h
  have hpast : ¬ byteLength line + 1 + n ≤ byteLength line := by omega
  have hplace : byteLength line + 1 + n - (byteLength line + 1) = n := Nat.add_sub_cancel_left ..
  rw [locate, if_neg hpast, hplace]

/-- Any place is in one of the lines. -/
theorem locate_lt_length {all : List (List Char)} (h : all ≠ []) (n : Nat) :
    (locate all n).1 < all.length := by
  fun_induction locate all n with
  | case1 => exact absurd rfl h
  | case2 | case3 => exact Nat.zero_lt_succ _
  | case4 line next rest n _ number before hlocate ih =>
    rw [hlocate] at ih
    exact Nat.succ_lt_succ (ih (List.cons_ne_nil next rest))

theorem byteLength_append_lineFeed (line text : List Char) :
    byteLength (line ++ '\n' :: text) = byteLength line + 1 + byteLength text := by
  have hsize : '\n'.utf8Size = 1 := rfl
  rw [byteLength_append, byteLength_cons, hsize, Nat.add_assoc]

/-- The first line of a text, with a place in it. -/
theorem exists_lines_append (h : '\n' ∉ before) (hne : before ++ after ≠ []) :
    ∃ others, lines (before ++ after) = (before ++ lineRest after) :: others := by
  induction after using line_induction with
  | last after hafter =>
    have hboth : '\n' ∉ before ++ after := fun hmem => (List.mem_append.1 hmem).elim h hafter
    exact ⟨[], by rw [lineRest_eq_self hafter, lines_eq_singleton hboth hne]⟩
  | feed line text hline =>
    have hboth : '\n' ∉ before ++ line := fun hmem => (List.mem_append.1 hmem).elim h hline
    refine ⟨lines text, ?_⟩
    rw [lineRest_append_lineFeed hline, ← List.append_assoc, lines_append_lineFeed hboth]

/-- The line of a place is the one with the number of line feeds in front of the place. The last of
these is where the line begins, and it goes on up to the next. -/
theorem line_append (before after : List Char) (h : after = [] → before.getLast? ≠ some '\n') :
    locate (lines (before ++ after)) (byteLength before) =
        (before.count '\n', lineStart before) ∧
      (lines (before ++ after))[before.count '\n']?.getD [] =
        lineStart before ++ lineRest after := by
  induction before using line_induction with
  | last line hline =>
    rw [List.count_eq_zero_of_not_mem hline, lineStart_eq_self hline]
    rcases eq_or_ne (line ++ after) [] with hnil | hne
    · obtain ⟨rfl, rfl⟩ := List.append_eq_nil_iff.1 hnil
      exact ⟨rfl, rfl⟩
    · obtain ⟨others, hlines⟩ := exists_lines_append hline hne
      rw [hlines, locate_cons_of_le (by rw [byteLength_append]; omega), lineBefore_append]
      exact ⟨rfl, rfl⟩
  | feed line text hline ih =>
    -- Something stands behind the line feed, so that there is a line to go on with.
    have hlast : after = [] → text ≠ [] ∧ text.getLast? ≠ some '\n' := by
      intro hafter
      have hne := h hafter
      rw [List.getLast?_append_cons] at hne
      cases text with
      | nil => exact absurd rfl hne
      | cons c text => exact ⟨List.cons_ne_nil c text, by rwa [List.getLast?_cons_cons] at hne⟩
    have hothers : lines (text ++ after) ≠ [] := by
      intro hnil
      obtain ⟨rfl, rfl⟩ := List.append_eq_nil_iff.1 (lines_eq_nil_iff.1 hnil)
      exact (hlast rfl).1 rfl
    obtain ⟨hlocate, hline'⟩ := ih fun hafter => (hlast hafter).2
    rw [List.append_assoc, List.cons_append, lines_append_lineFeed hline,
      byteLength_append_lineFeed, locate_cons_add hothers, hlocate, count_append_lineFeed hline,
      lineStart_append_lineFeed, List.getElem?_cons_succ]
    exact ⟨rfl, hline'⟩

/-- Behind a line feed that ends a text no line begins. What is behind it is at the end of the line
that it ends, which is the last one. -/
theorem line_end (text : List Char) (h : byteLength text < n) :
    locate (lines (text ++ ['\n'])) n = (text.count '\n', lineStart text) ∧
      (lines (text ++ ['\n']))[text.count '\n']?.getD [] = lineStart text ∧
      (lines (text ++ ['\n'])).length = text.count '\n' + 1 := by
  induction text using line_induction generalizing n with
  | last line hline =>
    have hlines : lines (line ++ ['\n']) = [line] := lines_append_lineFeed hline []
    rw [hlines, List.count_eq_zero_of_not_mem hline, lineStart_eq_self hline, locate,
      Offset.lineBefore_of_lt h]
    exact ⟨rfl, rfl, rfl⟩
  | feed line text hline ih =>
    have hothers : lines (text ++ ['\n']) ≠ [] :=
      mt lines_eq_nil_iff.1 (List.append_ne_nil_of_right_ne_nil _ (List.cons_ne_nil _ _))
    rw [byteLength_append_lineFeed] at h
    obtain ⟨k, rfl⟩ := Nat.exists_eq_add_of_le (show byteLength line + 1 ≤ n by omega)
    obtain ⟨hlocate, hline', hlength⟩ := @ih k (by omega)
    rw [List.append_assoc, List.cons_append, lines_append_lineFeed hline, locate_cons_add hothers,
      hlocate, count_append_lineFeed hline, lineStart_append_lineFeed, List.getElem?_cons_succ]
    exact ⟨rfl, hline', congrArg (· + 1) hlength⟩

end TemplateLiteral.Text
