import TemplateLiteral.Proofs.Text.Lines

/-!
# The positions that pointers show

A pointer is made for any region, whether it fits the text or not, and with columns that are counted
in any way. The differences that are taken on the way to it are never negative, and it always shows
one of the lines of the text. Where a character begins or the text ends, what it shows is the real
position: the number of line feeds in front of the place, and the text from the last of these up to
the next.

## Main definitions

* `Offset.measure?`: the pointer at any region, for any measure of columns

## Main results

* `Offset.measure?_eq`: what a pointer is made of
* `Offset.position_of_place`: what a pointer shows
-/

namespace TemplateLiteral.Offset

/-- The pointer at a region, where `width` tells how many columns a text takes. A region that cannot
be read counts as empty, and a text without lines has no columns. -/
def measure? (width : List Char → Nat) (source : String) (region : Region) : Option Pointer := do
  let lines := Text.lines source.toList
  let (line, before) ← locate? lines region.start
  return {
    line
    column := if lines.isEmpty then 0 else width before
    length := max 1 (width ((region.slice? source.toList).getD []))
    text := String.ofList ((lines[line]?.or lines.getLast?).getD []) }

section Measure

variable (width : List Char → Nat) (source : String) (region : Region)

/-- The line of a place is one of the lines, so that none has to stand in for it. -/
theorem measure?_eq : measure? width source region = some {
    line := (Text.locate (Text.lines source.toList) region.start).1
    column := if source = "" then 0 else
      width (Text.locate (Text.lines source.toList) region.start).2
    length := max 1 (width ((region.slice? source.toList).getD []))
    text := String.ofList ((Text.lines source.toList)[
      (Text.locate (Text.lines source.toList) region.start).1]?.getD []) } := by
  have hempty : (Text.lines source.toList).isEmpty = true ↔ source = "" := by
    rw [List.isEmpty_iff, Text.lines_eq_nil_iff, String.toList_eq_nil_iff]
  rw [measure?, locate?_eq]
  simp only [Option.bind_eq_bind, Option.bind_some, Option.pure_def, hempty]
  rcases eq_or_ne (Text.lines source.toList) [] with hnil | hne
  · rw [hnil]
    rfl
  · have hlt := Text.locate_lt_length hne region.start
    rw [List.getElem?_eq_getElem hlt, Option.some_or]

/-- With the columns of a terminal this is the pointer of diagnostics. -/
theorem measure?_width : measure? Text.width source region = some (.ofRegion source region) := by
  have hcolumn : (if source = "" then 0 else
      Text.width (Text.locate (Text.lines source.toList) region.start).2) =
      Text.width (Text.locate (Text.lines source.toList) region.start).2 := by
    split
    next h =>
      subst h
      rfl
    · rfl
  rw [measure?_eq, hcolumn]
  rfl

/-- The text of a pointer is a line, unless there are none. -/
theorem getElem?_locate_mem_lines (text : List Char) (n : Nat) :
    (Text.lines text)[(Text.locate (Text.lines text) n).1]?.getD [] ∈ Text.lines text ∨
      Text.lines text = [] := by
  rcases eq_or_ne (Text.lines text) [] with hnil | hne
  · exact .inr hnil
  · refine .inl ?_
    rw [List.getElem?_eq_getElem (Text.locate_lt_length hne n), Option.getD_some]
    exact List.getElem_mem _

end Measure

/-- A pointer can be made for any region and any way to count columns; it takes at least one column
and shows one of the lines, or nothing if there are none, and then it is at line zero and column
zero. Where a region begins at a character or at the end of the text, the pointer shows the number
of line feeds in front of it, the text from the last of these up to the next, and the columns of
what is in front of it in this line. Only at the end of a text that ends with a line feed it shows
the end of the last line. -/
theorem position_of_place (width : List Char → Nat) (source : String) (region : Region)
    (before after : List Char) (stop : Nat) :
    measure? Text.width source region = some (.ofRegion source region) ∧
    (∃ p, measure? width source region = some p ∧ 1 ≤ p.length ∧
      (p.text.toList ∈ Text.lines source.toList ∨
        Text.lines source.toList = [] ∧ p.text = "")) ∧
    (source = "" → ∃ p, measure? width source region = some p ∧
      p.line = 0 ∧ p.column = 0 ∧ p.text = "") ∧
    (source.toList = before ++ after → (after = [] → before.getLast? ≠ some '\n') →
      ∃ p, measure? width source ⟨Text.byteLength before, stop⟩ = some p ∧
        p.line = before.count '\n' ∧
        p.text.toList = Text.lineStart before ++ Text.lineRest after ∧
        p.column = if source = "" then 0 else width (Text.lineStart before)) ∧
    (source.toList = before ++ ['\n'] →
      ∃ p, measure? width source ⟨Text.byteLength source.toList, stop⟩ = some p ∧
        p.line = before.count '\n' ∧ p.line + 1 = (Text.lines source.toList).length ∧
        p.text.toList = Text.lineStart before ∧ p.column = width (Text.lineStart before)) := by
  refine ⟨measure?_width source region, ?_, ?_, ?_, ?_⟩
  · refine ⟨_, measure?_eq width source region, le_max_left _ _, ?_⟩
    rcases getElem?_locate_mem_lines source.toList region.start with hmem | hnil
    · left
      rwa [String.toList_ofList]
    · right
      refine ⟨hnil, ?_⟩
      rw [hnil]
      rfl
  · rintro rfl
    exact ⟨_, measure?_eq width "" region, rfl, rfl, rfl⟩
  · intro hsource hlast
    obtain ⟨hlocate, hline⟩ := Text.line_append before after hlast
    refine ⟨_, measure?_eq width source _, ?_, ?_, ?_⟩
    · rw [hsource, hlocate]
    · rw [String.toList_ofList, hsource, hlocate, hline]
    · rw [hsource, hlocate]
  · intro hsource
    have hlt : Text.byteLength before < Text.byteLength source.toList := by
      rw [hsource, Text.byteLength_append_lineFeed]
      omega
    have hne : source ≠ "" := by
      rintro rfl
      cases before <;> cases hsource
    obtain ⟨hlocate, hline, hlength⟩ := Text.line_end before hlt
    rw [← hsource] at hlocate hline hlength
    refine ⟨_, measure?_eq width source _, ?_, ?_, ?_, ?_⟩
    · rw [hlocate]
    · rw [hlocate, hlength]
    · rw [String.toList_ofList, hlocate, hline]
    · rw [if_neg hne, hlocate]

/-- The empty text, a place in the second line behind a character of two bytes, and the end of a
text that ends with a line feed. -/
theorem position_of_place_lines :
    (∃ p, measure? List.length "" ⟨7, 3⟩ = some p ∧ p.line = 0 ∧ p.column = 0 ∧ p.text = "") ∧
    ("é\nabc\n".toList = "é\na".toList ++ "bc\n".toList ∧
      ("bc\n".toList = [] → "é\na".toList.getLast? ≠ some '\n') ∧
      ∃ p, measure? List.length "é\nabc\n" ⟨4, 1⟩ = some p ∧
        p.line = 1 ∧ p.text.toList = "abc".toList ∧ p.column = 1) ∧
    ("é\nabc\n".toList = "é\nabc".toList ++ ['\n'] ∧
      ∃ p, measure? List.length "é\nabc\n" ⟨7, 7⟩ = some p ∧
        p.line = 1 ∧ p.line + 1 = 2 ∧ p.text.toList = "abc".toList ∧ p.column = 3) := by
  obtain ⟨-, -, hempty, -⟩ := position_of_place List.length "" ⟨7, 3⟩ [] [] 0
  obtain ⟨-, -, -, hplace, -⟩ := position_of_place List.length "é\nabc\n" ⟨0, 0⟩ "é\na".toList
    "bc\n".toList 1
  obtain ⟨-, -, -, -, hend⟩ := position_of_place List.length "é\nabc\n" ⟨0, 0⟩ "é\nabc".toList [] 7
  exact ⟨hempty rfl, ⟨rfl, by decide, hplace rfl (by decide)⟩, rfl, hend rfl⟩

end TemplateLiteral.Offset
