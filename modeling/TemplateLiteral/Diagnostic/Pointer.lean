import TemplateLiteral.Text.Region
import TemplateLiteral.Text.Width

/-!
# Pointing into a text

A pointer shows where in a text something is: the line, the column in which it begins, how
many columns it takes, and the text of the line. Lines and columns are counted from zero, and
columns are columns of a terminal. Every region has a pointer, also one that does not fit the
text: past the end it shows the end of the last line, inside a character it shows the whole
line, and what cannot be read still takes one column.

## Main definitions

* `Text.lines`: the lines of a text
* `Text.locate`: the line of a byte offset, and the text before it in that line
* `Pointer`, `Pointer.ofRegion`
-/

namespace TemplateLiteral

namespace Text

/-- The lines of a text. A line feed ends a line, so that none begins after the last one. -/
def lines : List Char → List (List Char)
  | [] => []
  | c :: rest =>
    if c = '\n' then [] :: lines rest
    else match lines rest with
      | [] => [[c]]
      | line :: others => (c :: line) :: others

/-- The text of a line before a byte offset in it, or the whole line if the offset is past its
end or inside a character. -/
def lineBefore (line : List Char) (offset : Nat) : List Char :=
  match splitAtByte? offset line with
  | some (before, _) => before
  | none => line

/-- The number of the line that holds a byte offset, and the text before the offset in it. -/
def locate : List (List Char) → Nat → Nat × List Char
  | [], _ => (0, [])
  | [line], offset => (0, lineBefore line offset)
  | line :: next :: rest, offset =>
    if offset ≤ byteLength line then
      (0, lineBefore line offset)
    else
      let (number, before) := locate (next :: rest) (offset - (byteLength line + 1))
      (number + 1, before)

end Text

/-- A place in a text as it is shown to a reader. -/
structure Pointer where
  /-- The number of the line. -/
  line : Nat
  /-- The columns before the place. -/
  column : Nat
  /-- The columns of the place, at least one. -/
  length : Nat
  /-- The text of the line. -/
  text : String
deriving DecidableEq, Repr

namespace Pointer

/-- The pointer at a region of a text. -/
def ofRegion (source : String) (region : Region) : Pointer :=
  let lines := Text.lines source.toList
  let (line, before) := Text.locate lines region.start
  { line
    column := Text.width before
    length := max 1 (Text.width ((region.slice? source.toList).getD []))
    text := String.ofList (lines[line]?.getD []) }

end Pointer

end TemplateLiteral
