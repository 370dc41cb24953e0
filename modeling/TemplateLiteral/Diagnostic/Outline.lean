import TemplateLiteral.Diagnostic.Report
import TemplateLiteral.Text.Visible

/-!
# Outlines

The fields of a diagnostic, for a reader who is looking for a fault in the program rather than
in a template. An outline is written on one line, or with one field to a line. A text in it
stands between quotes, with everything escaped that would not be seen.

## Main definitions

* `Outline`, `Outline.line`, `Outline.block`
* `Diagnostic.outline`: the fields of a diagnostic
-/

namespace TemplateLiteral

/-- A value as a tree of named fields. -/
inductive Outline where
  /-- A word or a number. -/
  | word (text : String)
  /-- A text between quotes. -/
  | quoted (text : String)
  /-- A value that is there but might not be. -/
  | present (value : Outline)
  /-- A value that is not there. -/
  | absent
  /-- Named fields. -/
  | record (name : String) (fields : List (String × Outline))

namespace Outline

/-- A character as it stands between quotes. -/
def quotedChar (c : Char) : List Char :=
  match c with
  | '"' => ['\\', '"']
  | '\\' => ['\\', '\\']
  | '\n' => ['\\', 'n']
  | '\r' => ['\\', 'r']
  | '\t' => ['\\', 't']
  | c =>
    if c.toNat = 0 then ['\\', '0']
    else if Text.isVisible c then [c]
    else '\\' :: 'u' :: '\x7b' :: (Nat.toDigits 16 c.toNat ++ ['\x7d'])

/-- A text between quotes. -/
def quote (text : String) : String :=
  "\"" ++ String.ofList (text.toList.flatMap quotedChar) ++ "\""

mutual

/-- An outline on one line. -/
def line : Outline → String
  | .word text => text
  | .quoted text => quote text
  | .present value => "Some(" ++ line value ++ ")"
  | .absent => "None"
  | .record name fields => name ++ " \x7b " ++ ", ".intercalate (lineFields fields) ++ " \x7d"

/-- The fields of a record, each with its name. -/
def lineFields : List (String × Outline) → List String
  | [] => []
  | (name, value) :: rest => (name ++ ": " ++ line value) :: lineFields rest

end

mutual

/-- An outline with one field to a line, at the given depth. -/
def blockAt (depth : Nat) : Outline → String
  | .present value =>
    "Some(\n" ++ blanks (4 * (depth + 1)) ++ blockAt (depth + 1) value ++ ",\n" ++
      blanks (4 * depth) ++ ")"
  | .record name fields =>
    name ++ " \x7b\n" ++ blockFieldsAt (depth + 1) fields ++ blanks (4 * depth) ++ "\x7d"
  | .word text => text
  | .quoted text => quote text
  | .absent => "None"

/-- The fields of a record, each on its line. -/
def blockFieldsAt (depth : Nat) : List (String × Outline) → String
  | [] => ""
  | (name, value) :: rest =>
    blanks (4 * depth) ++ name ++ ": " ++ blockAt depth value ++ ",\n" ++ blockFieldsAt depth rest

end

/-- An outline with one field to a line. -/
def block (outline : Outline) : String :=
  outline.blockAt 0

/-- The outline of a value that may be absent. -/
def ofOption {α : Type} (outline : α → Outline) : Option α → Outline
  | some value => .present (outline value)
  | none => .absent

end Outline

/-- The name of a kind of fault in an outline. -/
def Diagnostic.Kind.name : Diagnostic.Kind → String
  | .malformed => "Syntax"
  | .reference => "Reference"
  | .serialization => "Serialize"
  | .output => "Write"

/-- The fields of a pointer. -/
def Pointer.outline (p : Pointer) : Outline :=
  .record "Pointer" [
    ("line", .word (toString p.line)),
    ("column", .word (toString p.column)),
    ("length", .word (toString p.length)),
    ("text", .quoted p.text)]

/-- The fields of a diagnostic. -/
def Diagnostic.outline (d : Diagnostic) : Outline :=
  .record "Error" [
    ("kind", .word d.kind.name),
    ("reason", .quoted d.reason),
    ("name", .ofOption .quoted d.name),
    ("visual", .ofOption Pointer.outline d.pointer),
    ("help", .ofOption .quoted d.help)]

/-- The report of a diagnostic, and below it its fields on one line. -/
def Diagnostic.fullReport (d : Diagnostic) : String :=
  d.report ++ "\n" ++ d.outline.line

end TemplateLiteral
