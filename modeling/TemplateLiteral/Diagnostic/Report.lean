import TemplateLiteral.Diagnostic.Basic

/-!
# Reports

The text of a diagnostic for a terminal. The headline says the kind and the reason. A report
adds the line that the pointer shows, with the place marked below it, and the hint.

## Main definitions

* `Diagnostic.headline`, `Diagnostic.report`
-/

namespace TemplateLiteral

/-- The sequence that turns text red. -/
def red : String := "\x1b[31m"

/-- The sequence that turns text yellow. -/
def yellow : String := "\x1b[33m"

/-- The sequence that ends a colour. -/
def plainColour : String := "\x1b[0m"

/-- So many blanks. -/
def blanks (n : Nat) : String :=
  String.ofList (List.replicate n ' ')

namespace Pointer

/-- The number of the line, counted from one. -/
def number (p : Pointer) : String :=
  toString (p.line + 1)

/-- The margin of a report, as wide as the number of the line. -/
def margin (p : Pointer) : String :=
  " " ++ blanks p.number.length

/-- The marks below the place. A short place gets a tail, so that it is not missed. -/
def underline (p : Pointer) : String :=
  blanks p.column ++ String.ofList (List.replicate p.length '^')

/-- The tail after the marks. -/
def tail (p : Pointer) : String :=
  String.ofList (List.replicate (3 - p.length) '-')

/-- The line that a pointer shows, with the place marked below it. -/
def excerpt (p : Pointer) (name : Option String) : String :=
  "\n" ++ p.margin ++ "--> " ++ name.getD "?" ++ ":" ++ p.number ++ ":" ++
      toString (p.column + 1) ++
    "\n" ++ p.margin ++ " |" ++
    "\n " ++ p.number ++ " | " ++ p.text ++
    "\n" ++ p.margin ++ " | " ++ yellow ++ p.underline ++ plainColour ++ p.tail ++
    "\n" ++ p.margin ++ " |\n"

end Pointer

namespace Diagnostic

/-- The kind and the reason. -/
def headline (d : Diagnostic) : String :=
  red ++ d.kind.label ++ plainColour ++ ": " ++ d.reason

/-- The headline, and what is known beyond it. -/
def report (d : Diagnostic) : String :=
  d.headline ++
    match d.pointer, d.help with
    | some p, some help =>
      p.excerpt d.name ++ blanks p.number.length ++ " = help: " ++ help ++ "\n"
    | some p, none => p.excerpt d.name
    | none, some help => "\n  = help: " ++ help
    | none, none => ""

end Diagnostic

end TemplateLiteral
