import TemplateLiteral.Diagnostic.Pointer

/-!
# Diagnostics

What is reported when something is wrong: the kind of the fault, its reason, and where they
help, a hint, the name of the template and a pointer into its text.

Two diagnostics agree if they say the same, wherever they point.

## Main definitions

* `Diagnostic.Kind`, `Diagnostic`
* `Diagnostic.inTemplate`, `Diagnostic.agrees`

## Main results

* `Diagnostic.name_inTemplate`: the name that a diagnostic gets
-/

namespace TemplateLiteral

/-- The stage of work in which a fault arises. -/
inductive Diagnostic.Kind where
  /-- A template or a parameter name is malformed. -/
  | malformed
  /-- A name is not bound, or a value has no properties. -/
  | reference
  /-- Values cannot be made into a store. -/
  | serialization
  /-- The output cannot be written. -/
  | output
deriving DecidableEq, Repr

/-- The report of a fault. -/
structure Diagnostic where
  /-- The stage in which the fault arose. -/
  kind : Diagnostic.Kind
  /-- What is wrong. -/
  reason : String
  /-- What may be done about it. -/
  help : Option String := none
  /-- The name of the template. -/
  name : Option String := none
  /-- Where in its text the fault is. -/
  pointer : Option Pointer := none
deriving DecidableEq, Repr

namespace Diagnostic

/-- The words for a kind of fault. -/
def Kind.label : Kind → String
  | .malformed => "syntax error"
  | .reference => "reference error"
  | .serialization => "serialize error"
  | .output => "write error"

/-- The diagnostic points at a region of a text. -/
def pointingAt (d : Diagnostic) (source : String) (region : Region) : Diagnostic :=
  { d with pointer := some (.ofRegion source region) }

/-- The diagnostic names a template, if it has a name. -/
def inTemplate (d : Diagnostic) : Option String → Diagnostic
  | some name => { d with name := some name }
  | none => d

section InTemplate

variable (d : Diagnostic) (name : Option String)

@[simp] theorem kind_inTemplate : (d.inTemplate name).kind = d.kind := by
  cases name <;> rfl

@[simp] theorem reason_inTemplate : (d.inTemplate name).reason = d.reason := by
  cases name <;> rfl

@[simp] theorem help_inTemplate : (d.inTemplate name).help = d.help := by
  cases name <;> rfl

@[simp] theorem pointer_inTemplate : (d.inTemplate name).pointer = d.pointer := by
  cases name <;> rfl

theorem name_inTemplate (h : d.name = none) : (d.inTemplate name).name = name := by
  cases name with
  | none => exact h
  | some name => rfl

end InTemplate

/-- The two say the same, wherever they point. -/
def agrees (a b : Diagnostic) : Bool :=
  a.kind = b.kind && a.reason = b.reason && a.help = b.help && a.name = b.name

end Diagnostic

end TemplateLiteral
