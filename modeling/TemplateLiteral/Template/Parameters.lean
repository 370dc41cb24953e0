import TemplateLiteral.Diagnostic.Basic
import TemplateLiteral.Token.Basic

/-!
# Parameters

How the expressions of a template get at the values. Either each of some names is bound to the
value under the same key, or one name is bound to all values together.

## Main definitions

* `Parameters`
* `ParameterFault`, `Parameters.fault?`: the first name that cannot be declared, and why
-/

namespace TemplateLiteral

/-- The names that are bound before expressions are evaluated. -/
inductive Parameters where
  /-- Each name is bound to the value under the same key. -/
  | each (names : List String)
  /-- The name is bound to all values. -/
  | whole (name : String)
deriving DecidableEq, Repr

/-- Why parameters cannot be declared. -/
inductive ParameterFault where
  /-- The text is no name. -/
  | notName (name : String)
  /-- The name already stands for all values. -/
  | namesValues (name : String)
  /-- The name is declared before. -/
  | repeated (name : String)
  /-- Names are declared though one name is bound to all values. -/
  | alreadyBound (name : String)
deriving DecidableEq, Repr

/-- The report of a fault in the parameters. -/
def ParameterFault.diagnostic (fault : ParameterFault) : Diagnostic :=
  { kind := .malformed
    reason := "invalid parameter name"
    help := match fault with
      | .notName name => "`" ++ name ++ "` is not a valid identifier or is a reserved word"
      | .namesValues name => "`" ++ name ++ "` already names the parameter that holds the values"
      | .repeated name => "`" ++ name ++ "` is declared more than once"
      | .alreadyBound name =>
        "parameter names cannot be declared in single-binding mode, read them from `" ++ name ++
          "` instead" }

namespace Parameters

/-- The name of the values as a whole where single names are declared. -/
def valuesName : String := "values"

/-- The names that are declared one by one. -/
def declared : Parameters → List String
  | .each names => names
  | .whole _ => []

/-- The name that is bound to all values, if there is one. -/
def binding? : Parameters → Option String
  | .each _ => none
  | .whole name => some name

/-- The name that stands for all values in the source text. -/
def valueName (parameters : Parameters) : String :=
  parameters.binding?.getD valuesName

/-- The first of the names that cannot be declared after those before it. -/
def faultAfter [Text.Alphabet] (before : List String) : List String → Option ParameterFault
  | [] => none
  | name :: rest =>
    if !isIdentifier name then some (.notName name)
    else if name = valuesName then some (.namesValues name)
    else if name ∈ before then some (.repeated name)
    else faultAfter (name :: before) rest

/-- What is wrong with the parameters, if anything is. -/
def fault? [Text.Alphabet] : Parameters → Option ParameterFault
  | .each names => faultAfter [] names
  | .whole name => if isIdentifier name then none else some (.notName name)

end Parameters

end TemplateLiteral
