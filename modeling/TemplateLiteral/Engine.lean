import TemplateLiteral.Rendering

/-!
# Engines

An engine holds what templates have in common: how their expressions get at the values, and
the name that reports give. It can also render a text at once; where names are declared one by
one, these are then the keys of the store.

## Main definitions

* `Binding`, `Engine`, `Engine.destructure`, `Engine.single`, `Engine.named`
* `Engine.compile`, `Engine.run`, `Engine.runSerialized`
* `compile`, `render`: the same with an engine that nothing is set on
-/

namespace TemplateLiteral

/-- How templates get at the values. -/
inductive Binding where
  /-- By the names that are declared. -/
  | destructure
  /-- By one name for all values. -/
  | single (name : String)
deriving DecidableEq, Repr

/-- What templates have in common. -/
structure Engine where
  /-- How they get at the values. -/
  binding : Binding := .destructure
  /-- The name in reports. -/
  name : Option String := none
deriving DecidableEq, Repr

namespace Engine

/-- The engine with values bound to declared names. -/
def destructure (engine : Engine) : Engine :=
  { engine with binding := .destructure }

/-- The engine with all values bound to one name. -/
def single (engine : Engine) (name : String) : Engine :=
  { engine with binding := .single name }

/-- The engine with a name for reports. -/
def named (engine : Engine) (name : String) : Engine :=
  { engine with name := some name }

variable [Text.Alphabet]

/-- The template with the given text, and with the given names declared. -/
def compile (engine : Engine) (text : String) (names : List String) :
    Except Diagnostic Template :=
  match engine.binding with
  | .destructure => Template.compile text (.each names) engine.name
  | .single binding =>
    if names.isEmpty then
      Template.compile text (.whole binding) engine.name
    else
      .error ((ParameterFault.alreadyBound binding).diagnostic.inTemplate engine.name)

/-- The names that are declared when a text is rendered at once. -/
def namesFor (engine : Engine) (store : Store) : List String :=
  match engine.binding with
  | .destructure => store.keys
  | .single _ => []

/-- The output of a text for a store. -/
def run (engine : Engine) (text : String) (store : Store) : Except Diagnostic String := do
  (← engine.compile text (engine.namesFor store)).render store

/-- The output of a text for values that are not in a store yet. -/
def runSerialized (engine : Engine) (text : String) (values : Serialized) :
    Except Diagnostic String := do
  engine.run text (← Store.ofSerialized values)

end Engine

/-- The template with the given text, and with the given names declared. -/
def compile [Text.Alphabet] (text : String) (names : List String) : Except Diagnostic Template :=
  ({} : Engine).compile text names

/-- The output of a text for a store, whose keys are declared as names. -/
def render [Text.Alphabet] (text : String) (store : Store) : Except Diagnostic String :=
  ({} : Engine).run text store

end TemplateLiteral
