import Mathlib
import TemplateLiteral.Value.Operation

/-!
# Values compared after conversion

To compare two values of different kinds, the loose equality converts one of them and begins anew.
It comes to an answer whatever the two are, and the answer does not depend on the order in which
they are converted: two texts are compared as texts, and everything else as numbers.

## Main definitions

* `Value.equalsConverted`: the loose equality without repetition

## Main results

* `Value.looseEquals?_eq_some`: the loose equality begins three times at most
* `Value.looseEquals_eq_equalsConverted`: its answer
-/

namespace TemplateLiteral

namespace Value

/-- The value is an array or an object. -/
def isReference : Value → Bool
  | .array .. | .object .. => true
  | _ => false

/-- The value is a string or is compared by its text. -/
def isTextual : Value → Bool
  | .string _ | .array .. | .object .. => true
  | _ => false

/-- The two are equal after conversion. Values of one kind are not converted, and what is
nothing equals only what is nothing. Of the rest, an array and an object are not equal, two
texts are compared as texts, and all others as numbers. -/
def equalsConverted (a b : Value) : Bool :=
  if a.kind = b.kind then a.strictEquals b
  else if a.isNullish || b.isNullish then a.isNullish && b.isNullish
  else if a.isReference && b.isReference then false
  else if a.isTextual && b.isTextual then a.text = b.text
  else a.toNumber == b.toNumber

/-- A number and a text are compared as numbers, whichever comes first. -/
theorem looseEquals?_number_string (room : Nat) (x : Float) (s : String) :
    looseEquals? (room + 1) (.number x) (.string s) = some (x == (Value.string s).toNumber) ∧
      looseEquals? (room + 1) (.string s) (.number x) = some ((Value.string s).toNumber == x) :=
  ⟨rfl, congrArg some BEq.comm⟩

/-- A number is converted no further, and all but numbers are converted to be compared with it. -/
theorem looseEquals?_number (room : Nat) (x : Float) (v : Value) :
    looseEquals? (room + 2) (.number x) v = some (equalsConverted (.number x) v) ∧
      looseEquals? (room + 2) v (.number x) = some (equalsConverted v (.number x)) := by
  cases v with
  | undefined | null | number => exact ⟨rfl, rfl⟩
  | boolean truth => exact ⟨rfl, rfl⟩
  | string s => exact looseEquals?_number_string (room + 1) x s
  | array items place => exact looseEquals?_number_string room x (text (.array items place))
  | object fields place => exact looseEquals?_number_string room x (text (.object fields place))

/-- A comparison begins three times at most. -/
theorem looseEquals?_eq_some (room : Nat) (a b : Value) :
    looseEquals? (room + 3) a b = some (a.equalsConverted b) := by
  -- A boolean has become a number when the comparison begins for the second time.
  have hleft := fun x => (looseEquals?_number room x b).1
  have hright := fun x => (looseEquals?_number room x a).2
  cases a with
  | undefined | null => cases b <;> rfl
  | number x => exact (looseEquals?_number (room + 1) x b).1
  | boolean truth =>
    cases b with
    | undefined | null | boolean => rfl
    | number | string | array | object => exact hleft (Value.boolean truth).toNumber
  | string | array | object =>
    cases b with
    | undefined | null => rfl
    | number x => exact (looseEquals?_number (room + 1) x _).2
    | boolean truth => exact hright (Value.boolean truth).toNumber
    | string | array | object => rfl

theorem looseEquals_eq_equalsConverted (a b : Value) : a.looseEquals b = a.equalsConverted b := by
  rw [looseEquals, looseEquals?_eq_some 0]
  rfl

/-- More room than a comparison needs does not change its answer. -/
theorem looseEquals?_eq_some_looseEquals {room : Nat} (h : 3 ≤ room) (a b : Value) :
    looseEquals? room a b = some (a.looseEquals b) := by
  obtain ⟨more, rfl⟩ := Nat.exists_eq_add_of_le' h
  rw [looseEquals?_eq_some, looseEquals_eq_equalsConverted]

end Value

end TemplateLiteral
