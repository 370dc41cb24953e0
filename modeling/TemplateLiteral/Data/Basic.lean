import TemplateLiteral.Data.Fields

/-!
# Data

The data that templates are rendered with: null, truth values, numbers, strings, and arrays and
objects of these. A number keeps whether it came as an integer. The fields of an object keep
the order in which they came, which tells no two objects apart.

## Main definitions

* `Data`
* `Data.ofFields`: the object that results from giving keys values one after the other
* `Data.same`: two data are equal, whatever the order of fields
-/

namespace TemplateLiteral

/-- A piece of data. -/
inductive Data where
  | null
  | boolean (truth : Bool)
  | integer (number : Int)
  | fraction (number : Float)
  | string (text : String)
  | array (items : List Data)
  | object (fields : List (String × Data))
deriving Inhabited

namespace Data

/-- The object that results from giving keys values one after the other. -/
def ofFields (pairs : List (String × Data)) : Data :=
  .object (Fields.ofList pairs)

/-! ## Equality -/

mutual

/-- The two are of one kind and equal. An integer is no fraction, fractions are compared as
numbers, arrays are compared in order and objects by their keys. -/
def same : Data → Data → Bool
  | .null, .null => true
  | .boolean a, .boolean b => a == b
  | .integer a, .integer b => a == b
  | .fraction a, .fraction b => a == b
  | .string a, .string b => a == b
  | .array xs, .array ys => sameItems xs ys
  | .object fs, .object gs => fs.length == gs.length && sameFields fs gs
  | _, _ => false

/-- The two lists of items are equal in order. -/
def sameItems : List Data → List Data → Bool
  | [], [] => true
  | x :: xs, y :: ys => same x y && sameItems xs ys
  | _, _ => false

/-- Each of the fields has an equal among the others. -/
def sameFields : List (String × Data) → List (String × Data) → Bool
  | [], _ => true
  | (k, v) :: fs, gs =>
    (match Fields.get? k gs with
      | some w => same v w
      | none => false) && sameFields fs gs

end

end Data

end TemplateLiteral
