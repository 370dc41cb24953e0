import TemplateLiteral.Data.Text
import TemplateLiteral.Number.Numeral
import TemplateLiteral.Text.Units

/-!
# Values

What expressions evaluate to. A value is undefined, or data, with all numbers as doubles. An
array or an object also knows its place, which is the path that leads to it in the store: two
of them are the same if they stand in the same place.

## Main definitions

* `Place`, `Value`, `Value.ofData`
* `Value.isNullish`, `Value.isTruthy`, `Value.typeName`
* `Value.text`, `Value.toNumber`
* `Value.property`: reading a property
-/

namespace TemplateLiteral

/-- A step from an array or an object to something in it. -/
inductive Step where
  | key (key : String)
  | item (index : Nat)
deriving DecidableEq, Repr

/-- A place in a store: the steps that lead to it, the last one first. -/
abbrev Place := List Step

/-- What an expression evaluates to. -/
inductive Value where
  | undefined
  | null
  | boolean (truth : Bool)
  | number (value : Float)
  | string (text : String)
  | array (items : List Data) (place : Place)
  | object (fields : List (String × Data)) (place : Place)

namespace Value

/-- The value of data in a place. -/
def ofData (place : Place) : Data → Value
  | .null => .null
  | .boolean truth => .boolean truth
  | .integer n => .number (Number.ofInt n)
  | .fraction x => .number x
  | .string text => .string text
  | .array items => .array items place
  | .object fields => .object fields place

/-- The value of data that may be missing. -/
def ofData? (place : Place) : Option Data → Value
  | some data => ofData place data
  | none => .undefined

/-! ## Tests -/

/-- The value is nothing: undefined or null. -/
def isNullish : Value → Bool
  | .undefined | .null => true
  | _ => false

/-- The value counts as true. Arrays and objects do, even if they are empty. -/
def isTruthy : Value → Bool
  | .undefined | .null => false
  | .boolean truth => truth
  | .number x => x < Number.ofInt 0 || Number.ofInt 0 < x
  | .string text => text ≠ ""
  | .array .. | .object .. => true

/-- The name of the type of a value. -/
def typeName : Value → String
  | .undefined => "undefined"
  | .boolean _ => "boolean"
  | .number _ => "number"
  | .string _ => "string"
  | .null | .array .. | .object .. => "object"

/-! ## Conversions -/

/-- The text of a value in rendered output. -/
def text : Value → String
  | .undefined => "undefined"
  | .null => "null"
  | .boolean true => "true"
  | .boolean false => "false"
  | .number x => Number.text x
  | .string text => text
  | .array items _ => Data.text (.array items)
  | .object _ _ => Data.objectText

/-- The value as a number. -/
def toNumber : Value → Float
  | .undefined => Number.notANumber
  | .null => Number.ofInt 0
  | .boolean truth => Number.ofInt (if truth then 1 else 0)
  | .number x => x
  | value => Number.readText value.text.toList

/-- Arrays and objects as their text, and all other values as they are. -/
def toPrimitive : Value → Value
  | .array items place => .string (text (.array items place))
  | .object fields place => .string (text (.object fields place))
  | value => value

/-! ## Properties -/

/-- The index that a key names, if it is the decimal numeral of one without sign or leading
zero. An index may be any number here: one that is too large for an address names an element of no
array and no string. -/
def index? (key : String) : Option Nat :=
  let digits := key.toList
  let n := Number.ofDigits 10 digits
  if digits.all (Number.isDigitOf 10) ∧ Number.toDigits n = digits then some n else none

/-- The key that reads the length of an array or a string. -/
def lengthKey : String := "length"

/-- The value of the property with the given key. A string has its units as properties. What
has no such property, or none at all, gives undefined. -/
def property (key : String) : Value → Value
  | .object fields place => ofData? (.key key :: place) (Fields.get? key fields)
  | .array items place =>
    if key = lengthKey then
      .number (Number.ofInt items.length)
    else match index? key with
      | some i => ofData? (.item i :: place) items[i]?
      | none => .undefined
  | .string text =>
    let units := Text.units text.toList
    if key = lengthKey then
      .number (Number.ofInt units.length)
    else match (index? key).bind (units[·]?) with
      | some unit => .string (Text.charOfUnit unit).toString
      | none => .undefined
  | _ => .undefined

end Value

end TemplateLiteral
