import TemplateLiteral.Number.Shortest

/-!
# The text of a number

A number is written with its shortest digits, either in full with a point among them or, when
it is very large or very small, with one digit before the point and a power of ten. Two
formats are in use: the one of rendered text, and the one of data that an error message shows.
They differ in where full digits end, in how a whole number looks and in the sign of zero.

## Main definitions

* `Format`: the choices that a way of writing numbers makes
* `Format.layout`: the text for given digits and place of the point
* `Format.write`: the text of a double
* `Format.rendered`, `Format.shown`: the two formats
-/

namespace TemplateLiteral.Number

/-- How a number is written. -/
structure Format where
  /-- Which neighbour is meant when two decimals are equally short and equally near. -/
  tie : Tie
  /-- Full digits are written if the place of the point is above this. -/
  below : Int
  /-- Full digits are written if the place of the point is at most this. -/
  above : Int
  /-- What follows a whole number. -/
  wholeMark : List Char
  /-- The sign of a negative zero is written. -/
  signedZero : Bool

namespace Format

/-- The text of rendered numbers: `0.000001` is written in full and `1e-7` is not, whole
numbers are written in full below `1e+21`, and zero has no sign. -/
def rendered : Format :=
  ⟨.up, -6, 21, [], false⟩

/-- The text of numbers in data: `0.00001` is written in full and `1e-6` is not, numbers are
written in full below `1e+16`, and every one of these has a point. -/
def shown : Format :=
  ⟨.even, -5, 16, ['.', '0'], true⟩

/-- The text of a power of ten, with its sign. -/
def power (n : Int) : List Char :=
  'e' :: (if n < 0 then '-' else '+') :: toDigits n.natAbs

/-- The text of the number `0.d₁…dₖ * 10 ^ point`, where `d₁…dₖ` are the digits. -/
def layout (f : Format) (digits : List Char) (point : Int) : List Char :=
  if f.below < point ∧ point ≤ f.above then
    if digits.length ≤ point then
      digits ++ List.replicate (point.toNat - digits.length) '0' ++ f.wholeMark
    else if 0 < point then
      digits.take point.toNat ++ '.' :: digits.drop point.toNat
    else
      '0' :: '.' :: (List.replicate (-point).toNat '0' ++ digits)
  else
    match digits with
    | [] => power (point - 1)
    | [d] => d :: power (point - 1)
    | d :: ds => d :: '.' :: (ds ++ power (point - 1))

/-- The text of a positive finite double. -/
def magnitude (f : Format) (x : Float) : List Char :=
  let decimal := shortest f.tie x
  let digits := toDigits decimal.coefficient
  f.layout digits (digits.length + decimal.exponent)

/-- The text of a double. -/
def write (f : Format) (x : Float) : List Char :=
  match x.toModel.unpack with
  | .notANumber => "NaN".toList
  | .infinity .positive => "Infinity".toList
  | .infinity .negative => "-Infinity".toList
  | .zero .positive => '0' :: f.wholeMark
  | .zero .negative => if f.signedZero then '-' :: '0' :: f.wholeMark else '0' :: f.wholeMark
  | .finite .positive _ _ _ => f.magnitude x
  | .finite .negative _ _ _ => '-' :: f.magnitude (-x)

end Format

end TemplateLiteral.Number
