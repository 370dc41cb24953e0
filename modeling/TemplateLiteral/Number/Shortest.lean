import TemplateLiteral.Number.Decimal

/-!
# The shortest decimal of a double

Of all decimals that read back as a given double, the shortest lies on the coarsest decimal
grid that has one; of two on that grid, the nearer to the double is meant. If a point of a
grid reads back, so does one of the two points around the double, so that only these two are
tried, from a grid too coarse to have any down to the one on which the double itself lies.

## Main definitions

* `Dyadic`: the exact value of a finite double
* `Tie`: which of two equally near neighbours is meant
* `shortest`: the shortest decimal that reads back
-/

namespace TemplateLiteral.Number

/-- The number `mantissa * 2 ^ exponent`. -/
structure Dyadic where
  /-- The binary digits, read as one number. -/
  mantissa : Nat
  /-- The power of two. -/
  exponent : Int
deriving DecidableEq, Repr

namespace Dyadic

/-- The magnitude of a double, or `none` for infinity and for what is not a number. -/
def ofFloat? (x : Float) : Option Dyadic :=
  match x.toModel.unpack with
  | .finite _ mantissa exponent _ => some ⟨mantissa, exponent⟩
  | .zero _ => some ⟨0, 0⟩
  | _ => none

/-- The numerator of the value divided by `10 ^ grid`. -/
def numerator (x : Dyadic) (grid : Int) : Nat :=
  x.mantissa * Nat.pow 2 x.exponent.toNat * Nat.pow 10 (-grid).toNat

/-- The denominator of the value divided by `10 ^ grid`. -/
def denominator (x : Dyadic) (grid : Int) : Nat :=
  Nat.pow 2 (-x.exponent).toNat * Nat.pow 10 grid.toNat

/-- A power of ten that the value does not exceed, and exceeds a hundredth of. -/
def coarsest (x : Dyadic) : Int :=
  let above := x.numerator 0
  let below := x.denominator 0
  if below ≤ above then
    (toDigits (above / below)).length
  else
    1 - (toDigits (below / above)).length

/-- A grid on which the value lies. -/
def finest (x : Dyadic) : Int :=
  min x.exponent 0

end Dyadic

/-- Which of two neighbours at the same distance is meant. -/
inductive Tie where
  /-- The greater. -/
  | up
  /-- The even one. -/
  | even
deriving DecidableEq, Repr

/-- The multiple of `10 ^ grid` next to the value that reads back as the double, if there is
one: of two the nearer, and of two equally near the one that `tie` names. -/
def neighbour? (tie : Tie) (x : Float) (value : Dyadic) (grid : Int) : Option Nat :=
  let divisor := value.denominator grid
  let low := value.numerator grid / divisor
  let past := value.numerator grid % divisor
  let high := low + 1
  -- The value lies between `low` and `high` steps of the grid.
  match Decimal.toFloat ⟨low, grid⟩ == x, Decimal.toFloat ⟨high, grid⟩ == x with
  | true, true =>
    if 2 * past < divisor then some low
    else if divisor < 2 * past then some high
    else match tie with
      | .up => some high
      | .even => some (if low % 2 = 0 then low else high)
  | true, false => some low
  | false, true => some high
  | false, false => none

/-- The first neighbour that reads back on the grids from `finest + steps` down to `finest`,
or the value itself. -/
def search (tie : Tie) (x : Float) (value : Dyadic) : Nat → Decimal
  | 0 => ⟨value.numerator value.finest / value.denominator value.finest, value.finest⟩
  | steps + 1 =>
    let grid := value.finest + (steps + 1 : Nat)
    match neighbour? tie x value grid with
    | some coefficient => ⟨coefficient, grid⟩
    | none => search tie x value steps

/-- The shortest decimal that reads back as a positive double, and of these the nearest. -/
def shortest (tie : Tie) (x : Float) : Decimal :=
  match Dyadic.ofFloat? x with
  | none => ⟨0, 0⟩
  | some value => search tie x value (value.coarsest - value.finest).toNat

end TemplateLiteral.Number
