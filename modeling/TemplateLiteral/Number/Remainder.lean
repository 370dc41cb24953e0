import TemplateLiteral.Number.Shortest

/-!
# The remainder of a division

The remainder of `x` by `y` is `x - q * y` for the whole number `q` that the quotient reaches
when cut toward zero. It is exact, has the sign of `x`, and is smaller than `y` in magnitude.
The remainder by zero and the remainder of infinity are not numbers.

## Main definitions

* `remainder`: the remainder of one double by another
-/

namespace TemplateLiteral.Number

open Float.Model (UnpackedFloat Format)

/-- The double that is not a number. -/
def notANumber : Float :=
  .ofModel (.pack .notANumber)

/-- Positive infinity. -/
def infinity : Float :=
  .ofModel (.pack (.infinity .positive))

/-- The double nearest to a whole number, an exact tie going to the even neighbour. -/
def ofInt (n : Int) : Float :=
  .ofModel (.ofInt n)

/-- The remainder of two magnitudes, scaled to the smaller of their powers of two. -/
def scaledRemainder (x y : Dyadic) : Dyadic :=
  let exponent := min x.exponent y.exponent
  ⟨x.mantissa * Nat.pow 2 (x.exponent - exponent).toNat %
    (y.mantissa * Nat.pow 2 (y.exponent - exponent).toNat), exponent⟩

/-- The remainder of `x` by `y`. -/
def remainder (x y : Float) : Float :=
  match x.toModel.unpack, y.toModel.unpack with
  | .notANumber, _ => notANumber
  | _, .notANumber => notANumber
  | .infinity _, _ => notANumber
  | _, .zero _ => notANumber
  | .zero _, _ => x
  | .finite .., .infinity _ => x
  | .finite sign m e _, .finite _ n f _ =>
    let rest := scaledRemainder ⟨m, e⟩ ⟨n, f⟩
    .ofModel (.pack (
      if rest.mantissa = 0 then .zero sign
      else UnpackedFloat.round Format.binary64 sign rest.mantissa rest.exponent))

end TemplateLiteral.Number
