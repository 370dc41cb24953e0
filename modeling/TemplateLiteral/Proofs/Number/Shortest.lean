import Mathlib
import TemplateLiteral.Number.Shortest
import TemplateLiteral.Proofs.Number.Reading

/-!
# Decimals that read back

The value of a double is itself a decimal, on the finest grid of the search, and reads back as the
double. The search for a shorter decimal keeps to those that read back, and so what it finds reads
back as well.

## Main results

* `Dyadic.numerator_div_denominator`: the value of a double in steps of a grid
* `Dyadic.toFloat_exact`: the value of a double reads back
* `toFloat_shortest`: the shortest decimal of a double reads back
-/

namespace TemplateLiteral.Number

open Float.Model.UnpackedFloat

/-! ## The value on a grid -/

theorem zpow_eq_div (b : ℚ) (k : ℤ) : b ^ k = b ^ k.toNat / b ^ (-k).toNat := by
  rcases le_total 0 k with h | h
  · obtain ⟨k, rfl⟩ := Int.eq_ofNat_of_zero_le h
    simp
  · obtain ⟨k, rfl⟩ : ∃ k' : ℕ, k = -k' := ⟨_, Int.eq_neg_natAbs_of_nonpos h⟩
    simp

namespace Dyadic

/-- The decimal with all digits of a value. -/
def exact (value : Dyadic) : Decimal :=
  ⟨value.numerator value.finest / value.denominator value.finest, value.finest⟩

variable {x : Float} {m : ℕ} {e : ℤ} {hm : 0 < m}

theorem denominator_pos (value : Dyadic) (grid : ℤ) : 0 < value.denominator grid :=
  Nat.mul_pos (Nat.pow_pos two_pos) (Nat.pow_pos (by decide))

/-- The value of a double in steps of a decimal grid. -/
theorem numerator_div_denominator (value : Dyadic) (grid : ℤ) :
    (value.numerator grid : ℚ) / value.denominator grid = value.value / 10 ^ grid := by
  rw [Dyadic.value, zpow_eq_div 2, zpow_eq_div 10, numerator, denominator]
  simp only [Nat.pow_eq, Nat.cast_mul, Nat.cast_pow, Nat.cast_ofNat]
  field_simp

/-- The finest grid has the value on it. -/
theorem value_exact (m : ℕ) (e : ℤ) : (exact ⟨m, e⟩).value = value ⟨m, e⟩ := by
  have hdvd : denominator ⟨m, e⟩ (finest ⟨m, e⟩) ∣ numerator ⟨m, e⟩ (finest ⟨m, e⟩) := by
    rw [numerator, denominator, finest]
    dsimp only
    rcases le_total 0 e with he | he
    · simp [he]
    · rw [min_eq_left he, Int.toNat_of_nonpos he]
      simp only [Nat.pow_eq, pow_zero, mul_one]
      exact Dvd.dvd.mul_left (pow_dvd_pow_of_dvd (by decide) _) m
  rw [Decimal.value, exact]
  dsimp only
  rw [Nat.cast_div hdvd (by exact_mod_cast (denominator_pos _ _).ne'), numerator_div_denominator,
    div_mul_cancel₀ _ (by positivity)]

/-- The value of a double reads back. -/
theorem toFloat_exact (hx : x.toModel.unpack = .finite .positive m e hm) :
    (exact ⟨m, e⟩).toFloat = x := by
  rw [Decimal.toFloat_eq_iff hx, value_exact]
  exact (canonical_of_unpack hx).rounds

end Dyadic

/-! ## The search -/

section Search

variable {tie : Tie} {x : Float} {value : Dyadic}

/-- The neighbour that is meant reads back, and the other is not nearer if it reads back, too. -/
theorem neighbour?_eq_some {grid : Int} {c : Nat} (h : neighbour? tie x value grid = some c) :
    let low := value.numerator grid / value.denominator grid
    let past := value.numerator grid % value.denominator grid
    (c = low ∧ (Decimal.toFloat ⟨low, grid⟩ == x) = true ∧
      ((Decimal.toFloat ⟨low + 1, grid⟩ == x) = true → 2 * past ≤ value.denominator grid)) ∨
    (c = low + 1 ∧ (Decimal.toFloat ⟨low + 1, grid⟩ == x) = true ∧
      ((Decimal.toFloat ⟨low, grid⟩ == x) = true → value.denominator grid ≤ 2 * past)) := by
  unfold neighbour? at h
  dsimp only at h ⊢
  split at h
  next hlow hhigh =>
    split at h
    next hless => exact .inl ⟨(Option.some.inj h).symm, hlow, fun _ => hless.le⟩
    split at h
    next hmore => exact .inr ⟨(Option.some.inj h).symm, hhigh, fun _ => hmore.le⟩
    next hnotless hnotmore =>
      -- In an exact tie either may be meant.
      rw [not_lt] at hnotless hnotmore
      split at h
      · exact .inr ⟨(Option.some.inj h).symm, hhigh, fun _ => hnotless⟩
      split at h
      · exact .inl ⟨(Option.some.inj h).symm, hlow, fun _ => hnotmore⟩
      · exact .inr ⟨(Option.some.inj h).symm, hhigh, fun _ => hnotless⟩
  next hlow hhigh =>
    exact .inl ⟨(Option.some.inj h).symm, hlow, fun hread => nomatch hhigh.symm.trans hread⟩
  next hlow hhigh =>
    exact .inr ⟨(Option.some.inj h).symm, hhigh, fun hread => nomatch hlow.symm.trans hread⟩
  · cases h

theorem neighbour?_eq_none {grid : Int} (h : neighbour? tie x value grid = none) :
    let low := value.numerator grid / value.denominator grid
    (Decimal.toFloat ⟨low, grid⟩ == x) = false ∧
      (Decimal.toFloat ⟨low + 1, grid⟩ == x) = false := by
  unfold neighbour? at h
  dsimp only at h ⊢
  split at h
  next =>
    split at h
    · cases h
    split at h
    · cases h
    · cases tie <;> cases h
  · cases h
  · cases h
  next hlow hhigh => exact ⟨hlow, hhigh⟩

/-- A neighbour that is found reads back. -/
theorem beq_of_neighbour? {grid : Int} {c : Nat} (h : neighbour? tie x value grid = some c) :
    (Decimal.toFloat ⟨c, grid⟩ == x) = true := by
  obtain ⟨rfl, hread, -⟩ | ⟨rfl, hread, -⟩ := neighbour?_eq_some h
  · exact hread
  · exact hread

variable {m : Nat} {e : Int} {hm : 0 < m}

theorem toFloat_search (hx : x.toModel.unpack = .finite .positive m e hm) (steps : Nat) :
    (search tie x ⟨m, e⟩ steps).toFloat = x := by
  induction steps with
  | zero => exact Dyadic.toFloat_exact hx
  | succ steps ih =>
    unfold search
    dsimp only
    split
    next hfound => exact eq_of_beq hx (beq_of_neighbour? hfound)
    · exact ih

/-- The shortest decimal of a double reads back. -/
theorem toFloat_shortest (hx : x.toModel.unpack = .finite .positive m e hm) :
    (shortest tie x).toFloat = x := by
  have hvalue : Dyadic.ofFloat? x = some ⟨m, e⟩ := by rw [Dyadic.ofFloat?, hx]
  rw [shortest, hvalue]
  exact toFloat_search hx _

end Search

end TemplateLiteral.Number
