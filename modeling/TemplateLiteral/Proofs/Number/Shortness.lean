import Mathlib
import TemplateLiteral.Proofs.Number.Digits
import TemplateLiteral.Proofs.Number.Shortest

/-!
# The shortest digits

The search for a short decimal ends on the coarsest grid that has one which reads back. No decimal
that reads back has fewer digits, though it may be on a finer grid: there would be a power of ten
between the two, which reads back as they do and lies on a coarser grid. For the same reason the
power of ten that a double is compared with tells how many digits stand in front of its point, in
spite of the rounding of both.

## Main definitions

* `digitsOf`, `pointOf`: the digits of the shortest decimal and the place of its point

## Main results

* `toFloat_ne_of_lt`, `abs_sub_shortest_le`: the grid of the shortest decimal, and its place there
* `length_shortest_le`, `shortest_mod_ten`: its digits
* `toFloat_ten_pow_le_iff`: comparison with a power of ten
-/

namespace TemplateLiteral.Number

open Float.Model.UnpackedFloat

section Shortest

variable {tie : Tie} {x y : Float} {m n : ℕ} {e f : ℤ} {hm : 0 < m} {hn : 0 < n}

/-! ## The coarsest grid -/

/-- The power of ten that the search begins with is not exceeded. -/
theorem Dyadic.value_le_coarsest (hm : 0 < m) : value ⟨m, e⟩ ≤ 10 ^ coarsest ⟨m, e⟩ := by
  have hvalue := numerator_div_denominator ⟨m, e⟩ 0
  have hden := denominator_pos ⟨m, e⟩ 0
  have hnum : 0 < numerator ⟨m, e⟩ 0 :=
    Nat.mul_pos (Nat.mul_pos hm (Nat.pow_pos two_pos)) (Nat.pow_pos (by decide))
  rw [zpow_zero, div_one] at hvalue
  rw [← hvalue, coarsest]
  generalize numerator ⟨m, e⟩ 0 = above, denominator ⟨m, e⟩ 0 = below at *
  have hbelow : (0 : ℚ) < below := by exact_mod_cast hden
  have habove : (0 : ℚ) < above := by exact_mod_cast hnum
  split
  next hle =>
    have hlt : above < 10 ^ (toDigits (above / below)).length * below :=
      (Nat.div_lt_iff_lt_mul hden).1 (lt_pow_length_toDigits _)
    rw [div_le_iff₀ hbelow, zpow_natCast]
    exact_mod_cast hlt.le
  next hlt =>
    obtain ⟨k, hk⟩ := Nat.exists_eq_add_one.2 (length_toDigits_pos (below / above))
    have hpos : 0 < below / above := Nat.div_pos (Nat.le_of_not_le hlt) hnum
    have hle : 10 ^ k * above ≤ below :=
      (Nat.le_div_iff_mul_le hnum).1 (pow_length_toDigits_le hpos hk)
    have hexponent : 1 - ((k + 1 : ℕ) : ℤ) = -k := by push_cast; ring
    rw [hk, hexponent, zpow_neg, zpow_natCast, div_le_iff₀ hbelow, inv_mul_eq_div,
      le_div_iff₀ (by positivity), mul_comm]
    exact_mod_cast hle

/-! ## Neighbours -/

theorem beq_iff_eq_of_unpack (hx : x.toModel.unpack = .finite .positive m e hm) :
    (y == x) = true ↔ y = x := by
  refine ⟨eq_of_beq hx, ?_⟩
  rintro rfl
  change y.toModel.unpack.beq y.toModel.unpack = true
  rw [beq_iff_ne_notANumber_and_eq, hx]
  exact ⟨nofun, nofun, .inl rfl⟩

theorem Decimal.value_le_value {c k : ℕ} (h : c ≤ k) (grid : ℤ) :
    value ⟨c, grid⟩ ≤ value ⟨k, grid⟩ := by
  rw [value, value]
  dsimp only
  gcongr

/-- If a point of a grid reads back, so does the one of the two around the value that is on its
side. -/
theorem neighbour_of_toFloat {c : ℕ} {grid : ℤ}
    (hx : x.toModel.unpack = .finite .positive m e hm) (h : Decimal.toFloat ⟨c, grid⟩ = x) :
    let low := Dyadic.numerator ⟨m, e⟩ grid / Dyadic.denominator ⟨m, e⟩ grid
    (c ≤ low ∧ Decimal.toFloat ⟨low, grid⟩ = x) ∨
      (low + 1 ≤ c ∧ Decimal.toFloat ⟨low + 1, grid⟩ = x) := by
  intro low
  have hexact := Dyadic.toFloat_exact hx
  have hvalue := Dyadic.numerator_div_denominator ⟨m, e⟩ grid
  have hpow : (0 : ℚ) < 10 ^ grid := by positivity
  have hle : Decimal.value ⟨low, grid⟩ ≤ (Dyadic.exact ⟨m, e⟩).value := by
    rw [Dyadic.value_exact, Decimal.value, ← le_div_iff₀ hpow, ← hvalue]
    exact Nat.cast_div_le
  have hge : (Dyadic.exact ⟨m, e⟩).value ≤ Decimal.value ⟨low + 1, grid⟩ := by
    rw [Dyadic.value_exact, Decimal.value, ← div_le_iff₀ hpow, ← hvalue,
      div_le_iff₀ (by exact_mod_cast Dyadic.denominator_pos _ _)]
    rw [mul_comm]
    exact_mod_cast (Nat.lt_mul_div_succ _ (Dyadic.denominator_pos _ _)).le
  rcases Nat.lt_or_ge low c with hc | hc
  · exact .inr ⟨hc, Decimal.toFloat_of_between hx hexact h hge (Decimal.value_le_value hc grid)⟩
  · exact .inl ⟨hc, Decimal.toFloat_of_between hx h hexact (Decimal.value_le_value hc grid) hle⟩

/-- Where neither of the two around the value reads back, nothing does. -/
theorem toFloat_ne_of_neighbour?_eq_none {grid : ℤ}
    (hx : x.toModel.unpack = .finite .positive m e hm) (h : neighbour? tie x ⟨m, e⟩ grid = none)
    (c : ℕ) : Decimal.toFloat ⟨c, grid⟩ ≠ x := by
  intro hc
  obtain ⟨hlow, hhigh⟩ := neighbour?_eq_none h
  obtain ⟨-, hread⟩ | ⟨-, hread⟩ := neighbour_of_toFloat hx hc
  · exact nomatch hlow.symm.trans ((beq_iff_eq_of_unpack hx).2 hread)
  · exact nomatch hhigh.symm.trans ((beq_iff_eq_of_unpack hx).2 hread)

theorem le_abs_sub_of_le {k low : ℕ} {past : ℚ} (h : k ≤ low) :
    past ≤ |(k : ℚ) - (low + past)| := by
  have hcast : (k : ℚ) ≤ low := by exact_mod_cast h
  rw [abs_sub_comm]
  exact le_trans (by linarith) (le_abs_self _)

theorem sub_le_abs_sub_of_lt {k low : ℕ} {past : ℚ} (h : low + 1 ≤ k) :
    1 - past ≤ |(k : ℚ) - (low + past)| := by
  have hcast : (low : ℚ) + 1 ≤ k := by exact_mod_cast h
  exact le_trans (by linarith) (le_abs_self _)

/-- The neighbour that is meant is at least as near to the value as whatever reads back. -/
theorem abs_sub_neighbour?_le {c k : ℕ} {grid : ℤ}
    (hx : x.toModel.unpack = .finite .positive m e hm) (h : neighbour? tie x ⟨m, e⟩ grid = some c)
    (hk : Decimal.toFloat ⟨k, grid⟩ = x) :
    |(c : ℚ) - Dyadic.value ⟨m, e⟩ / 10 ^ grid| ≤ |(k : ℚ) - Dyadic.value ⟨m, e⟩ / 10 ^ grid| := by
  have hden := Dyadic.denominator_pos ⟨m, e⟩ grid
  have hpos : (0 : ℚ) < Dyadic.denominator ⟨m, e⟩ grid := by exact_mod_cast hden
  have hsides := neighbour_of_toFloat hx hk
  have hchosen := neighbour?_eq_some h
  have hlt := mod_div_lt_one (Dyadic.numerator ⟨m, e⟩ grid) hden
  simp only [beq_iff_eq_of_unpack hx] at hchosen
  rw [← Dyadic.numerator_div_denominator, div_eq_add_mod_div _ hden]
  dsimp only at hsides
  generalize Dyadic.numerator ⟨m, e⟩ grid = num, Dyadic.denominator ⟨m, e⟩ grid = den at *
  generalize num / den = low, num % den = rest at *
  obtain ⟨rfl, -, hother⟩ | ⟨rfl, -, hother⟩ := hchosen
  · have habs : |(c : ℚ) - (c + rest / den)| = rest / den := by
      rw [sub_add_cancel_left, abs_neg, abs_of_nonneg (by positivity)]
    rw [habs]
    obtain ⟨hk, -⟩ | ⟨hk, hread⟩ := hsides
    · exact le_abs_sub_of_le hk
    · have hless : (2 * rest : ℚ) ≤ den := by exact_mod_cast hother hread
      refine le_trans ?_ (sub_le_abs_sub_of_lt hk)
      rw [le_sub_iff_add_le, ← add_div, div_le_one hpos]
      linarith
  · have habs : |((low + 1 : ℕ) : ℚ) - (low + rest / den)| = 1 - rest / den := by
      push_cast
      rw [add_sub_add_left_eq_sub, abs_of_nonneg (by linarith)]
    rw [habs]
    obtain ⟨hk, hread⟩ | ⟨hk, -⟩ := hsides
    · have hmore : (den : ℚ) ≤ 2 * rest := by exact_mod_cast hother hread
      refine le_trans ?_ (le_abs_sub_of_le hk)
      rw [sub_le_iff_le_add, ← add_div, one_le_div hpos]
      linarith
    · exact sub_le_abs_sub_of_lt hk

/-- Distances on a grid are counted in its steps. -/
theorem Decimal.abs_value_sub (k : ℕ) (grid : ℤ) (v : ℚ) :
    |value ⟨k, grid⟩ - v| = |(k : ℚ) - v / 10 ^ grid| * 10 ^ grid := by
  have hpow : (0 : ℚ) < 10 ^ grid := by positivity
  rw [← abs_of_pos hpow, ← abs_mul, abs_of_pos hpow, sub_mul, div_mul_cancel₀ _ hpow.ne']
  rfl

/-! ## The search -/

/-- On grids that the search has passed nothing reads back. -/
theorem toFloat_ne_of_search (hx : x.toModel.unpack = .finite .positive m e hm) (steps : ℕ)
    {c : ℕ} {grid : ℤ} (hlt : (search tie x ⟨m, e⟩ steps).exponent < grid)
    (hle : grid ≤ Dyadic.finest ⟨m, e⟩ + steps) : Decimal.toFloat ⟨c, grid⟩ ≠ x := by
  induction steps with
  | zero =>
    change Dyadic.finest ⟨m, e⟩ < grid at hlt
    rw [Nat.cast_zero, add_zero] at hle
    omega
  | succ steps ih =>
    unfold search at hlt
    dsimp only at hlt
    split at hlt
    next =>
      dsimp only at hlt
      omega
    next hnone =>
      rcases hle.lt_or_eq with hlt' | rfl
      · exact ih hlt (by push_cast at hlt'; omega)
      · exact toFloat_ne_of_neighbour?_eq_none hx hnone c

/-- What the search finds is as near to the value as whatever reads back on its grid. -/
theorem abs_sub_search_le (hx : x.toModel.unpack = .finite .positive m e hm) (steps : ℕ) {k : ℕ}
    (hk : Decimal.toFloat ⟨k, (search tie x ⟨m, e⟩ steps).exponent⟩ = x) :
    |(search tie x ⟨m, e⟩ steps).value - Dyadic.value ⟨m, e⟩| ≤
      |Decimal.value ⟨k, (search tie x ⟨m, e⟩ steps).exponent⟩ - Dyadic.value ⟨m, e⟩| := by
  induction steps with
  | zero =>
    have hexact : (search tie x ⟨m, e⟩ 0).value = Dyadic.value ⟨m, e⟩ := Dyadic.value_exact m e
    rw [hexact, sub_self, abs_zero]
    exact abs_nonneg _
  | succ steps ih =>
    unfold search at hk ⊢
    dsimp only at hk ⊢
    split at hk
    next c hsome =>
      dsimp only at hk ⊢
      rw [Decimal.abs_value_sub, Decimal.abs_value_sub]
      gcongr ?_ * _
      exact abs_sub_neighbour?_le hx hsome hk
    next hnone => exact ih hk

/-- No decimal of a coarser grid reads back. -/
theorem toFloat_ne_of_lt (hx : x.toModel.unpack = .finite .positive m e hm) {c : ℕ} {grid : ℤ}
    (hlt : (shortest tie x).exponent < grid) : Decimal.toFloat ⟨c, grid⟩ ≠ x := by
  have hvalue : Dyadic.ofFloat? x = some ⟨m, e⟩ := by rw [Dyadic.ofFloat?, hx]
  rw [shortest, hvalue] at hlt
  rcases le_or_gt grid (Dyadic.coarsest ⟨m, e⟩) with hle | hgt
  · exact toFloat_ne_of_search hx _ hlt (by omega)
  · -- Above the power of ten that the search begins with, everything is more than half too great.
    intro hc
    have hpos := Decimal.coefficient_pos hx hc
    have hround := (Decimal.toFloat_eq_iff hx).1 hc
    have hhalf := hround.le_mul (Dyadic.value_pos hm e)
    have hone : (1 : ℚ) ≤ c := by exact_mod_cast hpos
    have hten : (10 : ℚ) * 10 ^ Dyadic.coarsest ⟨m, e⟩ ≤ 10 ^ grid := by
      rw [← zpow_one_add₀ (by norm_num)]
      exact zpow_le_zpow_right₀ (by norm_num) (by omega)
    have hle : (10 : ℚ) ^ grid ≤ Decimal.value ⟨c, grid⟩ :=
      le_mul_of_one_le_left (by positivity) hone
    have hbegin := Dyadic.value_le_coarsest (e := e) hm
    have := Dyadic.value_pos hm e
    linarith

/-- The shortest decimal is as near to the double as whatever reads back on its grid. -/
theorem abs_sub_shortest_le (hx : x.toModel.unpack = .finite .positive m e hm) {k : ℕ}
    (hk : Decimal.toFloat ⟨k, (shortest tie x).exponent⟩ = x) :
    |(shortest tie x).value - Dyadic.value ⟨m, e⟩| ≤
      |Decimal.value ⟨k, (shortest tie x).exponent⟩ - Dyadic.value ⟨m, e⟩| := by
  have hvalue : Dyadic.ofFloat? x = some ⟨m, e⟩ := by rw [Dyadic.ofFloat?, hx]
  rw [shortest, hvalue] at hk ⊢
  exact abs_sub_search_le hx _ hk

/-! ## The digits -/

/-- The digits of the shortest decimal. -/
def digitsOf (tie : Tie) (x : Float) : List Char :=
  toDigits (shortest tie x).coefficient

/-- The place of the point, counted from in front of the first digit. -/
def pointOf (tie : Tie) (x : Float) : ℤ :=
  (digitsOf tie x).length + (shortest tie x).exponent

theorem shortest_coefficient_pos (hx : x.toModel.unpack = .finite .positive m e hm) (tie : Tie) :
    0 < (shortest tie x).coefficient :=
  Decimal.coefficient_pos hx (toFloat_shortest hx)

theorem Decimal.value_lt_pow (d : Decimal) :
    d.value < 10 ^ ((toDigits d.coefficient).length + d.exponent : ℤ) := by
  have hlt : (d.coefficient : ℚ) < 10 ^ ((toDigits d.coefficient).length : ℤ) := by
    exact_mod_cast lt_pow_length_toDigits d.coefficient
  rw [value, zpow_add₀ (by norm_num)]
  gcongr

theorem Decimal.pow_le_value {d : Decimal} (hd : 0 < d.coefficient) :
    10 ^ ((toDigits d.coefficient).length - 1 + d.exponent : ℤ) ≤ d.value := by
  obtain ⟨k, hk⟩ := Nat.exists_eq_add_one.2 (length_toDigits_pos d.coefficient)
  have hle : (10 : ℚ) ^ (k : ℤ) ≤ d.coefficient := by
    exact_mod_cast pow_length_toDigits_le hd hk
  have hexponent : ((k + 1 : ℕ) : ℤ) - 1 = k := by push_cast; ring
  rw [hk, hexponent, value, zpow_add₀ (by norm_num)]
  gcongr

theorem Decimal.value_one (k : ℤ) : value ⟨1, k⟩ = 10 ^ k := by
  rw [value, Nat.cast_one, one_mul]

/-- No decimal that reads back has fewer digits. -/
theorem length_shortest_le (hx : x.toModel.unpack = .finite .positive m e hm) {d : Decimal}
    (hd : d.toFloat = x) :
    (digitsOf tie x).length ≤ (toDigits d.coefficient).length := by
  refine Nat.le_of_not_lt fun hlt => ?_
  have hread : (shortest tie x).toFloat = x := toFloat_shortest hx
  have hpos := shortest_coefficient_pos hx tie
  have hdpos := length_toDigits_pos d.coefficient
  have hgrid : d.exponent ≤ (shortest tie x).exponent :=
    not_lt.1 fun hlt => toFloat_ne_of_lt hx hlt hd
  -- Otherwise there is a power of ten between the two, which lies on a coarser grid.
  have hbetween : Decimal.toFloat
      ⟨1, (digitsOf tie x).length - 1 + (shortest tie x).exponent⟩ = x := by
    refine Decimal.toFloat_of_between hx hd hread ?_ ?_
    · rw [Decimal.value_one]
      exact (Decimal.value_lt_pow d).le.trans (zpow_le_zpow_right₀ (by norm_num) (by omega))
    · rw [Decimal.value_one]
      exact Decimal.pow_le_value hpos
  have hcoarser : (shortest tie x).exponent <
      (digitsOf tie x).length - 1 + (shortest tie x).exponent := by omega
  exact toFloat_ne_of_lt hx hcoarser hbetween

/-- The last digit is not zero. -/
theorem shortest_mod_ten (hx : x.toModel.unpack = .finite .positive m e hm) (tie : Tie) :
    (shortest tie x).coefficient % 10 ≠ 0 := by
  intro hzero
  have hread : (shortest tie x).toFloat = x := toFloat_shortest hx
  have hvalue : Decimal.value ⟨(shortest tie x).coefficient / 10, (shortest tie x).exponent + 1⟩ =
      (shortest tie x).value := by
    have hsplit : ((shortest tie x).coefficient : ℚ) =
        ((shortest tie x).coefficient / 10 : ℕ) * 10 := by
      exact_mod_cast (Nat.div_mul_cancel (Nat.dvd_of_mod_eq_zero hzero)).symm
    rw [Decimal.value, Decimal.value, hsplit, zpow_add_one₀ (by norm_num)]
    dsimp only
    ring
  exact toFloat_ne_of_lt hx (lt_add_one (shortest tie x).exponent)
    (Decimal.toFloat_of_between hx hread hread hvalue.ge hvalue.le)

/-! ## Powers of ten -/

/-- A double reaches the double of a power of ten if its shortest decimal reaches the power. -/
theorem toFloat_ten_pow_le_iff {k : ℤ} (hx : x.toModel.unpack = .finite .positive m e hm)
    (hk : (Decimal.toFloat ⟨1, k⟩).toModel.unpack = .finite .positive n f hn) (tie : Tie) :
    Decimal.toFloat ⟨1, k⟩ ≤ x ↔ k < pointOf tie x := by
  rw [pointOf, digitsOf]
  have hpos := shortest_coefficient_pos hx tie
  have hread : (shortest tie x).toFloat = x := toFloat_shortest hx
  have hround := (Decimal.toFloat_eq_iff hx).1 hread
  have hround' := (Decimal.toFloat_eq_iff hk).1 rfl
  rw [le_iff_value_le hk hx]
  constructor
  · intro hle
    by_contra hlt
    have hbelow : (shortest tie x).value ≤ Decimal.value ⟨1, k⟩ := by
      rw [Decimal.value_one]
      exact (Decimal.value_lt_pow _).le.trans (zpow_le_zpow_right₀ (by norm_num) (by omega))
    -- Both would be rounded to the same double, and the power of ten lies on a coarser grid.
    have hsame := le_antisymm hle (hround.mono hround' hbelow)
    have hread' := (Decimal.toFloat_eq_iff hx).2 (hsame ▸ hround')
    have hlength := length_toDigits_pos (shortest tie x).coefficient
    have hcoarser : (shortest tie x).exponent < k := by omega
    exact toFloat_ne_of_lt hx hcoarser hread'
  · intro hlt
    refine hround'.mono hround ?_
    rw [Decimal.value_one]
    exact (zpow_le_zpow_right₀ (by norm_num) (by omega)).trans (Decimal.pow_le_value hpos)

end Shortest

end TemplateLiteral.Number
