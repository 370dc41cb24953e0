import Mathlib
import TemplateLiteral.Proofs.Number.Reading

/-!
# Sums and products of doubles

A sum or a product of doubles that are not below zero is computed exactly and then rounded once, so
that it is the double nearest to the sum or the product of their values. Infinity counts as a number
past all doubles here, and what is nearest to such a number is infinity again.

## Main definitions

* `IsNearestDouble`: the double nearest to a number

## Main results

* `IsNearestDouble.unique`: there is only one
* `Decimal.isNearestDouble_toFloat`, `isNearestDouble_ofInt`: reading decimals and whole numbers
* `IsRead.add`, `IsRead.mul`: sums and products
-/

namespace TemplateLiteral.Number

open Float.Model (UnpackedFloat totalExponent)
open Float.Model.Format (binary64)
open Float.Model.UnpackedFloat

/-- The double is the nearest to a number that is not below zero. An exact tie goes to the even
neighbour, and what is rounded past the greatest double is infinity. -/
def IsNearestDouble (v : ℚ) (x : Float) : Prop :=
  ∃ w, Rounds v w ∧ IsRead x w

section Nearest

variable {x y : Float} {v w : ℚ} {m n : ℕ} {e f : ℤ}

theorem IsNearestDouble.unique (hx : IsNearestDouble v x) (hy : IsNearestDouble v y) : x = y := by
  obtain ⟨w, hround, hread⟩ := hx
  obtain ⟨w', hround', hread'⟩ := hy
  obtain rfl := hround.unique hround'
  exact hread.unique hread'

theorem IsRead.nonneg (h : IsRead x v) : 0 ≤ v := by
  cases h with
  | zero _ hv => exact hv.ge
  | @finite _ e hm _ hv => exact hv ▸ (Dyadic.value_pos hm e).le
  | infinity _ hv => exact (two_zpow_pos _).le.trans hv

theorem Decimal.isNearestDouble_toFloat (d : Decimal) : IsNearestDouble d.value d.toFloat :=
  exists_rounds d

/-- What is past all doubles is nearest to infinity. -/
theorem isNearestDouble_infinity (hx : x.toModel.unpack = .infinity .positive)
    (hv : 2 ^ (1024 : ℤ) ≤ v) : IsNearestDouble v x := by
  obtain ⟨w, hw⟩ := exists_rounds ((two_zpow_pos 1024).trans_le hv)
  exact ⟨w, hw, .infinity hx (rounds_two_pow_1024.mono hw hv)⟩

/-- A double is the nearest to its value. -/
theorem IsRead.isNearestDouble (h : IsRead x v) : IsNearestDouble v x := by
  cases h with
  | zero hx hv =>
    subst hv
    exact ⟨0, rounds_zero le_rfl (two_zpow_pos _), .zero hx rfl⟩
  | finite hx hv =>
    subst hv
    exact ⟨_, (canonical_of_unpack hx).rounds, .finite hx rfl⟩
  | infinity hx hv => exact isNearestDouble_infinity hx hv

theorem HasValue.isNearestDouble {parts : UnpackedFloat} (h : HasValue parts w) (hv : Rounds v w) :
    IsNearestDouble v (.ofModel (.pack parts)) :=
  ⟨w, hv, h.isRead⟩

/-- Of a number that is a double, nothing is lost. -/
theorem IsNearestDouble.isRead (h : IsNearestDouble v x) (hv : Rounds v v) : IsRead x v := by
  obtain ⟨w, hround, hread⟩ := h
  rwa [hround.unique hv] at hread

/-! ## Whole numbers -/

theorem log2_shiftLeft (hm : 0 < m) (k : ℕ) : (m <<< k).log2 = m.log2 + k := by
  rw [Nat.shiftLeft_eq, Nat.log2_eq_iff (by positivity), Nat.add_right_comm, pow_add, pow_add]
  exact ⟨Nat.mul_le_mul_right _ (Nat.log2_self_le hm.ne'),
    Nat.mul_lt_mul_of_pos_right Nat.lt_log2_self (by positivity)⟩

/-- A number is written with as many bits as are needed, and rounded. -/
theorem exists_rounds_round (hm : 0 < m) (e : ℤ) : ∃ w, Rounds (m * 2 ^ e) w ∧
    HasValue (UnpackedFloat.round binary64 .positive m e) w := by
  rw [UnpackedFloat.round, decreaseExponent]
  dsimp only
  generalize hk : (e - binary64.targetExponent (totalExponent m e)).toNat = k
  have htotal : totalExponent (m <<< k) (e - k) = totalExponent m e := by
    rw [totalExponent, totalExponent, log2_shiftLeft hm]
    push_cast
    ring
  have hvalue : ((m <<< k : ℕ) : ℚ) * 2 ^ (e - k) = m * 2 ^ e := by
    rw [Nat.shiftLeft_eq, Nat.cast_mul, Nat.cast_pow, Nat.cast_ofNat, mul_assoc, ← zpow_natCast,
      ← zpow_add₀ two_ne_zero, add_sub_cancel]
  rw [← hvalue]
  refine exists_rounds_roundWithAccuracy (represents_exact _) ?_
  rw [htotal]
  omega

theorem normalize_natCast (hm : 0 < m) (e : ℤ) :
    UnpackedFloat.normalize binary64 m e .positive =
      UnpackedFloat.round binary64 .positive m e := by
  have hcompare : compare (m : ℤ) 0 = .gt := compare_gt_iff_gt.2 (by exact_mod_cast hm)
  rw [UnpackedFloat.normalize, hcompare]
  rfl

/-- A whole number is read as the double nearest to it. -/
theorem isNearestDouble_ofInt (n : ℕ) : IsNearestDouble n (ofInt n) := by
  rcases Nat.eq_zero_or_pos n with rfl | hn
  · rw [Nat.cast_zero]
    exact ⟨0, rounds_zero le_rfl (two_zpow_pos _), .zero unpack_packedZero rfl⟩
  · have hparts : ofInt n = .ofModel (.pack (UnpackedFloat.round binary64 .positive n 0)) :=
      congrArg (Float.ofModel ∘ .pack) (normalize_natCast hn 0)
    obtain ⟨w, hround, hw⟩ := exists_rounds_round hn 0
    rw [zpow_zero, mul_one] at hround
    rw [hparts]
    exact hw.isNearestDouble hround

/-- Whole numbers up to `2 ^ 53` are doubles. -/
theorem rounds_natCast (hn : n ≤ 2 ^ 53) : Rounds n n := by
  rcases Nat.eq_zero_or_pos n with rfl | hpos
  · rw [Nat.cast_zero]
    exact rounds_zero le_rfl (two_zpow_pos _)
  rcases hn.lt_or_eq with hlt | rfl
  · -- The number is written with all the bits of a mantissa.
    obtain ⟨k, hk⟩ : ∃ k, n.log2 + k = 52 :=
      Nat.le.dest (Nat.le_of_lt_succ ((Nat.log2_lt hpos.ne').2 hlt))
    have hlow : 2 ^ 52 ≤ n * 2 ^ k := by
      rw [← hk, pow_add]
      exact Nat.mul_le_mul_right _ (Nat.log2_self_le hpos.ne')
    have hhigh : n * 2 ^ k < 2 ^ 53 := by
      have hsplit : 2 ^ 53 = 2 ^ (n.log2 + 1) * 2 ^ k := by
        rw [← pow_add]
        congr 1
        omega
      rw [hsplit]
      exact Nat.mul_lt_mul_of_pos_right Nat.lt_log2_self (by positivity)
    have hcanonical : Canonical (n * 2 ^ k) (-k) := ⟨by positivity, hhigh, by omega, .inl hlow⟩
    have hvalue : ((n * 2 ^ k : ℕ) : ℚ) * 2 ^ (-(k : ℤ)) = n := by
      rw [Nat.cast_mul, Nat.cast_pow, Nat.cast_ofNat, mul_assoc, ← zpow_natCast,
        ← zpow_add₀ two_ne_zero, add_neg_cancel, zpow_zero, mul_one]
    rw [← hvalue]
    exact hcanonical.rounds
  · have hcanonical : Canonical (2 ^ 52) 1 := ⟨by positivity, by decide, by decide, .inl le_rfl⟩
    have hvalue : ((2 ^ 52 : ℕ) : ℚ) * 2 ^ (1 : ℤ) = (2 ^ 53 : ℕ) := by norm_num
    rw [← hvalue]
    exact hcanonical.rounds

theorem isRead_ofInt (hn : n ≤ 2 ^ 53) : IsRead (ofInt n) n :=
  (isNearestDouble_ofInt n).isRead (rounds_natCast hn)

/-! ## Sums -/

theorem add_eq_pack (x y : Float) :
    x + y = .ofModel (.pack (UnpackedFloat.add binary64 x.toModel.unpack y.toModel.unpack)) :=
  rfl

theorem add_eq_of_unpack {z : Float}
    (h : UnpackedFloat.add binary64 x.toModel.unpack y.toModel.unpack = z.toModel.unpack) :
    x + y = z := by
  rw [add_eq_pack, h, ofModel_pack_unpack]

/-- Both numbers are written with the smaller of their exponents. -/
theorem exists_add_finite (hm : 0 < m) (hn : 0 < n) : ∃ k, 0 < k ∧
    UnpackedFloat.add binary64 (.finite .positive m e hm) (.finite .positive n f hn) =
      UnpackedFloat.round binary64 .positive k (min e f) ∧
    (k : ℚ) * 2 ^ min e f = m * 2 ^ e + n * 2 ^ f := by
  have hscale : ∀ (c : ℕ) (g : ℤ), min e f ≤ g →
      ((c <<< (g - min e f).toNat : ℕ) : ℚ) * 2 ^ min e f = c * 2 ^ g := by
    intro c g hg
    rw [Nat.shiftLeft_eq, Nat.cast_mul, Nat.cast_pow, Nat.cast_ofNat, mul_assoc, ← zpow_natCast,
      ← zpow_add₀ two_ne_zero]
    congr 2
    omega
  have hpos : 0 < m <<< (e - min e f).toNat := by
    rw [Nat.shiftLeft_eq]
    positivity
  refine ⟨m <<< (e - min e f).toNat + n <<< (f - min e f).toNat, Nat.add_pos_left hpos _, ?_, ?_⟩
  · rw [← normalize_natCast (Nat.add_pos_left hpos _), Nat.cast_add]
    rfl
  · rw [Nat.cast_add, add_mul, hscale m e (min_le_left _ _), hscale n f (min_le_right _ _)]

/-- A sum is computed exactly and rounded once. -/
theorem IsRead.add (hx : IsRead x v) (hy : IsRead y w) : IsNearestDouble (v + w) (x + y) := by
  have hv := hx.nonneg
  have hw := hy.nonneg
  cases hx with
  | zero hx =>
    subst v
    have hsum : x + y = y := by
      refine add_eq_of_unpack ?_
      rw [hx]
      cases hy <;> simp_all [UnpackedFloat.add]
    rw [hsum, zero_add]
    exact hy.isNearestDouble
  | infinity hx hlarge =>
    have hsum : x + y = x := by
      refine add_eq_of_unpack ?_
      rw [hx]
      cases hy <;> simp_all [UnpackedFloat.add]
    rw [hsum]
    exact isNearestDouble_infinity hx (hlarge.trans (le_add_of_nonneg_right hw))
  | @finite m e hm hx =>
    subst v
    cases hy with
    | zero hy =>
      subst w
      have hsum : x + y = x := add_eq_of_unpack (by rw [hx, hy]; rfl)
      rw [hsum, add_zero]
      exact (IsRead.finite hx rfl).isNearestDouble
    | infinity hy hlarge =>
      have hsum : x + y = y := add_eq_of_unpack (by rw [hx, hy]; rfl)
      rw [hsum]
      exact isNearestDouble_infinity hy (hlarge.trans (le_add_of_nonneg_left hv))
    | @finite n f hn hy =>
      subst w
      obtain ⟨k, hk, hparts, hvalue⟩ := @exists_add_finite m n e f hm hn
      obtain ⟨w, hround, hw⟩ := exists_rounds_round hk (min e f)
      rw [hvalue] at hround
      rw [add_eq_pack, hx, hy, hparts]
      exact hw.isNearestDouble hround

/-! ## Products -/

theorem mul_eq_pack (x y : Float) :
    x * y = .ofModel (.pack (UnpackedFloat.mul binary64 x.toModel.unpack y.toModel.unpack)) :=
  rfl

/-- The product of two mantissas has all the bits that are needed for rounding. -/
theorem Canonical.le_targetExponent_mul (hm : Canonical m e) (hn : Canonical n f) :
    e + f ≤ binary64.targetExponent (totalExponent (m * n) (e + f)) := by
  rw [targetExponent_binary64, totalExponent]
  rcases le_or_gt (2 ^ 52) (m * n) with hle | hlt
  · have hlog := (Nat.le_log2 (Nat.mul_pos hm.pos hn.pos).ne').2 hle
    omega
  · -- Then neither mantissa has all of its bits, and both exponents are the least.
    have hleft : m < 2 ^ 52 := (Nat.le_mul_of_pos_right m hn.pos).trans_lt hlt
    have hright : n < 2 ^ 52 := (Nat.le_mul_of_pos_left n hm.pos).trans_lt hlt
    have he := hm.normal.resolve_left hleft.not_ge
    have hf := hn.normal.resolve_left hright.not_ge
    omega

/-- A product is computed exactly and rounded once, where one of the numbers is a double that is not
below one, so that its product with infinity is past all doubles. -/
theorem IsRead.mul (hx : IsRead x v) (hy : IsRead y w) (hone : 1 ≤ w) (hlt : w < 2 ^ (1024 : ℤ)) :
    IsNearestDouble (v * w) (x * y) := by
  have hv := hx.nonneg
  cases hy with
  | zero _ hzero => exact absurd (hzero ▸ hone) (by decide)
  | infinity _ hlarge => exact absurd hlt hlarge.not_gt
  | @finite n f hn hy hw =>
  rw [mul_eq_pack, hy]
  cases hx with
  | zero hx hzero =>
    rw [hx, hzero, zero_mul]
    exact HasValue.zero.isNearestDouble (rounds_zero le_rfl (two_zpow_pos _))
  | infinity hx hlarge =>
    have hproduct : UnpackedFloat.mul binary64 x.toModel.unpack (.finite .positive n f hn) =
        x.toModel.unpack := by rw [hx]; rfl
    rw [hproduct, ofModel_pack_unpack]
    exact isNearestDouble_infinity hx (hlarge.trans (le_mul_of_one_le_right hv hone))
  | @finite m e hm hx hv =>
    have htarget := (canonical_of_unpack hx).le_targetExponent_mul (canonical_of_unpack hy)
    have hexact : Represents (.ofMantissaAndAccuracy (m * n) .exact) (m * n : ℕ) :=
      represents_exact (m * n)
    obtain ⟨u, hround, hu⟩ := exists_rounds_roundWithAccuracy hexact htarget
    have hproduct : ((m * n : ℕ) : ℚ) * 2 ^ (e + f) = v * w := by
      rw [hv, hw, Dyadic.value, Dyadic.value, zpow_add₀ two_ne_zero]
      push_cast
      ring
    rw [hproduct] at hround
    rw [hx]
    exact hu.isNearestDouble hround

end Nearest

end TemplateLiteral.Number
