import Mathlib
import TemplateLiteral.Proofs.Number.Rounding

/-!
# Decimals are read as the nearest doubles

A decimal is multiplied out, or divided with as many digits as are needed, and rounded. What it is
read as is told by the number that it is: it is read as a given double if it is rounded to the value
of the double, so that all decimals between two that are read as a double are read as this double,
too.

## Main definitions

* `Decimal.value`, `Dyadic.value`: the rational numbers
* `IsRead`: the double for a number that has been rounded

## Main results

* `Decimal.toFloat_eq_iff`: which decimals are read as a given double
* `Decimal.toFloat_of_between`: those between two that are read as it
* `Decimal.toFloat_trailing_zeros`: zeros at the end count for the power of ten
* `compare_eq_compare_value`: doubles are in the order of their values
-/

namespace TemplateLiteral.Number

open Float.Model (UnpackedFloat totalExponent)
open Float.Model.Format (binary64)
open Float.Model.UnpackedFloat

/-- The rational number that a decimal is. -/
def Decimal.value (d : Decimal) : ℚ :=
  d.coefficient * 10 ^ d.exponent

/-- The value of a double. -/
def Dyadic.value (x : Dyadic) : ℚ :=
  x.mantissa * 2 ^ x.exponent

/-! ## Multiplying out and dividing -/

section Scientific

variable {c n : ℕ} {g : ℤ}

theorem two_pow_exponentBits : (2 : ℤ) ^ binary64.exponentBits = 2048 := rfl

theorem ofScientific_large (hc : 0 < c) (hg : 2048 < g) :
    UnpackedFloat.ofScientific binary64 c g = .infinity .positive := by
  rw [UnpackedFloat.ofScientific, dif_neg hc.ne', two_pow_exponentBits, if_pos hg]

theorem ofScientific_small (hc : 0 < c) (hg : g < -(2048 + c.log2)) :
    UnpackedFloat.ofScientific binary64 c g = .zero .positive := by
  rw [UnpackedFloat.ofScientific, dif_neg hc.ne', two_pow_exponentBits, if_neg (by omega),
    if_pos hg]

theorem ofScientific_natural (hc : 0 < c) (hn : n ≤ 2048) :
    UnpackedFloat.ofScientific binary64 c n =
      roundWithAccuracy binary64 .positive (c * 10 ^ n * 2 ^ 53) (-53) .exact := by
  rw [UnpackedFloat.ofScientific, dif_neg hc.ne', two_pow_exponentBits, if_neg (by omega),
    if_neg (by omega), if_pos (Int.natCast_nonneg n)]
  change roundWithAccuracy _ _ (c <<< 53 * 10 ^ (n : Int).toNat) (-53 + 0) _ = _
  rw [Nat.shiftLeft_eq, Int.toNat_natCast, add_zero, mul_right_comm]
  rfl

theorem ofScientific_quotient (hc : 0 < c) (hn : 0 < n) (hle : n ≤ 2048 + c.log2) :
    UnpackedFloat.ofScientific binary64 c (-(n : ℤ)) = UnpackedFloat.div binary64
      (.finite .positive c 0 hc) (.finite .positive (10 ^ n) 0 (by positivity)) := by
  rw [UnpackedFloat.ofScientific, dif_neg hc.ne', two_pow_exponentBits, if_neg (by omega),
    if_neg (by omega), if_neg (by omega)]
  simp only [neg_neg, Int.toNat_natCast]

theorem exists_rounds_ofScientific_natural (hc : 0 < c) (hn : n ≤ 2048) :
    ∃ w, Rounds (c * 10 ^ n) w ∧ HasValue (UnpackedFloat.ofScientific binary64 c n) w := by
  have hlog : 53 ≤ (c * 10 ^ n * 2 ^ 53).log2 :=
    (Nat.le_log2 (by positivity)).2 (Nat.le_mul_of_pos_left _ (by positivity))
  have htarget : (-53 : ℤ) ≤
      binary64.targetExponent (totalExponent (c * 10 ^ n * 2 ^ 53) (-53)) := by
    rw [targetExponent_binary64, totalExponent]
    omega
  have hvalue : ((c * 10 ^ n * 2 ^ 53 : ℕ) : ℚ) * 2 ^ (-53 : ℤ) = c * 10 ^ n := by
    push_cast
    rw [mul_assoc]
    norm_num
  rw [ofScientific_natural hc hn, ← hvalue]
  exact exists_rounds_roundWithAccuracy (represents_exact _) htarget

/-- A quotient has all digits that are needed for rounding. -/
theorem le_targetExponent_divCore (hc : 0 < c) (hn : 0 < n) :
    (divCore binary64 c 0 n 0).2.1 ≤ binary64.targetExponent
      (totalExponent (divCore binary64 c 0 n 0).1 (divCore binary64 c 0 n 0).2.1) := by
  rw [divCore]
  dsimp only
  have htarget : binary64.targetExponent (totalExponent c 0 - totalExponent n 0) =
      max ((c.log2 : ℤ) - n.log2 - 53) (-1074) := by
    rw [targetExponent_binary64, totalExponent, totalExponent]
    congr 1
    ring
  rw [htarget, targetExponent_binary64, totalExponent]
  obtain ⟨k, hk⟩ : ∃ k : ℕ, min (0 - 0 : ℤ) (max ((c.log2 : ℤ) - n.log2 - 53) (-1074)) = -k :=
    ⟨_, Int.eq_neg_natAbs_of_nonpos (by omega)⟩
  rw [hk]
  have hshift : (0 - 0 - (-(k : ℤ))).toNat = k := by omega
  rw [hshift]
  rcases le_or_gt 1074 k with hle | hlt
  · omega
  -- Otherwise the quotient has as many bits as a mantissa.
  have hlow : 2 ^ 52 ≤ c <<< k / n := by
    rw [Nat.le_div_iff_mul_le hn, Nat.shiftLeft_eq]
    calc 2 ^ 52 * n ≤ 2 ^ 52 * 2 ^ (n.log2 + 1) := Nat.mul_le_mul_left _ Nat.lt_log2_self.le
      _ = 2 ^ (52 + (n.log2 + 1)) := (pow_add ..).symm
      _ ≤ 2 ^ (c.log2 + k) := Nat.pow_le_pow_right two_pos (by omega)
      _ = 2 ^ c.log2 * 2 ^ k := pow_add ..
      _ ≤ c * 2 ^ k := Nat.mul_le_mul_right _ (Nat.log2_self_le hc.ne')
  have hlog := (Nat.le_log2 (by positivity)).2 hlow
  omega

theorem exists_rounds_div (hc : 0 < c) (hn : 0 < n) :
    ∃ w, Rounds (c / n) w ∧ HasValue
      (UnpackedFloat.div binary64 (.finite .positive c 0 hc) (.finite .positive n 0 hn)) w := by
  have htarget := le_targetExponent_divCore hc hn
  have hrepresents : Represents (.ofMantissaAndAccuracy (divCore binary64 c 0 n 0).1
      (divCore binary64 c 0 n 0).2.2) (c / n * 2 ^ (-(divCore binary64 c 0 n 0).2.1)) := by
    rw [divCore]
    dsimp only
    obtain ⟨k, hk⟩ : ∃ k : ℕ, min (0 - 0 : ℤ) (binary64.targetExponent
        (totalExponent c 0 - totalExponent n 0)) = -k :=
      ⟨_, Int.eq_neg_natAbs_of_nonpos (by omega)⟩
    rw [hk, neg_neg]
    have hshift : (0 - 0 - (-(k : ℤ))).toNat = k := by omega
    have hvalue : (c : ℚ) / n * 2 ^ (k : ℤ) = ((c <<< k : ℕ) : ℚ) / n := by
      rw [Nat.shiftLeft_eq, zpow_natCast]
      push_cast
      ring
    rw [hshift, hvalue]
    exact represents_fraction _ hn
  obtain ⟨w, hround, hw⟩ := exists_rounds_roundWithAccuracy hrepresents htarget
  rw [mul_assoc, ← zpow_add₀ two_ne_zero, neg_add_cancel, zpow_zero, mul_one] at hround
  exact ⟨w, hround, hw⟩

/-- The number past all doubles, which is rounded to itself. -/
theorem rounds_two_pow_1024 : Rounds (2 ^ (1024 : ℤ)) (2 ^ (1024 : ℤ)) := by
  have hcanonical : Canonical (2 ^ 52) 972 := ⟨by positivity, by decide, by decide, .inl le_rfl⟩
  have hpow : ((2 ^ 52 : ℕ) : ℚ) * 2 ^ (972 : ℤ) = 2 ^ (1024 : ℤ) := by
    rw [Nat.cast_pow, Nat.cast_ofNat, ← zpow_natCast]
    exact (zpow_add₀ two_ne_zero 52 972).symm
  rw [← hpow]
  exact hcanonical.rounds

/-- What is read as infinity without being multiplied out is greater than every double. -/
theorem exists_rounds_large (hc : 0 < c) (hg : 2048 < g) :
    ∃ w, Rounds (c * 10 ^ g) w ∧ 2 ^ (1024 : ℤ) ≤ w := by
  obtain ⟨w, hw⟩ := exists_rounds (v := c * 10 ^ g) (by positivity)
  refine ⟨w, hw, rounds_two_pow_1024.mono hw ?_⟩
  have hone : (1 : ℚ) ≤ c := by exact_mod_cast hc
  calc (2 : ℚ) ^ (1024 : ℤ) ≤ 2 ^ g := zpow_le_zpow_right₀ one_le_two (by omega)
    _ ≤ 10 ^ g := zpow_le_zpow_left₀ (by omega) two_pos.le (by norm_num)
    _ ≤ c * 10 ^ g := le_mul_of_one_le_left (by positivity) hone

/-- What is read as zero without being divided is smaller than every double. -/
theorem rounds_small (hg : g < -(2048 + c.log2)) : Rounds (c * 10 ^ g) 0 := by
  refine rounds_zero (by positivity) ?_
  have hc : (c : ℚ) < 2 ^ ((c.log2 : ℤ) + 1) := by
    exact_mod_cast (Nat.lt_log2_self : c < 2 ^ (c.log2 + 1))
  have hpow : (10 : ℚ) ^ g ≤ 2 ^ g := by
    obtain ⟨k, rfl⟩ : ∃ k : ℕ, g = -k := ⟨_, Int.eq_neg_natAbs_of_nonpos (by omega)⟩
    rw [zpow_neg, zpow_neg, zpow_natCast, zpow_natCast]
    gcongr
    norm_num
  calc (c : ℚ) * 10 ^ g ≤ c * 2 ^ g := by gcongr
    _ < 2 ^ ((c.log2 : ℤ) + 1) * 2 ^ g := by gcongr
    _ = 2 ^ ((c.log2 : ℤ) + 1 + g) := (zpow_add₀ two_ne_zero _ _).symm
    _ ≤ 2 ^ (-1075 : ℤ) := zpow_le_zpow_right₀ one_le_two (by omega)

end Scientific

/-! ## What is read -/

/-- The double for a number that has been rounded: there may be none of its size. -/
inductive IsRead (x : Float) (w : ℚ) : Prop where
  | zero (hx : x.toModel.unpack = .zero .positive) (hw : w = 0)
  | finite {m : ℕ} {e : ℤ} {hm : 0 < m} (hx : x.toModel.unpack = .finite .positive m e hm)
      (hw : w = Dyadic.value ⟨m, e⟩)
  | infinity (hx : x.toModel.unpack = .infinity .positive) (hw : 2 ^ (1024 : ℤ) ≤ w)

section Read

variable {x y : Float} {w : ℚ} {m n : ℕ} {e f : ℤ} {hm : 0 < m} {hn : 0 < n} {d d₁ d₂ : Decimal}

theorem Dyadic.value_pos (hm : 0 < m) (e : ℤ) : 0 < value ⟨m, e⟩ :=
  mul_pos (by exact_mod_cast hm) (two_zpow_pos e)

theorem Dyadic.value_lt (hx : x.toModel.unpack = .finite .positive m e hm) :
    value ⟨m, e⟩ < 2 ^ (1024 : ℤ) := by
  have hlt : (m : ℚ) < 2 ^ (53 : ℤ) := by exact_mod_cast (canonical_of_unpack hx).lt
  have hle := exponent_le_of_unpack hx
  calc (m : ℚ) * 2 ^ e < 2 ^ (53 : ℤ) * 2 ^ e := by gcongr
    _ = 2 ^ (53 + e) := (zpow_add₀ two_ne_zero _ _).symm
    _ ≤ 2 ^ (1024 : ℤ) := zpow_le_zpow_right₀ one_le_two (by omega)

/-- What is read for a number of the size of a double has the number as its value. -/
theorem IsRead.eq_value (h : IsRead x w) (hx : x.toModel.unpack = .finite .positive m e hm) :
    w = Dyadic.value ⟨m, e⟩ := by
  cases h with
  | zero h _ => cases hx.symm.trans h
  | infinity h _ => cases hx.symm.trans h
  | finite h hw =>
    obtain ⟨-, rfl, rfl⟩ := UnpackedFloat.finite.inj (hx.symm.trans h)
    exact hw

theorem IsRead.of_value (h : IsRead y (Dyadic.value ⟨m, e⟩))
    (hx : x.toModel.unpack = .finite .positive m e hm) : y = x := by
  cases h with
  | zero _ hw => exact absurd hw (Dyadic.value_pos hm e).ne'
  | infinity _ hw => exact absurd hw (Dyadic.value_lt hx).not_ge
  | finite h hw =>
    obtain ⟨rfl, rfl⟩ := (canonical_of_unpack hx).eq_of_value_eq (canonical_of_unpack h) hw
    exact unpack_inj.1 (h.trans hx.symm)

/-- One double is read for a number. -/
theorem IsRead.unique (h : IsRead x w) (h' : IsRead y w) : x = y := by
  have hsize : (0 : ℚ) < 2 ^ (1024 : ℤ) := two_zpow_pos _
  cases h with
  | finite hx hw =>
    rw [hw] at h'
    exact (h'.of_value hx).symm
  | zero hx hw =>
    cases h' with
    | zero hy _ => exact unpack_inj.1 (hx.trans hy.symm)
    | @finite _ _ hn _ hw' => exact absurd (hw'.symm.trans hw) (Dyadic.value_pos hn _).ne'
    | infinity _ hw' => exact absurd (hw ▸ hw') hsize.not_ge
  | infinity hx hw =>
    cases h' with
    | zero _ hw' => exact absurd (hw' ▸ hw) hsize.not_ge
    | finite hy hw' => exact absurd (hw' ▸ hw) (Dyadic.value_lt hy).not_ge
    | infinity hy _ => exact unpack_inj.1 (hx.trans hy.symm)

theorem HasValue.isRead {parts : UnpackedFloat} (h : HasValue parts w) :
    IsRead (.ofModel (.pack parts)) w := by
  cases h with
  | zero => exact .zero unpack_packedZero rfl
  | @finite m e h =>
    rcases le_or_gt e 971 with he | he
    · exact .finite (h.unpack_pack he .positive) rfl
    · have hlow : 2 ^ 52 ≤ m := h.normal.resolve_right (by omega)
      have hlow' : (2 : ℚ) ^ (52 : ℤ) ≤ m := by exact_mod_cast hlow
      refine .infinity (unpack_pack_of_lt h.pos he .positive) ?_
      calc (2 : ℚ) ^ (1024 : ℤ) = 2 ^ (52 : ℤ) * 2 ^ (972 : ℤ) := zpow_add₀ two_ne_zero 52 972
        _ ≤ m * 2 ^ e := mul_le_mul hlow' (zpow_le_zpow_right₀ one_le_two he)
          (two_zpow_pos _).le (Nat.cast_nonneg m)

namespace Decimal

/-- A decimal is rounded, and the result is read. -/
theorem exists_rounds (d : Decimal) : ∃ w, Rounds d.value w ∧ IsRead d.toFloat w := by
  obtain ⟨c, g⟩ := d
  have hread : toFloat ⟨c, g⟩ = .ofModel (.pack (UnpackedFloat.ofScientific binary64 c g)) := rfl
  rw [value]
  rcases Nat.eq_zero_or_pos c with rfl | hc
  · rw [Nat.cast_zero, zero_mul]
    exact ⟨0, rounds_zero le_rfl (two_zpow_pos _), .zero unpack_packedZero rfl⟩
  rw [hread]
  rcases lt_or_ge 2048 g with hlarge | hlarge
  · obtain ⟨w, hround, hw⟩ := exists_rounds_large hc hlarge
    refine ⟨w, hround, .infinity ?_ hw⟩
    rw [ofScientific_large hc hlarge]
    rfl
  rcases lt_or_ge g (-(2048 + c.log2)) with hsmall | hsmall
  · refine ⟨0, rounds_small hsmall, .zero ?_ rfl⟩
    rw [ofScientific_small hc hsmall]
    exact unpack_packedZero
  rcases le_or_gt 0 g with hg | hg
  · obtain ⟨k, rfl⟩ := Int.eq_ofNat_of_zero_le hg
    obtain ⟨w, hround, hw⟩ := exists_rounds_ofScientific_natural hc (n := k) (by omega)
    exact ⟨w, by rwa [zpow_natCast], hw.isRead⟩
  · obtain ⟨k, rfl⟩ : ∃ k : ℕ, g = -k := ⟨_, Int.eq_neg_natAbs_of_nonpos hg.le⟩
    obtain ⟨w, hround, hw⟩ := exists_rounds_div hc (n := 10 ^ k) (by positivity)
    rw [ofScientific_quotient hc (by omega) (by omega)]
    refine ⟨w, ?_, hw.isRead⟩
    rwa [zpow_neg, zpow_natCast, ← div_eq_mul_inv, ← Nat.cast_ofNat, ← Nat.cast_pow]

/-- A decimal is read as a double if it is rounded to the value of the double. -/
theorem toFloat_eq_iff (hx : x.toModel.unpack = .finite .positive m e hm) :
    d.toFloat = x ↔ Rounds d.value (Dyadic.value ⟨m, e⟩) := by
  obtain ⟨w, hround, hread⟩ := exists_rounds d
  constructor
  · rintro rfl
    rwa [← hread.eq_value hx]
  · intro hround'
    obtain rfl := hround.unique hround'
    exact hread.of_value hx

/-- What lies between two decimals that are read as a double is read as it, too. -/
theorem toFloat_of_between (hx : x.toModel.unpack = .finite .positive m e hm)
    (h₁ : d₁.toFloat = x) (h₂ : d₂.toFloat = x) (hle : d₁.value ≤ d.value)
    (hge : d.value ≤ d₂.value) : d.toFloat = x := by
  have hround₁ := (toFloat_eq_iff hx).1 h₁
  have hround₂ := (toFloat_eq_iff hx).1 h₂
  obtain ⟨w, hround, -⟩ := exists_rounds d
  obtain rfl := le_antisymm (hround.mono hround₂ hge) (hround₁.mono hround hle)
  exact (toFloat_eq_iff hx).2 hround

/-- A decimal is read as the number that it is. -/
theorem toFloat_congr (h : d₁.value = d₂.value) : d₁.toFloat = d₂.toFloat := by
  obtain ⟨w₁, hround₁, hread₁⟩ := exists_rounds d₁
  obtain ⟨w₂, hround₂, hread₂⟩ := exists_rounds d₂
  rw [h] at hround₁
  obtain rfl := hround₁.unique hround₂
  exact hread₁.unique hread₂

/-- Zeros at the end count for the power of ten. -/
theorem toFloat_trailing_zeros (c k : ℕ) : toFloat ⟨c * 10 ^ k, 0⟩ = toFloat ⟨c, k⟩ := by
  refine toFloat_congr ?_
  rw [value, value, zpow_zero, mul_one, zpow_natCast]
  push_cast
  rfl

theorem coefficient_pos (hx : x.toModel.unpack = .finite .positive m e hm)
    (h : d.toFloat = x) : 0 < d.coefficient := by
  refine Nat.pos_of_ne_zero fun hzero => ?_
  have hround := (toFloat_eq_iff hx).1 h
  rw [value, hzero, Nat.cast_zero, zero_mul] at hround
  exact (Dyadic.value_pos hm e).ne' (hround.unique (rounds_zero le_rfl (two_zpow_pos _)))

end Decimal

/-! ## The order of doubles -/

/-- Doubles are in the order of their values. -/
theorem compare_eq_compare_value (hx : x.toModel.unpack = .finite .positive m e hm)
    (hy : y.toModel.unpack = .finite .positive n f hn) :
    UnpackedFloat.compare x.toModel.unpack y.toModel.unpack =
      some (compare (Dyadic.value ⟨m, e⟩) (Dyadic.value ⟨n, f⟩)) := by
  have hcx := canonical_of_unpack hx
  have hcy := canonical_of_unpack hy
  rw [hx, hy, Dyadic.value, Dyadic.value]
  refine congrArg some ?_
  change (compare e f).then (compare m n) = compare ((m : ℚ) * 2 ^ e) (n * 2 ^ f)
  rcases lt_trichotomy e f with hlt | rfl | hlt
  · rw [compare_lt_iff_lt.2 hlt, compare_lt_iff_lt.2 (hcx.value_lt_of_exponent_lt hcy hlt)]
    rfl
  · rw [compare_eq_iff_eq.2 rfl]
    change compare m n = _
    rcases lt_trichotomy m n with hlt | rfl | hlt
    · rw [compare_lt_iff_lt.2 hlt, compare_lt_iff_lt.2 (by gcongr)]
    · rw [compare_eq_iff_eq.2 rfl, compare_eq_iff_eq.2 rfl]
    · rw [compare_gt_iff_gt.2 hlt, compare_gt_iff_gt.2 (by gcongr)]
  · rw [compare_gt_iff_gt.2 hlt, compare_gt_iff_gt.2 (hcy.value_lt_of_exponent_lt hcx hlt)]
    rfl

theorem le_iff_value_le (hx : x.toModel.unpack = .finite .positive m e hm)
    (hy : y.toModel.unpack = .finite .positive n f hn) :
    x ≤ y ↔ Dyadic.value ⟨m, e⟩ ≤ Dyadic.value ⟨n, f⟩ := by
  change decide (x.toModel.unpack.le y.toModel.unpack = true) = true ↔ _
  rw [decide_eq_true_iff, UnpackedFloat.le, compare_eq_compare_value hx hy]
  exact Ordering.isLE_iff_ne_gt.trans compare_le_iff_le

theorem lt_iff_value_lt (hx : x.toModel.unpack = .finite .positive m e hm)
    (hy : y.toModel.unpack = .finite .positive n f hn) :
    x < y ↔ Dyadic.value ⟨m, e⟩ < Dyadic.value ⟨n, f⟩ := by
  rw [lt_iff_compare, compare_eq_compare_value hx hy, Option.some_inj]
  exact compare_lt_iff_lt

end Read

end TemplateLiteral.Number
