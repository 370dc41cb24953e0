import Mathlib
import TemplateLiteral.Proofs.Number.Double

/-!
# Rounding to doubles

A positive rational number is scaled by a power of two until its whole part has all the bits of a
mantissa, or until the power is the least, and then taken to the nearest whole number. This is
monotone, also where two numbers are scaled by different powers: what the one is rounded to has at
most as many bits as the other begins with. The bits that are kept of a number while it is scaled
tell where it lies between two whole numbers, which is all that is needed.

## Main definitions

* `IsNearest`: the whole number nearest to a rational one
* `RoundsAt`, `Rounds`: rounding, as if there were no greatest exponent
* `Represents`: what the bits of an extended mantissa say of a number
* `HasValue`: the value of a number that rounding has given

## Main results

* `Rounds.mono`: rounding is monotone
* `exists_roundsAt_roundWithAccuracy`: rounding of parts is rounding of what they represent
-/

namespace TemplateLiteral.Number

open Float.Model (UnpackedFloat totalExponent)
open Float.Model.Format (binary64)
open Float.Model.UnpackedFloat

/-! ## The nearest whole number -/

/-- The number is the whole number nearest to a rational one, an exact tie going to the even
neighbour. -/
structure IsNearest (q : ℚ) (n : ℕ) : Prop where
  le_add : n ≤ q + 1 / 2
  sub_le : q - 1 / 2 ≤ n
  even : n = q + 1 / 2 ∨ n = q - 1 / 2 → Even n

section IsNearest

variable {q r : ℚ} {k n : ℕ}

theorem IsNearest.mono (hn : IsNearest q n) (hk : IsNearest r k) (h : q ≤ r) : n ≤ k := by
  by_contra hlt
  have hcast : (k : ℚ) + 1 ≤ n := by exact_mod_cast Nat.lt_of_not_le hlt
  have hle := hn.le_add
  have hge := hk.sub_le
  -- The two can only be out of order on both sides of one tie, but then one of them is odd.
  have heven : Even n := hn.even (.inl (by linarith))
  have heven' : Even k := hk.even (.inr (by linarith))
  have hsucc : (n : ℚ) = k + 1 := by linarith
  have hsucc' : n = k + 1 := by exact_mod_cast hsucc
  rw [hsucc', Nat.even_add_one] at heven
  exact heven heven'

theorem isNearest_natCast (n : ℕ) : IsNearest n n where
  le_add := by linarith
  sub_le := by linarith
  even h := by rcases h with h | h <;> linarith

theorem exists_isNearest (hq : 0 ≤ q) : ∃ n, IsNearest q n := by
  have hle : (⌊q⌋₊ : ℚ) ≤ q := Nat.floor_le hq
  have hlt : q < ⌊q⌋₊ + 1 := Nat.lt_floor_add_one q
  rcases lt_trichotomy q (⌊q⌋₊ + 1 / 2) with h | h | h
  · exact ⟨⌊q⌋₊, by linarith, by linarith, by rintro (h' | h') <;> linarith⟩
  · rcases Nat.even_or_odd ⌊q⌋₊ with heven | hodd
    · exact ⟨⌊q⌋₊, by linarith, by linarith, fun _ => heven⟩
    · exact ⟨⌊q⌋₊ + 1, by push_cast; linarith, by push_cast; linarith, fun _ => hodd.add_one⟩
  · refine ⟨⌊q⌋₊ + 1, by push_cast; linarith, by push_cast; linarith, ?_⟩
    push_cast
    rintro (h' | h') <;> linarith

end IsNearest

/-! ## Rounding of rational numbers -/

/-- A rational number is rounded to a whole number of steps of `2 ^ e`. -/
structure RoundsAt (v : ℚ) (e : ℤ) (n : ℕ) : Prop where
  least : -1074 ≤ e
  lt : v < 2 ^ (e + 53)
  normal : 2 ^ (e + 52) ≤ v ∨ e = -1074
  nearest : IsNearest (v / 2 ^ e) n

/-- A rational number is rounded to another, as if there were no greatest exponent. -/
def Rounds (v w : ℚ) : Prop :=
  ∃ e n, RoundsAt v e n ∧ w = n * 2 ^ e

section Rounds

variable {u v w w' : ℚ} {e f : ℤ} {k m n : ℕ}

theorem two_zpow_pos (e : ℤ) : (0 : ℚ) < 2 ^ e :=
  zpow_pos two_pos e

theorem RoundsAt.le (h : RoundsAt v e n) : n ≤ 2 ^ 53 := by
  refine h.nearest.mono (isNearest_natCast (2 ^ 53)) ?_
  rw [div_le_iff₀ (two_zpow_pos e), Nat.cast_pow, Nat.cast_ofNat, ← zpow_natCast,
    ← zpow_add₀ two_ne_zero, add_comm]
  exact h.lt.le

theorem RoundsAt.ge (h : RoundsAt v e n) (hnormal : 2 ^ (e + 52) ≤ v) : 2 ^ 52 ≤ n := by
  refine (isNearest_natCast (2 ^ 52)).mono h.nearest ?_
  rw [le_div_iff₀ (two_zpow_pos e), Nat.cast_pow, Nat.cast_ofNat, ← zpow_natCast,
    ← zpow_add₀ two_ne_zero, add_comm]
  exact hnormal

/-- Rounding is monotone. -/
theorem RoundsAt.mono (hv : RoundsAt v e n) (hu : RoundsAt u f k) (h : v ≤ u) :
    (n : ℚ) * 2 ^ e ≤ k * 2 ^ f := by
  rcases lt_trichotomy e f with hlt | rfl | hlt
  · -- The one is below a power of two that the other has reached.
    have hnormal : 2 ^ (f + 52) ≤ u := hu.normal.resolve_right (by have := hv.least; omega)
    have hn : (n : ℚ) ≤ 2 ^ (53 : ℤ) := by exact_mod_cast hv.le
    have hk : (2 : ℚ) ^ (52 : ℤ) ≤ k := by exact_mod_cast hu.ge hnormal
    calc (n : ℚ) * 2 ^ e ≤ 2 ^ (53 : ℤ) * 2 ^ e := by gcongr
      _ = 2 ^ (53 + e) := (zpow_add₀ two_ne_zero _ _).symm
      _ ≤ 2 ^ (52 + f) := zpow_le_zpow_right₀ one_le_two (by omega)
      _ = 2 ^ (52 : ℤ) * 2 ^ f := zpow_add₀ two_ne_zero _ _
      _ ≤ k * 2 ^ f := by gcongr
  · have hle : (n : ℚ) ≤ k := by
      exact_mod_cast hv.nearest.mono hu.nearest (by gcongr)
    gcongr
  · -- The greater number would have the smaller exponent.
    have hnormal : 2 ^ (e + 52) ≤ v := hv.normal.resolve_right (by have := hu.least; omega)
    have hpow : (2 : ℚ) ^ (e + 52) < 2 ^ (f + 53) := (hnormal.trans h).trans_lt hu.lt
    have := (zpow_lt_zpow_iff_right₀ one_lt_two).1 hpow
    omega

theorem Rounds.mono (hv : Rounds v w) (hu : Rounds u w') (h : v ≤ u) : w ≤ w' := by
  obtain ⟨e, n, hv, rfl⟩ := hv
  obtain ⟨f, k, hu, rfl⟩ := hu
  exact hv.mono hu h

theorem Rounds.unique (h : Rounds v w) (h' : Rounds v w') : w = w' :=
  le_antisymm (h.mono h' le_rfl) (h'.mono h le_rfl)

theorem exists_rounds (hv : 0 < v) : ∃ w, Rounds v w := by
  have hle : (2 : ℚ) ^ Int.log 2 v ≤ v := by exact_mod_cast Int.zpow_log_le_self one_lt_two hv
  have hlt : v < 2 ^ (Int.log 2 v + 1) := by exact_mod_cast Int.lt_zpow_succ_log_self one_lt_two v
  obtain ⟨n, hn⟩ := exists_isNearest (q := v / 2 ^ max (Int.log 2 v - 52) (-1074)) (by positivity)
  refine ⟨_, _, n, ⟨le_max_right _ _, ?_, ?_, hn⟩, rfl⟩
  · exact hlt.trans_le (zpow_le_zpow_right₀ one_le_two (by omega))
  · rcases le_total (Int.log 2 v - 52) (-1074) with h | h
    · exact .inr (max_eq_right h)
    · rw [max_eq_left h, sub_add_cancel]
      exact .inl hle

/-- What is near enough to nothing is rounded to nothing. -/
theorem rounds_zero (hv : 0 ≤ v) (h : v < 2 ^ (-1075 : ℤ)) : Rounds v 0 := by
  have hhalf : v / 2 ^ (-1074 : ℤ) < 1 / 2 := by
    have hsplit : (2 : ℚ) ^ (-1075 : ℤ) = 1 / 2 * 2 ^ (-1074 : ℤ) := by
      rw [one_div, ← zpow_neg_one, ← zpow_add₀ two_ne_zero]
      rfl
    rw [div_lt_iff₀ (two_zpow_pos _), ← hsplit]
    exact h
  have hnonneg : 0 ≤ v / 2 ^ (-1074 : ℤ) := by positivity
  refine ⟨-1074, 0, ⟨le_rfl, h.trans_le (zpow_le_zpow_right₀ one_le_two (by decide)), .inr rfl,
    ⟨?_, ?_, fun _ => Even.zero⟩⟩, (zero_mul _).symm⟩
  · rw [Nat.cast_zero]
    linarith
  · rw [Nat.cast_zero]
    linarith

/-- A double is rounded to itself. -/
theorem Canonical.rounds (h : Canonical m e) : Rounds (m * 2 ^ e) (m * 2 ^ e) := by
  have hlt : (m : ℚ) < 2 ^ (53 : ℤ) := by exact_mod_cast h.lt
  refine ⟨e, m, ⟨h.least, ?_, ?_, ?_⟩, rfl⟩
  · rw [add_comm, zpow_add₀ two_ne_zero]
    gcongr
  · refine h.normal.imp_left fun hge => ?_
    have hge' : (2 : ℚ) ^ (52 : ℤ) ≤ m := by exact_mod_cast hge
    rw [add_comm, zpow_add₀ two_ne_zero]
    gcongr
  · rw [mul_div_cancel_right₀ _ (two_zpow_pos e).ne']
    exact isNearest_natCast m

/-- The number is not rounded up by more than a half. -/
theorem Rounds.le_mul (h : Rounds v w) (hw : 0 < w) : v ≤ 3 / 2 * w := by
  obtain ⟨e, n, hround, rfl⟩ := h
  have hpos : 0 < n := Nat.pos_of_ne_zero (by rintro rfl; simp at hw)
  have hone : (1 : ℚ) ≤ n := by exact_mod_cast hpos
  have hle : v / 2 ^ e ≤ n + 1 / 2 := by linarith [hround.nearest.sub_le]
  calc v = v / 2 ^ e * 2 ^ e := (div_mul_cancel₀ _ (two_zpow_pos e).ne').symm
    _ ≤ (3 / 2 * n) * 2 ^ e := by gcongr; linarith
    _ = 3 / 2 * (n * 2 ^ e) := by ring

/-- Doubles are as their parts in order of size: first the exponent counts. -/
theorem Canonical.value_lt_of_exponent_lt (h : Canonical m e) (h' : Canonical n f) (hlt : e < f) :
    (m : ℚ) * 2 ^ e < n * 2 ^ f := by
  have hm : (m : ℚ) < 2 ^ (53 : ℤ) := by exact_mod_cast h.lt
  have hn : (2 : ℚ) ^ (52 : ℤ) ≤ n := by
    exact_mod_cast h'.normal.resolve_right (by have := h.least; omega)
  calc (m : ℚ) * 2 ^ e < 2 ^ (53 : ℤ) * 2 ^ e := by gcongr
    _ = 2 ^ (53 + e) := (zpow_add₀ two_ne_zero _ _).symm
    _ ≤ 2 ^ (52 + f) := zpow_le_zpow_right₀ one_le_two (by omega)
    _ = 2 ^ (52 : ℤ) * 2 ^ f := zpow_add₀ two_ne_zero _ _
    _ ≤ n * 2 ^ f := by gcongr

/-- A double is determined by its value. -/
theorem Canonical.eq_of_value_eq (h : Canonical m e) (h' : Canonical n f)
    (hvalue : (m : ℚ) * 2 ^ e = n * 2 ^ f) : m = n ∧ e = f := by
  rcases lt_trichotomy e f with hlt | rfl | hlt
  · exact absurd hvalue (h.value_lt_of_exponent_lt h' hlt).ne
  · exact ⟨by exact_mod_cast mul_right_cancel₀ (two_zpow_pos e).ne' hvalue, rfl⟩
  · exact absurd hvalue (h'.value_lt_of_exponent_lt h hlt).ne'

end Rounds

/-! ## The bits that are kept -/

/-- The number that a mantissa and its round bit are. -/
def kept (em : ExtendedMantissa) : ℚ :=
  em.mantissa + if em.roundBit then 1 / 2 else 0

/-- The bits of an extended mantissa are those of a number, of which the sticky bit tells whether
there are more. -/
structure Represents (em : ExtendedMantissa) (q : ℚ) : Prop where
  le : kept em ≤ q
  lt : q < kept em + 1 / 2
  sticky : em.stickyBit = false ↔ q = kept em

section Represents

variable {em : ExtendedMantissa} {q : ℚ}

theorem kept_false (m : ℕ) (sticky : Bool) : kept ⟨m, false, sticky⟩ = m :=
  add_zero _

theorem kept_true (m : ℕ) (sticky : Bool) : kept ⟨m, true, sticky⟩ = m + 1 / 2 := rfl

theorem represents_exact (m : ℕ) : Represents ⟨m, false, false⟩ m where
  le := (kept_false m false).le
  lt := by rw [kept_false]; linarith
  sticky := by rw [kept_false]; simp

/-- A quotient is its whole part and what the remainder adds to it. -/
theorem div_eq_add_mod_div (num : ℕ) {den : ℕ} (hden : 0 < den) :
    (num : ℚ) / den = (num / den : ℕ) + (num % den : ℕ) / den := by
  have hpos : (0 : ℚ) < den := by exact_mod_cast hden
  rw [div_eq_iff hpos.ne', add_mul, div_mul_cancel₀ _ hpos.ne']
  exact_mod_cast (Nat.div_add_mod' num den).symm

theorem mod_div_lt_one (num : ℕ) {den : ℕ} (hden : 0 < den) : ((num % den : ℕ) : ℚ) / den < 1 :=
  (div_lt_one (by exact_mod_cast hden)).2 (by exact_mod_cast Nat.mod_lt num hden)

/-- A quotient, of which the remainder tells how it lies between two whole numbers. -/
theorem represents_fraction (num : ℕ) {den : ℕ} (hden : 0 < den) :
    Represents (.ofMantissaAndAccuracy (num / den) (accuracyOfFraction (num % den) den))
      (num / den) := by
  have hpos : (0 : ℚ) < den := by exact_mod_cast hden
  have hone := mod_div_lt_one num hden
  rw [div_eq_add_mod_div num hden]
  generalize num / den = m, num % den = r at *
  rw [accuracyOfFraction]
  split
  next hzero =>
    rw [hzero, Nat.cast_zero, zero_div, add_zero]
    exact represents_exact m
  next hzero =>
    have hr : (0 : ℚ) < r / den := div_pos (by exact_mod_cast Nat.pos_of_ne_zero hzero) hpos
    rcases hcompare : compare (2 * r) den with _ | _ | _
    · have hhalf : (r : ℚ) / den < 1 / 2 := by
        have hlt : ((2 * r : ℕ) : ℚ) < den := by exact_mod_cast Nat.compare_eq_lt.1 hcompare
        rw [div_lt_iff₀ hpos]
        push_cast at hlt
        linarith
      change Represents ⟨m, false, true⟩ _
      constructor <;> rw [kept_false]
      · linarith
      · linarith
      · simp [hr.ne']
    · have hhalf : (r : ℚ) / den = 1 / 2 := by
        have heq : ((2 * r : ℕ) : ℚ) = den := by exact_mod_cast Nat.compare_eq_eq.1 hcompare
        rw [div_eq_iff hpos.ne']
        push_cast at heq
        linarith
      change Represents ⟨m, true, false⟩ _
      constructor <;> rw [kept_true, hhalf]
      · linarith
      · simp
    · have hhalf : 1 / 2 < (r : ℚ) / den := by
        have hlt : (den : ℚ) < (2 * r : ℕ) := by exact_mod_cast Nat.compare_eq_gt.1 hcompare
        rw [lt_div_iff₀ hpos]
        push_cast at hlt
        linarith
      change Represents ⟨m, true, true⟩ _
      constructor <;> rw [kept_true]
      · linarith
      · linarith
      · simpa using hhalf.ne'

theorem kept_shiftRightOne (em : ExtendedMantissa) :
    kept em.shiftRightOne = em.mantissa / 2 := by
  have hdiv : (em.mantissa : ℚ) = 2 * (em.mantissa / 2 : ℕ) + (em.mantissa % 2 : ℕ) := by
    exact_mod_cast (Nat.div_add_mod em.mantissa 2).symm
  rw [kept, ExtendedMantissa.shiftRightOne]
  dsimp only
  rcases Nat.mod_two_eq_zero_or_one em.mantissa with h | h
  · rw [hdiv, h]
    simp
  · rw [hdiv, h]
    simp
    ring

/-- A shift takes the last bit to be the round bit, and the round bit is lost in the sticky one. -/
theorem Represents.shiftRightOne (h : Represents em q) : Represents em.shiftRightOne (q / 2) := by
  have hle := h.le
  have hlt := h.lt
  have hsticky := h.sticky
  constructor
  all_goals rw [kept_shiftRightOne]
  all_goals obtain ⟨m, r, s⟩ := em
  all_goals cases r
  all_goals simp only [kept_false, kept_true] at *
  · linarith
  · linarith
  · linarith
  · linarith
  · rw [div_left_inj' two_ne_zero]
    simpa [ExtendedMantissa.shiftRightOne] using hsticky
  · simp [ExtendedMantissa.shiftRightOne]
    linarith

theorem Represents.shiftRight (h : Represents em q) (k : ℕ) :
    Represents (em >>> k) (q / 2 ^ k) := by
  change Represents (k.repeat ExtendedMantissa.shiftRightOne em) _
  induction k with
  | zero => simpa [Nat.repeat] using h
  | succ k ih =>
    rw [pow_succ, ← div_div]
    exact ih.shiftRightOne

/-- The bits that are kept are enough for rounding to the nearest whole number. -/
theorem Represents.isNearest (h : Represents em q) : IsNearest q em.roundedMantissa := by
  obtain ⟨hle, hlt, hsticky⟩ := h
  obtain ⟨m, _ | _, _ | _⟩ := em
  all_goals simp only [kept_false, kept_true] at *
  · obtain rfl : q = m := hsticky.1 trivial
    exact isNearest_natCast m
  · have hne : q ≠ m := fun hq => Bool.noConfusion (hsticky.2 hq)
    change IsNearest q m
    exact ⟨by linarith, by linarith, by rintro (h | h) <;> linarith⟩
  · obtain rfl : q = m + 1 / 2 := hsticky.1 trivial
    change IsNearest _ (m + m % 2)
    rcases Nat.mod_two_eq_zero_or_one m with hm | hm
    · rw [hm, add_zero]
      exact ⟨by linarith, by linarith, fun _ => Nat.even_iff.2 hm⟩
    · rw [hm]
      exact ⟨by push_cast; linarith, by push_cast; linarith, fun _ => (Nat.odd_iff.2 hm).add_one⟩
  · have hne : q ≠ m + 1 / 2 := fun hq => Bool.noConfusion (hsticky.2 hq)
    have hgt : (m : ℚ) + 1 / 2 < q := lt_of_le_of_ne hle hne.symm
    change IsNearest q (m + 1)
    refine ⟨by push_cast; linarith, by push_cast; linarith, ?_⟩
    push_cast
    rintro (h | h) <;> linarith

end Represents

/-! ## Rounding of parts -/

/-- The value of a number that rounding has given. -/
inductive HasValue : UnpackedFloat → ℚ → Prop where
  | zero : HasValue (.zero .positive) 0
  | finite {m : ℕ} {e : ℤ} (h : Canonical m e) : HasValue (.finite .positive m e h.pos) (m * 2 ^ e)

section Parts

variable {m n : ℕ} {e : ℤ} {accuracy : Accuracy} {q : ℚ}

theorem mantissa_ofMantissaAndAccuracy (m : ℕ) (accuracy : Accuracy) :
    (ExtendedMantissa.ofMantissaAndAccuracy m accuracy).mantissa = m := by
  rcases accuracy with _ | _ | _ | _ <;> rfl

theorem Represents.mantissa_le {em : ExtendedMantissa} (h : Represents em q) :
    (em.mantissa : ℚ) ≤ q := by
  refine le_trans ?_ h.le
  rw [kept]
  split <;> linarith

theorem Represents.lt_mantissa {em : ExtendedMantissa} (h : Represents em q) :
    q < em.mantissa + 1 := by
  refine h.lt.trans_le ?_
  rw [kept]
  split <;> linarith

theorem targetExponent_binary64 (t : ℤ) :
    binary64.targetExponent t = max (t - 53) (-1074) := rfl

/-- The parts of a number are scaled so that they can be rounded, unless too much of it has been
lost before. -/
theorem roundsAt_shiftToTargetExponent
    (hq : Represents (.ofMantissaAndAccuracy m accuracy) q)
    (he : e ≤ binary64.targetExponent (totalExponent m e)) :
    RoundsAt (q * 2 ^ e) (shiftToTargetExponent binary64 m e accuracy).2
      (shiftToTargetExponent binary64 m e accuracy).1.roundedMantissa := by
  have hle := hq.mantissa_le
  have hlt := hq.lt_mantissa
  rw [mantissa_ofMantissaAndAccuracy] at hle hlt
  have htarget : binary64.targetExponent (totalExponent m e) =
      max (m.log2 + 1 + e - 53) (-1074) := targetExponent_binary64 _
  obtain ⟨k, hk⟩ := Int.le.dest he
  rw [shiftToTargetExponent]
  generalize binary64.targetExponent (totalExponent m e) = t at *
  have hshift : (t - e).toNat = k := by omega
  rw [shiftToExponent]
  dsimp only
  rw [hshift, hk]
  have hlog : q < 2 ^ ((m.log2 : ℤ) + 1) := by
    refine hlt.trans_le ?_
    have hpow : m + 1 ≤ 2 ^ (m.log2 + 1) := Nat.lt_log2_self
    exact_mod_cast hpow
  refine ⟨by omega, ?_, ?_, ?_⟩
  · calc q * 2 ^ e < 2 ^ ((m.log2 : ℤ) + 1) * 2 ^ e := by gcongr
      _ = 2 ^ ((m.log2 : ℤ) + 1 + e) := (zpow_add₀ two_ne_zero _ _).symm
      _ ≤ 2 ^ (t + 53) := zpow_le_zpow_right₀ one_le_two (by omega)
  · rcases eq_or_ne t (-1074) with ht | ht
    · exact .inr ht
    have hm : m ≠ 0 := by
      rintro rfl
      rw [Nat.log2_zero] at htarget
      omega
    have hpow : (2 : ℚ) ^ (m.log2 : ℤ) ≤ m := by exact_mod_cast Nat.log2_self_le hm
    refine .inl ?_
    calc (2 : ℚ) ^ (t + 52) = 2 ^ ((m.log2 : ℤ) + e) := by congr 1; omega
      _ = 2 ^ (m.log2 : ℤ) * 2 ^ e := zpow_add₀ two_ne_zero _ _
      _ ≤ q * 2 ^ e := by gcongr; exact hpow.trans hle
  · have hscaled : q * 2 ^ e / 2 ^ t = q / 2 ^ k := by
      rw [← hk, zpow_add₀ two_ne_zero, zpow_natCast, mul_comm,
        mul_div_mul_left _ _ (two_zpow_pos e).ne']
    rw [hscaled]
    exact (hq.shiftRight k).isNearest

/-- The mantissa is scaled once more if rounding has given it a bit too many. -/
theorem shiftToTargetExponent_of_lt (hm : m < 2 ^ 53) (he : -1074 ≤ e) :
    shiftToTargetExponent binary64 m e .exact = (⟨m, false, false⟩, e) := by
  have hlog : m.log2 ≤ 52 := by
    rcases Nat.eq_zero_or_pos m with rfl | hpos
    · exact Nat.zero_le 52
    · exact Nat.le_of_lt_succ ((Nat.log2_lt hpos.ne').2 hm)
  have hshift : (binary64.targetExponent (totalExponent m e) - e).toNat = 0 := by
    rw [targetExponent_binary64, totalExponent]
    omega
  rw [shiftToTargetExponent, shiftToExponent, hshift, Nat.cast_zero, add_zero]
  rfl

theorem shiftToTargetExponent_two_pow (he : -1074 ≤ e) :
    shiftToTargetExponent binary64 (2 ^ 53) e .exact = (⟨2 ^ 52, false, false⟩, e + 1) := by
  have hshift : (binary64.targetExponent (totalExponent (2 ^ 53) e) - e).toNat = 1 := by
    rw [targetExponent_binary64, totalExponent, Nat.log2_two_pow]
    omega
  rw [shiftToTargetExponent, shiftToExponent, hshift]
  rfl

/-- Rounding of parts is rounding of what they represent. -/
theorem exists_rounds_roundWithAccuracy (hq : Represents (.ofMantissaAndAccuracy m accuracy) q)
    (he : e ≤ binary64.targetExponent (totalExponent m e)) :
    ∃ w, Rounds (q * 2 ^ e) w ∧
      HasValue (roundWithAccuracy binary64 .positive m e accuracy) w := by
  have hround := roundsAt_shiftToTargetExponent hq he
  generalize hfirst : shiftToTargetExponent binary64 m e accuracy = first at hround
  obtain ⟨em, f⟩ := first
  refine ⟨_, ⟨f, em.roundedMantissa, hround, rfl⟩, ?_⟩
  have hleast : -1074 ≤ f := hround.least
  rw [roundWithAccuracy, hfirst]
  dsimp only
  rcases hround.le.lt_or_eq with hlt | heq
  · rw [shiftToTargetExponent_of_lt hlt hleast]
    split
    next hzero =>
      change em.roundedMantissa = 0 at hzero
      rw [hzero, Nat.cast_zero, zero_mul]
      exact .zero
    next hzero =>
      exact .finite ⟨Nat.pos_of_ne_zero hzero, hlt, hleast, hround.normal.imp_left hround.ge⟩
  · rw [heq, shiftToTargetExponent_two_pow hleast]
    have hvalue : ((2 ^ 53 : ℕ) : ℚ) * 2 ^ f = (2 ^ 52 : ℕ) * 2 ^ (f + 1) := by
      rw [zpow_add_one₀ two_ne_zero]
      push_cast
      ring
    rw [hvalue]
    exact .finite ⟨by positivity, by decide, by omega, .inl le_rfl⟩

end Parts

end TemplateLiteral.Number
