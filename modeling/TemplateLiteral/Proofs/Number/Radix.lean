import Mathlib
import TemplateLiteral.Proofs.Number.Arithmetic
import TemplateLiteral.Proofs.Number.Digits
import TemplateLiteral.Proofs.Number.Numeral

/-!
# Numerals in a radix

The digits of a numeral in a radix that is a power of two are taken in one after the other, and each
step is rounded. As long as the number is below `2 ^ 53` nothing is lost. The first digit with which
it gets there is rounded, and what comes after it is less than half a step, so that it counts as
zero. The result is the double nearest to the number with zeros for these digits. This is also the
double nearest to the number itself, unless the digits that count are halfway between two doubles.

## Main definitions

* `accumulate`: digits taken in one after the other
* `Counted`: a number with zeros for the digits that do not count
* `FallsShort`: digits of which too few count

## Main results

* `exists_counted`: what the digits of a numeral add up to
* `isNearestDouble_accumulate_iff`: when this is the double nearest to the number
* `FallsShort.exists_neighbour`: otherwise it is the double below
-/

namespace TemplateLiteral.Number

open Float.Model (UnpackedFloat)

/-! ## Rounding twice -/

section Rounding

variable {v w δ : ℚ} {e : ℤ} {m n p t : ℕ}

theorem RoundsAt.mul_two_pow (h : RoundsAt v e n) (hv : 2 ^ (e + 52) ≤ v) (k : ℕ) :
    RoundsAt (v * 2 ^ k) (e + k) n := by
  have hscale : ∀ f : ℤ, (2 : ℚ) ^ (e + k + f) = 2 ^ (e + f) * 2 ^ k := by
    intro f
    rw [add_right_comm, zpow_add₀ two_ne_zero (e + f), zpow_natCast]
  have hstep : v * 2 ^ k / 2 ^ (e + k) = v / 2 ^ e := by
    have hpow := hscale 0
    rw [add_zero, add_zero] at hpow
    rw [hpow, mul_div_mul_right _ _ (by positivity)]
  refine ⟨le_add_of_le_of_nonneg h.least (Nat.cast_nonneg k), ?_, .inl ?_, ?_⟩
  · rw [hscale]
    exact mul_lt_mul_of_pos_right h.lt (by positivity)
  · rw [hscale]
    exact mul_le_mul_of_nonneg_right hv (by positivity)
  · rw [hstep]
    exact h.nearest

theorem RoundsAt.normal_of_one_le (h : RoundsAt v e n) (hv : 1 ≤ v) : 2 ^ (e + 52) ≤ v := by
  rcases h.normal with hnormal | rfl
  · exact hnormal
  · exact (zpow_le_one_of_nonpos₀ one_le_two (by decide)).trans hv

/-- A power of two does not change how a number is rounded. -/
theorem Rounds.mul_two_pow (h : Rounds v w) (hv : 1 ≤ v) (k : ℕ) :
    Rounds (v * 2 ^ k) (w * 2 ^ k) := by
  obtain ⟨e, n, hround, rfl⟩ := h
  refine ⟨e + k, n, hround.mul_two_pow (hround.normal_of_one_le hv) k, ?_⟩
  rw [zpow_add₀ two_ne_zero, zpow_natCast, mul_assoc]

/-- Rounding gives a double, as if there were no greatest exponent. -/
theorem RoundsAt.exists_canonical (h : RoundsAt v e n) (hn : 0 < n) :
    ∃ m f, Canonical m f ∧ e ≤ f ∧ (n : ℚ) * 2 ^ e = m * 2 ^ f := by
  rcases h.le.lt_or_eq with hlt | rfl
  · exact ⟨n, e, ⟨hn, hlt, h.least, h.normal.imp_left h.ge⟩, le_rfl, rfl⟩
  · refine ⟨2 ^ 52, e + 1, ⟨by positivity, by decide, ?_, .inl le_rfl⟩, by omega, ?_⟩
    · have := h.least
      omega
    · rw [zpow_add_one₀ two_ne_zero]
      push_cast
      ring

/-- Less than half a step is lost. -/
theorem Canonical.rounds_add (h : Canonical m e) (hδ : 0 ≤ δ) (hlt : δ < 2 ^ (e - 1)) :
    Rounds (m * 2 ^ e + δ) (m * 2 ^ e) := by
  have hpos := two_zpow_pos e
  have hhalf : (2 : ℚ) ^ (e - 1) = 1 / 2 * 2 ^ e := by
    rw [zpow_sub_one₀ two_ne_zero]
    ring
  have hquotient : (m * 2 ^ e + δ) / 2 ^ e = m + δ / 2 ^ e := by
    rw [add_div, mul_div_cancel_right₀ _ hpos.ne']
  have hnonneg : 0 ≤ δ / 2 ^ e := by positivity
  have hsmall : δ / 2 ^ e < 1 / 2 := by rwa [div_lt_iff₀ hpos, ← hhalf]
  refine ⟨e, m, ⟨h.least, ?_, ?_, ?_⟩, rfl⟩
  · have hm : (m : ℚ) + 1 ≤ 2 ^ (53 : ℤ) := by exact_mod_cast h.lt
    calc m * 2 ^ e + δ < m * 2 ^ e + 2 ^ e := by linarith
      _ = (m + 1) * 2 ^ e := by ring
      _ ≤ 2 ^ (53 : ℤ) * 2 ^ e := by gcongr
      _ = 2 ^ (e + 53) := by rw [← zpow_add₀ two_ne_zero, add_comm]
  · refine h.normal.imp_left fun hm => ?_
    have hm' : (2 : ℚ) ^ (52 : ℤ) ≤ m := by exact_mod_cast hm
    calc (2 : ℚ) ^ (e + 52) = 2 ^ (52 : ℤ) * 2 ^ e := by rw [← zpow_add₀ two_ne_zero, add_comm]
      _ ≤ m * 2 ^ e := by gcongr
      _ ≤ m * 2 ^ e + δ := le_add_of_nonneg_right hδ
  · rw [hquotient]
    exact ⟨by linarith, by linarith, by rintro (h | h) <;> linarith⟩

/-- What has been rounded to a double without a fraction takes in no further digit. -/
theorem Rounds.mul_add (h : Rounds v w) (hv : 2 ^ 53 ≤ v) {s d : ℕ} (hd : d < 2 ^ s) :
    Rounds (w * 2 ^ s + d) (w * 2 ^ s) := by
  obtain ⟨e, n, hround, rfl⟩ := h
  have hone : 1 ≤ v := le_trans (by norm_num) hv
  have hn : 2 ^ 52 ≤ n := hround.ge (hround.normal_of_one_le hone)
  obtain ⟨m, f, hcanonical, hle, hvalue⟩ :=
    (hround.mul_two_pow (hround.normal_of_one_le hone) s).exists_canonical (by omega)
  have he : (53 : ℤ) < e + 53 := by
    refine (zpow_lt_zpow_iff_right₀ one_lt_two).1 (lt_of_le_of_lt ?_ hround.lt)
    exact_mod_cast hv
  have hd' : (d : ℚ) < 2 ^ (f - 1) := by
    have hcast : (d : ℚ) < 2 ^ s := by exact_mod_cast hd
    refine hcast.trans_le ?_
    rw [← zpow_natCast]
    exact zpow_le_zpow_right₀ one_le_two (by omega)
  rw [mul_assoc, ← zpow_natCast, ← zpow_add₀ two_ne_zero, hvalue]
  exact hcanonical.rounds_add (Nat.cast_nonneg d) hd'

theorem two_zpow_natCast_add_one (t : ℕ) : (2 : ℚ) ^ ((t : ℤ) + 1) = 2 * 2 ^ t := by
  rw [zpow_add_one₀ two_ne_zero, zpow_natCast, mul_comm]

/-- A fraction behind a whole number counts only if the number is halfway between two doubles of
which the lower one is even. -/
theorem RoundsAt.add_fraction (h : RoundsAt p (t + 1) n) (hδ : 0 ≤ δ) (hone : δ < 1)
    (htie : Even n → p = (2 * n + 1) * 2 ^ t → δ = 0) : RoundsAt (p + δ) (t + 1) n := by
  have hpos : (0 : ℚ) < 2 ^ t := by positivity
  have hstep := two_zpow_natCast_add_one t
  have hle := h.nearest.le_add
  have hge := h.nearest.sub_le
  have heven := h.nearest.even
  rw [hstep] at hle hge heven
  have hupper : p ≤ (2 * n + 1) * 2 ^ t := by
    have hquotient : (p : ℚ) / (2 * 2 ^ t) ≤ n + 1 / 2 := by linarith
    rw [div_le_iff₀ (by positivity)] at hquotient
    have hcast : (p : ℚ) ≤ (2 * n + 1) * 2 ^ t := by linarith
    exact_mod_cast hcast
  rcases hupper.lt_or_eq with hlt | heq
  · have hnext : (p : ℚ) + 1 ≤ (2 * n + 1) * 2 ^ t := by exact_mod_cast hlt
    have habove : (p + δ) / (2 * 2 ^ t) < n + 1 / 2 := by
      rw [div_lt_iff₀ (by positivity)]
      linarith
    have hbelow : (p : ℚ) / (2 * 2 ^ t) ≤ (p + δ) / (2 * 2 ^ t) := by
      gcongr
      exact le_add_of_nonneg_right hδ
    refine ⟨h.least, ?_, h.normal.imp_left fun hp => hp.trans (le_add_of_nonneg_right hδ), ?_⟩
    · have hp : (p : ℚ) < 2 ^ (t + 54) := by
        rw [← zpow_natCast]
        exact_mod_cast h.lt
      have hp' : (p : ℚ) + 1 ≤ 2 ^ (t + 54) := by exact_mod_cast hp
      have hsame : (2 : ℚ) ^ ((t : ℤ) + 1 + 53) = 2 ^ (t + 54) := by
        rw [← zpow_natCast, add_assoc]
        rfl
      rw [hsame]
      linarith
    · rw [hstep]
      refine ⟨by linarith, by linarith, ?_⟩
      rintro (h' | h')
      · exact heven (.inl (by linarith))
      · linarith
  · -- At half a step the number goes to the even neighbour, which is the lower one here.
    have hhalf : (n : ℚ) = p / (2 * 2 ^ t) - 1 / 2 := by
      rw [heq]
      push_cast
      field_simp
      ring
    rwa [htie (heven (.inr hhalf)) heq, add_zero]

/-- What lies above half a step between two doubles. -/
theorem roundsAt_half {k : ℕ} (hlow : 2 ^ 52 ≤ m) (hhigh : m < 2 ^ 53) (hδ : 0 ≤ δ)
    (hlt : δ < 2 ^ t) (h : IsNearest (m + 1 / 2 + δ / 2 ^ ((t : ℤ) + 1)) k) :
    RoundsAt ((2 * m + 1) * 2 ^ t + δ) (t + 1) k := by
  have hstep := two_zpow_natCast_add_one t
  have hpow : ∀ b : ℕ, (2 : ℚ) ^ ((t : ℤ) + 1 + b) = 2 * 2 ^ t * 2 ^ b := by
    intro b
    rw [zpow_add₀ two_ne_zero, hstep, zpow_natCast]
  have hlow' : (2 : ℚ) ^ 52 ≤ m := by exact_mod_cast hlow
  have hhigh' : (m : ℚ) + 1 ≤ 2 ^ 53 := by exact_mod_cast hhigh
  refine ⟨by omega, ?_, .inl ?_, ?_⟩
  · calc (2 * m + 1) * 2 ^ t + δ < 2 * 2 ^ t * (m + 1) := by linarith
      _ ≤ 2 * 2 ^ t * 2 ^ 53 := by gcongr
      _ = 2 ^ ((t : ℤ) + 1 + 53) := (hpow 53).symm
  · calc (2 : ℚ) ^ ((t : ℤ) + 1 + 52) = 2 * 2 ^ t * 2 ^ 52 := hpow 52
      _ ≤ 2 * 2 ^ t * m := by gcongr
      _ ≤ (2 * m + 1) * 2 ^ t + δ := by
        have hpos : (0 : ℚ) < 2 ^ t := by positivity
        linarith
  · rw [hstep] at h ⊢
    convert h using 1
    field_simp

/-- Halfway between two doubles, the lower one of which is even. -/
theorem rounds_tie (hlow : 2 ^ 52 ≤ m) (hhigh : m < 2 ^ 53) (heven : Even m) (t : ℕ) :
    Rounds ((2 * m + 1) * 2 ^ t) (m * 2 ^ ((t : ℤ) + 1)) := by
  have hnearest : IsNearest (m + 1 / 2 + 0 / 2 ^ ((t : ℤ) + 1)) m := by
    rw [zero_div, add_zero]
    exact ⟨by linarith, by linarith, fun _ => heven⟩
  have hround := roundsAt_half hlow hhigh le_rfl (by positivity) hnearest
  rw [add_zero] at hround
  exact ⟨_, _, hround, rfl⟩

/-- What lies above the middle between two doubles goes to the upper one. -/
theorem rounds_above_tie (hlow : 2 ^ 52 ≤ m) (hhigh : m < 2 ^ 53) (hδ : 0 < δ) (hlt : δ < 2 ^ t) :
    Rounds ((2 * m + 1) * 2 ^ t + δ) ((m + 1 : ℕ) * 2 ^ ((t : ℤ) + 1)) := by
  have hpos := two_zpow_pos ((t : ℤ) + 1)
  have hδ' : 0 < δ / 2 ^ ((t : ℤ) + 1) := by positivity
  have hsmall : δ / 2 ^ ((t : ℤ) + 1) < 1 / 2 := by
    rw [div_lt_iff₀ hpos, two_zpow_natCast_add_one]
    linarith
  refine ⟨_, _, roundsAt_half hlow hhigh hδ.le hlt ⟨?_, ?_, ?_⟩, rfl⟩
  all_goals push_cast
  · linarith
  · linarith
  · rintro (h | h) <;> linarith

end Rounding

/-! ## Digits that count -/

section Digits

variable {x y : Float} {v w : ℚ} {radix c n s d : ℕ} {digits : List Char}

/-- The number with zeros for the digits that do not count. Those count with which the number gets
to `2 ^ 53`, and those in front of them. -/
inductive Counted (radix n : ℕ) : ℕ → Prop
  | all (hn : n < 2 ^ 53) : Counted radix n n
  | leading {k : ℕ} (hlow : 2 ^ 53 ≤ n / radix ^ k) (hhigh : n / radix ^ k < radix * 2 ^ 53) :
    Counted radix n (n / radix ^ k * radix ^ k)

/-- Too few digits of a number count: without the last ones it is halfway between two doubles of
which the lower one is even, and these are not all zero. Past all doubles this does not matter. -/
inductive FallsShort (radix n : ℕ) : Prop
  | intro {k m t : ℕ} (hlow : 2 ^ 52 ≤ m) (hhigh : m < 2 ^ 53) (heven : Even m)
    (hfront : n / radix ^ k = (2 * m + 1) * 2 ^ t) (hback : n % radix ^ k ≠ 0)
    (hfinite : (n : ℚ) < 2 ^ (1024 : ℤ))

/-- Digits taken in one after the other, where every step is rounded. -/
def accumulate (radix : ℕ) (digits : List Char) : Float :=
  digits.foldl (fun total c => total * ofInt radix + ofInt ((digitValue? radix c).getD 0)) (ofInt 0)

theorem readRadix?_eq_accumulate (hne : digits ≠ []) (hdigits : ∀ c ∈ digits, isDigitOf radix c) :
    readRadix? radix digits = some (accumulate radix digits) := by
  rw [readRadix?, if_neg (by simpa using hne)]
  exact Numeral.foldlM_digits hdigits _

theorem accumulate_append_singleton (radix : ℕ) (digits : List Char) (c : Char) :
    accumulate radix (digits ++ [c]) =
      accumulate radix digits * ofInt radix + ofInt ((digitValue? radix c).getD 0) :=
  List.foldl_append

/-- Small numbers are doubles after any number of shifts. -/
theorem rounds_natCast_mul (hn : n ≤ 2 ^ 53) (s : ℕ) : Rounds (n * 2 ^ s) (n * 2 ^ s) := by
  rcases Nat.eq_zero_or_pos n with rfl | hpos
  · rw [Nat.cast_zero, zero_mul]
    exact rounds_zero le_rfl (two_zpow_pos _)
  · exact (rounds_natCast hn).mul_two_pow (by exact_mod_cast hpos) s

/-- One more digit is taken in. The product is a double, so that only the sum is rounded. -/
theorem IsRead.mul_add (hx : IsRead x w) (hw : Rounds (w * 2 ^ s) (w * 2 ^ s)) (hs : s ≤ 53)
    (hd : d < 2 ^ s) :
    IsNearestDouble (w * 2 ^ s + d) (x * ofInt (2 ^ s : ℕ) + ofInt d) := by
  have hpow : 2 ^ s ≤ 2 ^ 53 := Nat.pow_le_pow_right two_pos hs
  have hradix : IsRead (ofInt (2 ^ s : ℕ)) (2 ^ s) := by
    have hcast : ((2 ^ s : ℕ) : ℚ) = 2 ^ s := by push_cast; rfl
    rw [← hcast]
    exact isRead_ofInt hpow
  have hone : (1 : ℚ) ≤ 2 ^ s := one_le_pow₀ one_le_two
  have hlt : (2 : ℚ) ^ s < 2 ^ (1024 : ℤ) := by
    rw [← zpow_natCast]
    exact zpow_lt_zpow_right₀ one_lt_two (by omega)
  have hproduct : IsRead (x * ofInt (2 ^ s : ℕ)) (w * 2 ^ s) :=
    (hx.mul hradix hone hlt).isRead hw
  exact hproduct.add (isRead_ofInt (hd.le.trans hpow))

/-- One more digit of a number of which all digits count. -/
theorem Counted.append_all (hn : n < 2 ^ 53) (hd : d < 2 ^ s) :
    Counted (2 ^ s) (n * 2 ^ s + d) (n * 2 ^ s + d) := by
  rcases lt_or_ge (n * 2 ^ s + d) (2 ^ 53) with hlt | hge
  · exact .all hlt
  · have hhigh : n * 2 ^ s + d < 2 ^ s * 2 ^ 53 := by
      calc n * 2 ^ s + d < (n + 1) * 2 ^ s := by linarith
        _ ≤ 2 ^ 53 * 2 ^ s := Nat.mul_le_mul_right _ hn
        _ = 2 ^ s * 2 ^ 53 := Nat.mul_comm _ _
    have hcounted := @Counted.leading (2 ^ s) (n * 2 ^ s + d) 0
    rw [Nat.pow_zero, Nat.div_one, Nat.mul_one] at hcounted
    exact hcounted hge hhigh

/-- One more digit of a number of which the leading digits count. -/
theorem Counted.append_leading {k : ℕ} (hlow : 2 ^ 53 ≤ n / radix ^ k)
    (hhigh : n / radix ^ k < radix * 2 ^ 53) (hd : d < radix) :
    Counted radix (n * radix + d) (n / radix ^ k * radix ^ k * radix) := by
  have hfront : (n * radix + d) / radix ^ (k + 1) = n / radix ^ k := by
    rw [Nat.pow_succ', ← Nat.div_div_eq_div_mul, Nat.mul_comm n, Nat.mul_add_div (by omega),
      Nat.div_eq_of_lt hd, Nat.add_zero]
  have hcounted := @Counted.leading radix (n * radix + d) (k + 1)
  rw [hfront, pow_succ radix k, ← Nat.mul_assoc] at hcounted
  exact hcounted hlow hhigh

/-- Digits add up to the double nearest to the number with zeros for those that do not count. -/
theorem exists_counted (hs : s ≤ 53) (digits : List Char) :
    ∃ c, Counted (2 ^ s) (ofDigits (2 ^ s) digits) c ∧
      IsNearestDouble c (accumulate (2 ^ s) digits) := by
  -- By induction from the last digit: what has been rounded before is rounded as before.
  induction digits using List.reverseRecOn with
  | nil => exact ⟨0, .all (by positivity), isNearestDouble_ofInt 0⟩
  | append_singleton digits char ih =>
    obtain ⟨c, hcounted, w, hround, hread⟩ := ih
    have hd := digitValue_lt (Nat.two_pow_pos s) char
    rw [accumulate_append_singleton, ofDigits_append_singleton]
    generalize (digitValue? (2 ^ s) char).getD 0 = d at hd ⊢
    generalize ofDigits (2 ^ s) digits = n at hcounted ⊢
    cases hcounted with
    | all hn =>
      obtain rfl := hround.unique (rounds_natCast hn.le)
      have hnext := hread.mul_add (rounds_natCast_mul hn.le s) hs hd
      exact ⟨_, .append_all hn hd, by exact_mod_cast hnext⟩
    | @leading k hlow hhigh =>
      -- From here on the digit changes nothing but the power of two.
      have hlarge : (2 : ℚ) ^ 53 ≤ (n / (2 ^ s) ^ k * (2 ^ s) ^ k : ℕ) := by
        exact_mod_cast hlow.trans (Nat.le_mul_of_pos_right _ (by positivity))
      have hkeep := hround.mul_add hlarge (Nat.two_pow_pos s)
      rw [Nat.cast_zero, add_zero] at hkeep
      have hnext := hread.mul_add hkeep hs hd
      refine ⟨_, .append_leading hlow hhigh hd, w * 2 ^ s, ?_, ?_⟩
      · rw [Nat.cast_mul _ (2 ^ s), Nat.cast_pow, Nat.cast_ofNat]
        exact hround.mul_two_pow (le_trans (by norm_num) hlarge) s
      · obtain ⟨u, hround', hread'⟩ := hnext
        rwa [hround'.unique (hround.mul_add hlarge hd)] at hread'

/-! ## Digits that do not count -/

/-- What is left of a number in the middle between two doubles is all of it but zeros, as long as it
is not below `2 ^ 53`. -/
theorem div_mul_two_pow {m t b : ℕ} (hm : m < 2 ^ 53) (h : 2 ^ 53 ≤ (2 * m + 1) * 2 ^ t / 2 ^ b) :
    (2 * m + 1) * 2 ^ t / 2 ^ b * 2 ^ b = (2 * m + 1) * 2 ^ t := by
  rcases lt_or_ge t b with hlt | hle
  · obtain ⟨i, rfl⟩ := Nat.exists_eq_add_of_lt hlt
    rw [Nat.add_assoc, pow_add, Nat.mul_comm (2 ^ t), Nat.mul_div_mul_right _ _
      (Nat.two_pow_pos t)] at h
    have hhalf : (2 * m + 1) / 2 ^ (i + 1) ≤ (2 * m + 1) / 2 :=
      Nat.div_le_div_left (Nat.le_self_pow i.succ_ne_zero 2) two_pos
    omega
  · exact Nat.div_mul_cancel ((pow_dvd_pow 2 hle).mul_left _)

/-- Where a number falls short, what counts of it is halfway between two doubles, and the rest is
less than half a step. -/
theorem Counted.of_fallsShort (h : Counted (2 ^ s) n c) (hshort : FallsShort (2 ^ s) n) :
    ∃ m t rest, 2 ^ 52 ≤ m ∧ m < 2 ^ 53 ∧ Even m ∧ c = (2 * m + 1) * 2 ^ t ∧
      n = c + rest ∧ 0 < rest ∧ rest < 2 ^ t ∧ (n : ℚ) < 2 ^ (1024 : ℤ) := by
  obtain @⟨k, m, t, hmlow, hmhigh, heven, hfront, hback, hfinite⟩ := hshort
  have hodd : 2 ^ 53 < (2 * m + 1) * 2 ^ t :=
    lt_of_lt_of_le (by omega) (Nat.le_mul_of_pos_right _ (Nat.two_pow_pos t))
  suffices hc : c = (2 * m + 1) * 2 ^ t * (2 ^ s) ^ k by
    refine ⟨m, t + s * k, n % (2 ^ s) ^ k, hmlow, hmhigh, heven, ?_, ?_, Nat.pos_of_ne_zero hback,
      ?_, hfinite⟩
    · rw [hc, pow_add, pow_mul, Nat.mul_assoc]
    · rw [hc, ← hfront]
      exact (Nat.div_add_mod' _ _).symm
    · rw [pow_add, pow_mul]
      exact (Nat.mod_lt _ (by positivity)).trans_le (Nat.le_mul_of_pos_left _ (Nat.two_pow_pos t))
  cases h with
  | all hn =>
    have := (hfront ▸ hodd).trans_le (Nat.div_le_self _ _)
    omega
  | @leading j hlow hhigh =>
    rcases lt_or_ge j k with hlt | hge
    · -- So few digits are not enough to get to `2 ^ 53`.
      obtain ⟨i, rfl⟩ := Nat.exists_eq_add_of_lt hlt
      rw [Nat.add_assoc, pow_add, ← Nat.div_div_eq_div_mul] at hfront
      have hsmall : n / (2 ^ s) ^ j / (2 ^ s) ^ (i + 1) < 2 ^ 53 := by
        rw [Nat.div_lt_iff_lt_mul (by positivity)]
        refine hhigh.trans_le ?_
        rw [Nat.mul_comm]
        exact Nat.mul_le_mul_left _ (Nat.le_self_pow i.succ_ne_zero _)
      omega
    · obtain ⟨i, rfl⟩ := Nat.exists_eq_add_of_le hge
      rw [pow_add, ← Nat.div_div_eq_div_mul, hfront, ← pow_mul 2 s i] at hlow ⊢
      rw [Nat.mul_comm (_ ^ k), ← Nat.mul_assoc, div_mul_two_pow hmhigh hlow]

/-- A number that falls short is above the middle between two doubles, of which its digits add up
to the lower one. -/
theorem FallsShort.exists_rounds (hshort : FallsShort (2 ^ s) n) (hcounted : Counted (2 ^ s) n c) :
    ∃ m e, Canonical m e ∧ Canonical (m + 1) e ∧ e ≤ 971 ∧
      Rounds c (m * 2 ^ e) ∧ Rounds n ((m + 1 : ℕ) * 2 ^ e) := by
  obtain ⟨m, t, rest, hlow, hhigh, heven, rfl, rfl, hpos, hrest, hfinite⟩ :=
    hcounted.of_fallsShort hshort
  have hsucc : m + 1 < 2 ^ 53 := by
    obtain ⟨b, rfl⟩ := heven
    omega
  have hexponent : ((t + 53 : ℕ) : ℤ) < 1024 := by
    refine (zpow_lt_zpow_iff_right₀ one_lt_two).1 (lt_of_le_of_lt ?_ hfinite)
    have hle : 2 ^ (t + 53) ≤ (2 * m + 1) * 2 ^ t + rest := by
      rw [Nat.add_comm t, pow_add]
      exact (Nat.mul_le_mul_right _ (by omega)).trans (Nat.le_add_right _ _)
    rw [zpow_natCast]
    exact_mod_cast hle
  refine ⟨m, t + 1, ⟨by omega, hhigh, by omega, .inl hlow⟩,
    ⟨by omega, hsucc, by omega, .inl (by omega)⟩, by omega, ?_, ?_⟩
  · have htie := rounds_tie hlow hhigh heven t
    exact_mod_cast htie
  · have habove := rounds_above_tie (δ := rest) hlow hhigh (by exact_mod_cast hpos)
      (by exact_mod_cast hrest)
    exact_mod_cast habove

theorem IsRead.unpack_of_le (h : IsRead x w) (hw : 2 ^ (1024 : ℤ) ≤ w) :
    x.toModel.unpack = .infinity .positive := by
  cases h with
  | zero _ hzero => exact absurd (hzero ▸ hw) (two_zpow_pos 1024).not_ge
  | finite hx hfinite => exact absurd (hfinite ▸ hw) (Dyadic.value_lt hx).not_ge
  | infinity hx _ => exact hx

/-- There is a double for all parts in canonical form but the greatest exponents. -/
theorem Canonical.exists_isRead {m : ℕ} {e : ℤ} (h : Canonical m e) (he : e ≤ 971) :
    ∃ x, IsRead x (m * 2 ^ e) ∧ x.toModel.unpack = .finite .positive m e h.pos := by
  have hparts : (Float.ofModel (.pack (.finite .positive m e h.pos))).toModel.unpack =
      .finite .positive m e h.pos := h.unpack_pack he .positive
  exact ⟨_, .finite hparts rfl, hparts⟩

/-- Where a number falls short, the double nearest to it is the next one above the double that its
digits add up to. -/
theorem FallsShort.exists_neighbour (hs : s ≤ 53)
    (hshort : FallsShort (2 ^ s) (ofDigits (2 ^ s) digits)) :
    ∃ y m e hm, IsNearestDouble (ofDigits (2 ^ s) digits) y ∧
      (accumulate (2 ^ s) digits).toModel.unpack = .finite .positive m e hm ∧
      y.toModel.unpack = .finite .positive (m + 1) e m.succ_pos := by
  obtain ⟨c, hcounted, w, hround, hread⟩ := exists_counted hs digits
  obtain ⟨m, e, hlower, hupper, he, hdown, hup⟩ := hshort.exists_rounds hcounted
  obtain ⟨x, hx, hxparts⟩ := hlower.exists_isRead he
  obtain ⟨y, hy, hyparts⟩ := hupper.exists_isRead he
  obtain rfl := hround.unique hdown
  obtain rfl := hread.unique hx
  exact ⟨y, m, e, hlower.pos, ⟨_, hup, hy⟩, hxparts, hyparts⟩

/-- A number that is not below `2 ^ 53` is not rounded to halves. -/
theorem RoundsAt.exists_eq_add_one {p : ℕ} {e : ℤ} (h : RoundsAt p e n) (hp : 2 ^ 53 ≤ p) :
    ∃ t : ℕ, e = t + 1 := by
  have hlarge : (2 : ℚ) ^ (53 : ℤ) < 2 ^ (e + 53) := lt_of_le_of_lt (by exact_mod_cast hp) h.lt
  have := (zpow_lt_zpow_iff_right₀ one_lt_two).1 hlarge
  exact ⟨(e - 1).toNat, by omega⟩

theorem RoundsAt.lt_of_tie {q t : ℕ} (h : RoundsAt ((2 * q + 1) * 2 ^ t) (t + 1) q) :
    q < 2 ^ 53 := by
  have hlt := h.lt
  rw [add_assoc, zpow_add₀ two_ne_zero, zpow_natCast, mul_comm] at hlt
  have hcast : 2 * (q : ℚ) + 1 < 2 ^ (1 + 53 : ℤ) := lt_of_mul_lt_mul_left hlt (by positivity)
  have hodd : 2 * q + 1 < 2 ^ 54 := by exact_mod_cast hcast
  omega

/-- If less than a step is missing to get past all doubles, rounding gets past them. -/
theorem two_pow_1024_le {q : ℕ} {e : ℤ} (hlow : 2 ^ 52 ≤ q) (hhigh : q < 2 ^ 53)
    (h : 2 ^ (1024 : ℤ) < (q + 1) * (2 : ℚ) ^ e) : 2 ^ (1024 : ℤ) ≤ q * (2 : ℚ) ^ e := by
  have hpos := (two_zpow_pos e).le
  have hlow' : (2 : ℚ) ^ (52 : ℤ) ≤ q := by exact_mod_cast hlow
  have hhigh' : (q : ℚ) + 1 ≤ 2 ^ (53 : ℤ) := by exact_mod_cast hhigh
  have hexponent : (2 : ℚ) ^ (1024 : ℤ) < 2 ^ (53 + e) := by
    rw [zpow_add₀ two_ne_zero]
    exact h.trans_le (mul_le_mul_of_nonneg_right hhigh' hpos)
  have := (zpow_lt_zpow_iff_right₀ one_lt_two).1 hexponent
  calc (2 : ℚ) ^ (1024 : ℤ) ≤ 2 ^ (52 + e) := zpow_le_zpow_right₀ one_le_two (by omega)
    _ = 2 ^ (52 : ℤ) * 2 ^ e := zpow_add₀ two_ne_zero _ _
    _ ≤ q * 2 ^ e := mul_le_mul_of_nonneg_right hlow' hpos

/-- A fraction behind a number that is not below `2 ^ 53` makes no difference, at any scale, unless
the number is halfway between two doubles of which the lower one is even. Past all doubles it makes
none there, either. -/
theorem IsNearestDouble.add_fraction {p j : ℕ} {δ : ℚ} (hx : IsNearestDouble (p * 2 ^ j) x)
    (hp : 2 ^ 53 ≤ p) (hδ : 0 ≤ δ) (hone : δ < 1)
    (htie : ∀ q t, 2 ^ 52 ≤ q → q < 2 ^ 53 → Even q → p = (2 * q + 1) * 2 ^ t →
      δ = 0 ∨ 2 ^ (1024 : ℤ) ≤ (p + δ) * 2 ^ j) :
    IsNearestDouble ((p + δ) * 2 ^ j) x := by
  have hpos : (1 : ℚ) ≤ p := by exact_mod_cast le_trans (by norm_num) hp
  obtain ⟨_, e, q, hround, rfl⟩ := exists_rounds (zero_lt_one.trans_le hpos)
  have hnormal := hround.normal_of_one_le hpos
  obtain ⟨t, rfl⟩ := hround.exists_eq_add_one hp
  obtain ⟨w, hround', hread⟩ := hx
  obtain rfl := hround'.unique ⟨_, _, hround.mul_two_pow hnormal j, rfl⟩
  by_cases hmiddle : Even q ∧ p = (2 * q + 1) * 2 ^ t ∧ δ ≠ 0
  · obtain ⟨heven, hfront, hne⟩ := hmiddle
    have hfront' : (p : ℚ) = (2 * q + 1) * 2 ^ t := by exact_mod_cast hfront
    have hlow : 2 ^ 52 ≤ q := hround.ge hnormal
    have hhigh : q < 2 ^ 53 := (hfront' ▸ hround).lt_of_tie
    have hlarge := (htie q t hlow hhigh heven hfront).resolve_left hne
    refine isNearestDouble_infinity (hread.unpack_of_le (two_pow_1024_le hlow hhigh ?_)) hlarge
    -- One step more than what the number is rounded to is more than the number with the fraction.
    refine hlarge.trans_lt ?_
    rw [hfront', zpow_add₀ two_ne_zero, zpow_natCast, two_zpow_natCast_add_one, ← mul_assoc]
    refine mul_lt_mul_of_pos_right ?_ (by positivity)
    have hstep : (1 : ℚ) ≤ 2 ^ t := one_le_pow₀ one_le_two
    linarith
  · have hnearest := hround.add_fraction hδ hone fun heven hfront => by
      by_contra hne
      exact hmiddle ⟨heven, hfront, hne⟩
    have hnormal' := hnormal.trans (le_add_of_nonneg_right hδ)
    exact ⟨_, ⟨_, _, hnearest.mul_two_pow hnormal' j, rfl⟩, hread⟩

/-- Otherwise what does not count makes no difference. -/
theorem Counted.isNearestDouble (h : Counted (2 ^ s) n c) (hshort : ¬ FallsShort (2 ^ s) n)
    (hx : IsNearestDouble c x) : IsNearestDouble n x := by
  cases h with
  | all hn => exact hx
  | @leading k hlow hhigh =>
    have hpow : (((2 ^ s) ^ k : ℕ) : ℚ) = 2 ^ (s * k) := by
      rw [← pow_mul, Nat.cast_pow, Nat.cast_ofNat]
    have hfraction := mod_div_lt_one n (pow_pos (Nat.two_pow_pos s) k)
    have hsplit := div_eq_add_mod_div n (pow_pos (Nat.two_pow_pos s) k)
    rw [div_eq_iff (by positivity), hpow] at hsplit
    rw [hpow] at hfraction
    rw [Nat.cast_mul, hpow] at hx
    rw [hsplit]
    refine hx.add_fraction hlow (by positivity) hfraction fun q t hqlow hqhigh heven hfront => ?_
    rw [← hsplit]
    by_cases hback : n % (2 ^ s) ^ k = 0
    · rw [hback, Nat.cast_zero, zero_div]
      exact .inl rfl
    · exact .inr (not_lt.1 fun hlt => hshort (.intro hqlow hqhigh heven hfront hback hlt))

/-- Digits add up to the double nearest to the number unless it falls short. -/
theorem isNearestDouble_accumulate_iff (hs : s ≤ 53) :
    IsNearestDouble (ofDigits (2 ^ s) digits) (accumulate (2 ^ s) digits) ↔
      ¬ FallsShort (2 ^ s) (ofDigits (2 ^ s) digits) := by
  constructor
  · intro hnearest hshort
    obtain ⟨y, m, e, hm, hy, hparts, hparts'⟩ := hshort.exists_neighbour hs
    rw [hnearest.unique hy, hparts'] at hparts
    obtain ⟨-, hsame, -⟩ := UnpackedFloat.finite.inj hparts
    exact m.succ_ne_self hsame
  · intro hshort
    obtain ⟨c, hcounted, hnearest⟩ := exists_counted hs digits
    exact hcounted.isNearestDouble hshort hnearest

/-- Numbers up to `2 ^ 53` do not fall short. -/
theorem FallsShort.lt (h : FallsShort radix n) : 2 ^ 53 < n := by
  obtain @⟨k, m, t, hlow, -, -, hfront, -, -⟩ := h
  calc 2 ^ 53 < (2 * m + 1) * 1 := by omega
    _ ≤ (2 * m + 1) * 2 ^ t := Nat.mul_le_mul_left _ (Nat.two_pow_pos t)
    _ = n / radix ^ k := hfront.symm
    _ ≤ n := Nat.div_le_self n _

/-- Numbers up to `2 ^ 53` are what their digits add up to. -/
theorem isRead_accumulate (hs : s ≤ 53) (hn : ofDigits (2 ^ s) digits ≤ 2 ^ 53) :
    IsRead (accumulate (2 ^ s) digits) (ofDigits (2 ^ s) digits) :=
  ((isNearestDouble_accumulate_iff hs).2 fun h => h.lt.not_ge hn).isRead (rounds_natCast hn)

/-! ## Leading zeros -/

/-- As long as there are only zeros, nothing is taken in. -/
theorem accumulate_zeros (hs : s ≤ 53) (k : ℕ) :
    accumulate (2 ^ s) (List.replicate k '0') = ofInt 0 := by
  induction k with
  | zero => rfl
  | succ k ih =>
    have hnearest := (isRead_ofInt (Nat.zero_le (2 ^ 53))).mul_add
      (rounds_natCast_mul (Nat.zero_le _) s) hs (Nat.two_pow_pos s)
    rw [Nat.cast_zero, zero_mul, zero_add] at hnearest
    rw [List.replicate_succ', accumulate_append_singleton, ih,
      digitValue?_zero (Nat.two_pow_pos s)]
    exact hnearest.unique (isNearestDouble_ofInt 0)

/-- Leading zeros change nothing. -/
theorem accumulate_zeros_append (hs : s ≤ 53) (k : ℕ) (digits : List Char) :
    accumulate (2 ^ s) (List.replicate k '0' ++ digits) = accumulate (2 ^ s) digits := by
  rw [accumulate, List.foldl_append]
  exact congrArg (digits.foldl _) (accumulate_zeros hs k)

end Digits

end TemplateLiteral.Number
