import Mathlib.Algebra.Group.Nat.Defs
import Mathlib.Data.List.Basic
import Mathlib.Data.List.Induction
import TemplateLiteral.Number.Digits

/-!
# Digits and what they denote

The decimal digits of a number denote the number. Zeros behind digits multiply what they denote by
a power of ten, and zeros in front of them change nothing.

## Main definitions

* `IsNumeral`: the decimal numeral of a number

## Main results

* `ofDigits_toDigits`: the digits of a number denote it
* `ofDigits_append_zeros`, `ofDigits_zeros_append`: zeros at either end
* `isNumeral_iff`: every number has one numeral, which is that of its digits
-/

namespace TemplateLiteral.Number

section Digits

variable {c : Char} {ds : List Char}

theorem ofDigits_append_singleton (radix : Nat) (ds : List Char) (c : Char) :
    ofDigits radix (ds ++ [c]) = ofDigits radix ds * radix + (digitValue? radix c).getD 0 :=
  List.foldl_append

theorem digitValue?_of_isDigit (h : c.isDigit) : digitValue? 10 c = some (c.toNat - '0'.toNat) := by
  obtain ⟨hlow, hhigh⟩ := Char.isDigit_iff_toNat.1 h
  have hrange : '0' ≤ c ∧ c ≤ '9' := ⟨hlow, hhigh⟩
  have hlt : c.toNat - '0'.toNat < 10 := Nat.sub_lt_left_of_lt_add hlow (Nat.lt_succ_of_le hhigh)
  unfold digitValue?
  rw [if_pos hrange]
  exact Option.filter_some_pos (decide_eq_true hlt)

theorem isDigitOf_of_isDigit (h : c.isDigit) : isDigitOf 10 c := by
  rw [isDigitOf, digitValue?_of_isDigit h]
  rfl

theorem ofDigits_eq_ofDigitChars (h : ∀ c ∈ ds, c.isDigit) :
    ofDigits 10 ds = Nat.ofDigitChars 10 ds 0 := by
  refine List.foldl_ext _ _ 0 fun n c hc => ?_
  rw [digitValue?_of_isDigit (h c hc), Nat.mul_comm]
  rfl

theorem isDigit_of_mem_toDigits {n : Nat} (h : c ∈ toDigits n) : c.isDigit :=
  Nat.isDigit_of_mem_toDigits (by decide) (by decide) h

theorem isDigitOf_of_mem_toDigits {n : Nat} (h : c ∈ toDigits n) : isDigitOf 10 c :=
  isDigitOf_of_isDigit (isDigit_of_mem_toDigits h)

/-- The digits of a number denote it. -/
theorem ofDigits_toDigits (n : Nat) : ofDigits 10 (toDigits n) = n := by
  rw [ofDigits_eq_ofDigitChars fun _ => isDigit_of_mem_toDigits]
  exact Nat.ofDigitChars_toDigits (by decide) (by decide)

/-! ## Sizes -/

theorem digitValue_lt {radix : Nat} (hradix : 0 < radix) (c : Char) :
    (digitValue? radix c).getD 0 < radix := by
  cases hvalue : digitValue? radix c with
  | none => exact hradix
  | some value =>
    rw [digitValue?] at hvalue
    exact of_decide_eq_true (Option.filter_eq_some_iff.1 hvalue).2

theorem length_toDigits_pos (n : Nat) : 0 < (toDigits n).length :=
  List.length_pos_iff.2 Nat.toDigits_ne_nil

theorem lt_pow_length_toDigits (n : Nat) : n < 10 ^ (toDigits n).length :=
  (Nat.length_toDigits_le_iff (by decide) (length_toDigits_pos n)).1 (Nat.le_refl _)

theorem pow_length_toDigits_le {n k : Nat} (hn : 0 < n) (hk : (toDigits n).length = k + 1) :
    10 ^ k ≤ n := by
  rcases Nat.eq_zero_or_pos k with rfl | hpos
  · exact hn
  · refine Nat.le_of_not_lt fun hlt => ?_
    have hle : (toDigits n).length ≤ k := (Nat.length_toDigits_le_iff (by decide) hpos).2 hlt
    omega

/-- The last digit is what is left over by ten. -/
theorem getLast?_toDigits (n : Nat) : (toDigits n).getLast? = some (n % 10).digitChar := by
  rw [toDigits, Nat.toDigits_eq_if (by decide)]
  split
  next hlt => rw [Nat.mod_eq_of_lt hlt]; rfl
  next => rw [List.getLast?_append_of_ne_nil _ (List.cons_ne_nil _ _)]; rfl

/-! ## Zeros -/

theorem digitValue?_zero {radix : Nat} (hradix : 0 < radix) : digitValue? radix '0' = some 0 := by
  change (some 0).filter (· < radix) = some 0
  exact Option.filter_some_pos (decide_eq_true hradix)

theorem isDigitOf_of_mem_zeros {radix : Nat} (hradix : 0 < radix) (k : Nat) :
    ∀ c ∈ List.replicate k '0', isDigitOf radix c := by
  intro c hc
  rw [List.eq_of_mem_replicate hc, isDigitOf, digitValue?_zero hradix]
  rfl

/-- Zeros behind digits multiply by a power of ten. -/
theorem ofDigits_append_zeros (ds : List Char) (k : Nat) :
    ofDigits 10 (ds ++ List.replicate k '0') = ofDigits 10 ds * 10 ^ k := by
  induction k with
  | zero => rw [List.replicate_zero, List.append_nil, Nat.pow_zero, Nat.mul_one]
  | succ k ih =>
    have hzero : (digitValue? 10 '0').getD 0 = 0 := rfl
    rw [List.replicate_succ', ← List.append_assoc, ofDigits_append_singleton, ih, hzero,
      Nat.add_zero, Nat.pow_succ, Nat.mul_assoc]

/-- Zeros in front of digits change nothing. -/
theorem ofDigits_zeros_append (k : Nat) (ds : List Char) :
    ofDigits 10 (List.replicate k '0' ++ ds) = ofDigits 10 ds := by
  induction k with
  | zero => rfl
  | succ k ih =>
    rw [List.replicate_succ, List.cons_append]
    exact ih

/-! ## Numerals -/

/-- The digits are the decimal numeral of a number: they denote it, and no zero stands in front of
others. -/
structure IsNumeral (digits : List Char) (n : Nat) : Prop where
  isDigit : ∀ c ∈ digits, c.isDigit
  ne_nil : digits ≠ []
  eq_zero : digits.head? = some '0' → digits = ['0']
  value : Nat.ofDigitChars 10 digits 0 = n

theorem digitChar_sub (h : c.isDigit) : (c.toNat - '0'.toNat).digitChar = c := by
  obtain ⟨hlow, hhigh⟩ := Char.isDigit_iff_toNat.1 h
  change 48 ≤ c.toNat at hlow
  change c.toNat ≤ 57 at hhigh
  have hvalue : (c.toNat - 48).digitChar.toNat = c.toNat := by
    rw [Nat.toNat_digitChar_of_lt_ten (by omega)]
    omega
  exact Char.toNat_inj.1 hvalue

/-- Only zero begins with a zero. -/
theorem eq_zero_of_head?_toDigits {n : Nat} (h : (toDigits n).head? = some '0') : n = 0 := by
  induction n using Nat.strongRecOn with
  | ind n ih =>
    rw [toDigits, Nat.toDigits_eq_if (by decide)] at h
    split at h
    next hlt =>
      have hchar : n.digitChar = '0' := Option.some.inj h
      have hvalue : n.digitChar.toNat = 48 + n := Nat.toNat_digitChar_of_lt_ten hlt
      rw [hchar] at hvalue
      change 48 = 48 + n at hvalue
      omega
    next hge =>
      rw [List.head?_append_of_ne_nil _ Nat.toDigits_ne_nil] at h
      have hrest : n / 10 = 0 := ih (n / 10) (by omega) h
      omega

theorem isNumeral_toDigits (n : Nat) : IsNumeral (toDigits n) n where
  isDigit _ := isDigit_of_mem_toDigits
  ne_nil := Nat.toDigits_ne_nil
  eq_zero h := by
    rw [eq_zero_of_head?_toDigits h]
    rfl
  value := Nat.ofDigitChars_ten_toDigits

/-- A numeral is the digits of what it denotes. -/
theorem toDigits_ofDigitChars (hdigit : ∀ c ∈ ds, c.isDigit) (hne : ds ≠ [])
    (hzero : ds.head? = some '0' → ds = ['0']) :
    toDigits (Nat.ofDigitChars 10 ds 0) = ds := by
  induction ds using List.reverseRecOn with
  | nil => exact absurd rfl hne
  | append_singleton front c ih =>
    obtain ⟨hfront, hc⟩ := List.forall_mem_append.1 hdigit
    have hdigit' := hc c (List.mem_singleton_self c)
    obtain ⟨hlow, hhigh⟩ := Char.isDigit_iff_toNat.1 hdigit'
    have hlt : c.toNat - '0'.toNat < 10 := Nat.sub_lt_left_of_lt_add hlow (Nat.lt_succ_of_le hhigh)
    rw [Nat.ofDigitChars_append, Nat.ofDigitChars_cons, Nat.ofDigitChars_nil]
    rcases eq_or_ne front [] with rfl | hfront'
    · rw [Nat.ofDigitChars_nil, Nat.mul_zero, Nat.zero_add, toDigits, Nat.toDigits_of_lt_base hlt,
        digitChar_sub hdigit', List.nil_append]
    · -- What stands in front of the last digit does not begin with a zero, so that it is not zero.
      rw [List.head?_append_of_ne_nil _ hfront'] at hzero
      have hnot : front.head? ≠ some '0' := by
        intro h
        have hlength := congrArg List.length (hzero h)
        rw [List.length_append] at hlength
        exact hfront' (List.length_eq_zero_iff.1 (Nat.succ.inj hlength))
      have hdigits := ih hfront hfront' fun h => absurd h hnot
      have hpos : 0 < Nat.ofDigitChars 10 front 0 := by
        refine Nat.pos_of_ne_zero fun h => ?_
        rw [h] at hdigits
        rw [← hdigits] at hnot
        exact hnot rfl
      rw [toDigits, ← Nat.toDigits_append_toDigits (by decide) hpos hlt,
        Nat.toDigits_of_lt_base hlt, digitChar_sub hdigit']
      exact congrArg (· ++ [c]) hdigits

/-- Every number has one numeral. -/
theorem isNumeral_iff {n : Nat} : IsNumeral ds n ↔ ds = toDigits n := by
  constructor
  · rintro ⟨hdigit, hne, hzero, rfl⟩
    exact (toDigits_ofDigitChars hdigit hne hzero).symm
  · rintro rfl
    exact isNumeral_toDigits n

end Digits

end TemplateLiteral.Number
