import Mathlib
import TemplateLiteral.Proofs.Number.Format
import TemplateLiteral.Proofs.Number.Shortness

/-!
# The form of numbers

The text of a number has its shortest digits, and where the point stands among them decides its
form: in full, if the point is at most twenty-one places behind the first digit and fewer than six
zeros stand between the two, or else with a power of ten. The same text is what comes of comparing
the magnitude with two doubles, and of putting a plus into a text whose power has no sign.

## Main definitions

* `IsShortest`: the digits of a number and the place of its point
* `Format.signOf`: the sign of a number
* `Format.byComparison`: the text of a number by comparison

## Main results

* `isShortest_shortest`: the digits that are written are the shortest
* `Format.write_eq_byComparison`: both ways to write a number have one result
* `text_form`: the forms of numbers
-/

namespace TemplateLiteral.Number

open Float.Model (UnpackedFloat)
open Float.Model.UnpackedFloat

/-- The positive number `0.d₁…dₖ * 10 ^ n` with the digits `d₁…dₖ` reads back as a double, and no
number with fewer digits does. Of those with as many digits behind the point, none that reads back
is nearer to the double. -/
structure IsShortest (x : Float) (digits : List Char) (n : ℤ) : Prop where
  isDigit : ∀ c ∈ digits, c.isDigit
  ne_nil : digits ≠ []
  head_ne : digits.head? ≠ some '0'
  last_ne : digits.getLast? ≠ some '0'
  reads : Decimal.toFloat ⟨ofDigits 10 digits, n - digits.length⟩ = x
  least : ∀ d : Decimal, d.toFloat = x → digits.length ≤ (toDigits d.coefficient).length
  nearest : ∀ value, Dyadic.ofFloat? x = some value →
    ∀ k, Decimal.toFloat ⟨k, n - digits.length⟩ = x →
      |Decimal.value ⟨ofDigits 10 digits, n - digits.length⟩ - value.value| ≤
        |Decimal.value ⟨k, n - digits.length⟩ - value.value|

section Digits

variable {x : Float} {m : ℕ} {e : ℤ} {hm : 0 < m}

/-- The digits that are written are the shortest. -/
theorem isShortest_shortest (hx : x.toModel.unpack = .finite .positive m e hm) (tie : Tie) :
    IsShortest x (digitsOf tie x) (pointOf tie x) := by
  have hvalue : ofDigits 10 (digitsOf tie x) = (shortest tie x).coefficient := ofDigits_toDigits _
  have hgrid : pointOf tie x - (digitsOf tie x).length = (shortest tie x).exponent :=
    add_sub_cancel_left _ _
  constructor
  · exact fun _ => isDigit_of_mem_toDigits
  · exact Nat.toDigits_ne_nil
  · exact fun h => (shortest_coefficient_pos hx tie).ne' (eq_zero_of_head?_toDigits h)
  · intro h
    rw [digitsOf, getLast?_toDigits, Option.some.injEq] at h
    have hlt : (shortest tie x).coefficient % 10 < 10 := Nat.mod_lt _ (by decide)
    have hdigit := Nat.toNat_digitChar_of_lt_ten hlt
    rw [h] at hdigit
    change 48 = 48 + _ at hdigit
    exact shortest_mod_ten hx tie (by omega)
  · rw [hvalue, hgrid]
    exact toFloat_shortest hx
  · exact fun d hd => length_shortest_le hx hd
  · intro value hvalue' k hk
    rw [Dyadic.ofFloat?, hx, Option.some.injEq] at hvalue'
    subst hvalue'
    rw [hgrid] at hk ⊢
    rw [hvalue]
    exact abs_sub_shortest_le hx hk

end Digits

namespace Format

/-! ## By comparison -/

/-- Digits in full, with a point or zeros where they are needed. -/
def plain (digits : List Char) (n : ℤ) : List Char :=
  if digits.length ≤ n then digits ++ List.replicate (n.toNat - digits.length) '0'
  else if 0 < n then digits.take n.toNat ++ '.' :: digits.drop n.toNat
  else '0' :: '.' :: (List.replicate (-n).toNat '0' ++ digits)

/-- Digits with a point after the first, if there are more. -/
def leading : List Char → List Char
  | [] => []
  | d :: ds => if ds = [] then [d] else d :: '.' :: ds

/-- Digits with a power of ten, of which only a minus is written. -/
def scientific (digits : List Char) (n : ℤ) : List Char :=
  leading digits ++ 'e' ::
    if n - 1 < 0 then '-' :: toDigits (n - 1).natAbs else toDigits (n - 1).natAbs

/-- A plus is put into a text whose power of ten has no sign. -/
def withPlus (text : List Char) : List Char :=
  match text.dropWhile (· ≠ 'e') with
  | [] => text
  | e :: power =>
    if power.head? = some '-' then text else text.takeWhile (· ≠ 'e') ++ e :: '+' :: power

/-- The sign of a number that is not zero. -/
def signOf (x : Float) : List Char :=
  if x < ofInt 0 then ['-'] else []

/-- The text of a number with the given digits: in full, if its magnitude is between one millionth
and ten to the twenty-first as doubles are compared, or else with a power of ten. -/
def byComparison (x : Float) (digits : List Char) (n : ℤ) : List Char :=
  if Decimal.toFloat ⟨1, -6⟩ ≤ x.abs ∧ x.abs < Decimal.toFloat ⟨1, 21⟩ then
    signOf x ++ plain digits n
  else
    withPlus (signOf x ++ scientific digits n)

section Comparison

variable {sign digits front : List Char} {n : ℤ}

theorem layout_eq_plain (h : -6 < n ∧ n ≤ 21) : rendered.layout digits n = plain digits n := by
  have hfull : rendered.below < n ∧ n ≤ rendered.above := h
  have hmark : rendered.wholeMark = [] := rfl
  unfold layout
  rw [if_pos hfull, hmark, List.append_nil, plain]

theorem layout_eq_leading (h : ¬ (-6 < n ∧ n ≤ 21)) :
    rendered.layout digits n = leading digits ++ power (n - 1) := by
  have hpower : ¬ (rendered.below < n ∧ n ≤ rendered.above) := h
  unfold layout
  rw [if_neg hpower]
  cases digits with
  | nil => rfl
  | cons d ds => cases ds <;> rfl

theorem withPlus_append (hfront : 'e' ∉ front) (power : List Char) :
    withPlus (front ++ 'e' :: power) =
      front ++ 'e' :: if power.head? = some '-' then power else '+' :: power := by
  have hall : ∀ c ∈ front, decide (c ≠ 'e') = true :=
    fun c hc => decide_eq_true fun h => hfront (h ▸ hc)
  have hdrop : (front ++ 'e' :: power).dropWhile (· ≠ 'e') = 'e' :: power := by
    rw [List.dropWhile_append_of_pos hall]
    rfl
  have htake : (front ++ 'e' :: power).takeWhile (· ≠ 'e') = front := by
    rw [List.takeWhile_append_of_pos hall]
    exact List.append_nil front
  rw [withPlus, hdrop, htake]
  dsimp only
  split <;> rfl

theorem head?_toDigits_ne_minus (k : ℕ) : (toDigits k).head? ≠ some '-' := by
  intro h
  exact absurd (isDigit_of_mem_toDigits (List.mem_of_mem_head? h)) (by decide)

/-- The sign of the power is put into the text. -/
theorem withPlus_scientific (hfront : 'e' ∉ sign ++ leading digits) :
    withPlus (sign ++ scientific digits n) = sign ++ (leading digits ++ power (n - 1)) := by
  rw [scientific, ← List.append_assoc, withPlus_append hfront, ← List.append_assoc, power]
  congr 2
  split
  · rfl
  · exact if_neg (head?_toDigits_ne_minus _)

end Comparison

/-! ## The four forms -/

section Forms

variable {digits : List Char} {n : ℤ}

theorem layout_whole (hwhole : digits.length ≤ n) (h : n ≤ 21) :
    rendered.layout digits n = digits ++ List.replicate (n.toNat - digits.length) '0' := by
  rw [layout_eq_plain ⟨by omega, h⟩, plain, if_pos hwhole]

theorem layout_point (hpos : 0 < n) (h : n ≤ 21) (hpoint : n < digits.length) :
    rendered.layout digits n = digits.take n.toNat ++ '.' :: digits.drop n.toNat := by
  rw [layout_eq_plain ⟨by omega, h⟩, plain, if_neg hpoint.not_ge, if_pos hpos]

theorem layout_fraction (hne : digits ≠ []) (h : -6 < n) (hfraction : n ≤ 0) :
    rendered.layout digits n = '0' :: '.' :: (List.replicate (-n).toNat '0' ++ digits) := by
  have hlength := List.length_pos_iff.2 hne
  rw [layout_eq_plain ⟨h, by omega⟩, plain, if_neg (by omega), if_neg hfraction.not_gt]

theorem layout_power (hne : digits ≠ []) (h : n ≤ -6 ∨ 21 < n) :
    ∃ d ds, digits = d :: ds ∧ rendered.layout digits n =
      d :: (if ds = [] then [] else '.' :: ds) ++ power (n - 1) := by
  obtain ⟨d, ds, rfl⟩ := List.exists_cons_of_ne_nil hne
  refine ⟨d, ds, rfl, ?_⟩
  rw [layout_eq_leading (by omega), leading]
  split <;> rfl

end Forms

/-! ## The sign -/

section Sign

variable {x : Float} {s : Sign} {m : ℕ} {e : ℤ} {hm : 0 < m}

theorem abs_of_positive (hx : x.toModel.unpack = .finite .positive m e hm) : x.abs = x := by
  have hparts : x.toModel.unpack.abs = x.toModel.unpack := by
    rw [hx]
    rfl
  change Float.ofModel (.pack x.toModel.unpack.abs) = x
  rw [hparts, ofModel_pack_unpack]

theorem abs_of_negative (hx : x.toModel.unpack = .finite .negative m e hm) : x.abs = -x := by
  change Float.ofModel (.pack x.toModel.unpack.abs) = Float.ofModel (.pack x.toModel.unpack.neg)
  rw [hx]
  rfl

/-- The parts of a magnitude. -/
theorem unpack_abs (hx : x.toModel.unpack = .finite s m e hm) :
    x.abs.toModel.unpack = .finite .positive m e hm := by
  cases s with
  | positive => rw [abs_of_positive hx, hx]
  | negative =>
    rw [abs_of_negative hx, unpack_neg, hx]
    rfl

/-- A number is written as its sign and its magnitude. -/
theorem write_eq (hx : x.toModel.unpack = .finite s m e hm) :
    rendered.write x = signOf x ++ rendered.layout (digitsOf .up x.abs) (pointOf .up x.abs) := by
  cases s with
  | positive =>
    have hsign : signOf x = [] := by
      refine if_neg fun hlt => ?_
      rw [lt_iff_compare, hx, unpack_ofInt_zero] at hlt
      cases hlt
    rw [Format.write, hx, hsign, abs_of_positive hx]
    rfl
  | negative =>
    have hsign : signOf x = ['-'] := by
      refine if_pos ?_
      rw [lt_iff_compare, hx, unpack_ofInt_zero]
      rfl
    rw [Format.write, hx, hsign, abs_of_negative hx]
    rfl

end Sign

/-! ## Where a power is written -/

section Power

variable {x : Float} {s : Sign} {m : ℕ} {e : ℤ} {hm : 0 < m} {digits front back : List Char}
  {n : ℤ}

theorem e_notMem_signOf (x : Float) : 'e' ∉ signOf x := by
  rw [signOf]
  split <;> decide

theorem e_notMem_digits (hdigits : ∀ c ∈ digits, c.isDigit) : 'e' ∉ digits :=
  fun h => absurd (hdigits 'e' h) (by decide)

theorem e_notMem_plain (hdigits : ∀ c ∈ digits, c.isDigit) (x : Float) (n : ℤ) :
    'e' ∉ signOf x ++ plain digits n := by
  have he := e_notMem_digits hdigits
  rw [List.mem_append]
  refine not_or_intro (e_notMem_signOf x) ?_
  rw [plain]
  split
  · simp [he]
  split
  · have htake : 'e' ∉ digits.take n.toNat := fun h => he (List.mem_of_mem_take h)
    have hdrop : 'e' ∉ digits.drop n.toNat := fun h => he (List.mem_of_mem_drop h)
    simp [htake, hdrop]
  · simp [he]

theorem e_notMem_leading (hdigits : ∀ c ∈ digits, c.isDigit) (x : Float) :
    'e' ∉ signOf x ++ leading digits := by
  have he := e_notMem_digits hdigits
  rw [List.mem_append]
  refine not_or_intro (e_notMem_signOf x) ?_
  cases digits with
  | nil => exact he
  | cons d ds =>
    rw [leading]
    split <;> simp_all

/-- The double of a magnitude is compared as its digits are counted. -/
theorem between_iff (hx : x.toModel.unpack = .finite .positive m e hm) (tie : Tie) :
    Decimal.toFloat ⟨1, -6⟩ ≤ x ∧ x < Decimal.toFloat ⟨1, 21⟩ ↔
      -6 < pointOf tie x ∧ pointOf tie x ≤ 21 := by
  have hlow : (Decimal.toFloat ⟨1, -6⟩).toModel.unpack =
      .finite .positive 4722366482869645 (-72) (by decide) := by rfl
  have hhigh : (Decimal.toFloat ⟨1, 21⟩).toModel.unpack =
      .finite .positive 7629394531250000 17 (by decide) := by rfl
  have hlt : x < Decimal.toFloat ⟨1, 21⟩ ↔ ¬ Decimal.toFloat ⟨1, 21⟩ ≤ x := by
    rw [lt_iff_value_lt hx hhigh, le_iff_value_le hhigh hx, not_le]
  rw [hlt, toFloat_ten_pow_le_iff hx hlow tie, toFloat_ten_pow_le_iff hx hhigh tie, not_lt]

/-- Both ways to write a number have one result. -/
theorem write_eq_byComparison (hx : x.toModel.unpack = .finite s m e hm) :
    rendered.write x = byComparison x (digitsOf .up x.abs) (pointOf .up x.abs) := by
  have hdigits : ∀ c ∈ digitsOf .up x.abs, c.isDigit := fun _ => isDigit_of_mem_toDigits
  have hbetween := between_iff (unpack_abs hx) .up
  rw [write_eq hx, byComparison]
  split
  next hfull => rw [layout_eq_plain (hbetween.1 hfull)]
  next hpower =>
    rw [layout_eq_leading (mt hbetween.2 hpower), withPlus_scientific (e_notMem_leading hdigits x)]

/-- A power of ten is only written if it is small or large. -/
theorem exists_readPower?_of_layout (hdigits : ∀ c ∈ digits, c.isDigit)
    (h : signOf x ++ rendered.layout digits n = front ++ 'e' :: back) :
    ∃ p, Decimal.readPower? back = some p ∧ (p ≤ -7 ∨ 21 ≤ p) := by
  by_cases hfull : -6 < n ∧ n ≤ 21
  · have hnone := e_notMem_plain hdigits x n
    rw [layout_eq_plain hfull] at h
    rw [h] at hnone
    exact absurd (List.mem_append_right _ List.mem_cons_self) hnone
  · have hfront := e_notMem_leading hdigits x
    have hback : 'e' ∉ (if n - 1 < 0 then '-' else '+') :: toDigits (n - 1).natAbs := by
      have hpower : 'e' ∉ toDigits (n - 1).natAbs :=
        e_notMem_digits fun _ => isDigit_of_mem_toDigits
      split <;> simp [hpower]
    have hread := readExponent?_power (n - 1)
    rw [layout_eq_leading hfull, ← List.append_assoc, power] at h
    obtain ⟨-, -, rfl⟩ := (List.append_cons_inj_of_notMem hfront hback).1 h
    rw [power, Decimal.readExponent?, if_pos (.inl rfl)] at hread
    exact ⟨n - 1, hread, by omega⟩

end Power

end Format

theorem exists_finite_of_isFinite {x : Float} (hfinite : x.isFinite = true)
    (hne : (x == ofInt 0) = false) : ∃ s m e hm, x.toModel.unpack = .finite s m e hm := by
  change UnpackedFloat.isFinite x.toModel.unpack = true at hfinite
  cases hx : x.toModel.unpack with
  | finite s m e hm => exact ⟨s, m, e, hm, rfl⟩
  | zero s => exact nomatch hne.symm.trans (beq_zero_iff.2 ⟨s, hx⟩)
  | notANumber | infinity s =>
    rw [hx] at hfinite
    cases hfinite

/-- The text of a number that is finite and not zero is its sign and then its shortest digits
`d₁…dₖ`, in one of four forms, which the place `n` of the point decides: the digits and zeros, a
point among the digits, zeros between the point and the digits, or a power of ten, which always has
a sign and is never between seven below zero and twenty-one. The text by comparison of doubles is
the same. -/
theorem text_form (x : Float) (hfinite : x.isFinite = true) (hne : (x == ofInt 0) = false) :
    ∃ digits n, IsShortest x.abs digits n ∧
      (digits.length ≤ n → n ≤ 21 → (Number.text x).toList =
        Format.signOf x ++ (digits ++ List.replicate (n.toNat - digits.length) '0')) ∧
      (0 < n → n ≤ 21 → n < digits.length → (Number.text x).toList =
        Format.signOf x ++ (digits.take n.toNat ++ '.' :: digits.drop n.toNat)) ∧
      (-6 < n → n ≤ 0 → (Number.text x).toList =
        Format.signOf x ++ '0' :: '.' :: (List.replicate (-n).toNat '0' ++ digits)) ∧
      (n ≤ -6 ∨ 21 < n → ∃ d ds, digits = d :: ds ∧ (Number.text x).toList =
        Format.signOf x ++ (d :: (if ds = [] then [] else '.' :: ds) ++
          'e' :: (if n - 1 < 0 then '-' else '+') :: toDigits (n - 1).natAbs)) ∧
      (∀ front back, (Number.text x).toList = front ++ 'e' :: back →
        ∃ p, Decimal.readPower? back = some p ∧ (p ≤ -7 ∨ 21 ≤ p)) ∧
      (Number.text x).toList = Format.byComparison x digits n := by
  obtain ⟨s, m, e, hm, hx⟩ := exists_finite_of_isFinite hfinite hne
  have hshortest := isShortest_shortest (Format.unpack_abs hx) .up
  have hdigits := hshortest.isDigit
  have hnil := hshortest.ne_nil
  have htext : (Number.text x).toList =
      Format.signOf x ++ Format.rendered.layout (digitsOf .up x.abs) (pointOf .up x.abs) :=
    String.toList_ofList.trans (Format.write_eq hx)
  refine ⟨_, _, hshortest, fun hwhole h => ?_, fun hpos h hpoint => ?_, fun h hfraction => ?_,
    fun h => ?_, fun front back h => ?_,
    String.toList_ofList.trans (Format.write_eq_byComparison hx)⟩
  · rw [htext, Format.layout_whole hwhole h]
  · rw [htext, Format.layout_point hpos h hpoint]
  · rw [htext, Format.layout_fraction hnil h hfraction]
  · obtain ⟨d, ds, hsplit, hpower⟩ := Format.layout_power hnil h
    exact ⟨d, ds, hsplit, by rw [htext, hpower]; rfl⟩
  · exact Format.exists_readPower?_of_layout hdigits (htext.symm.trans h)

/-- A number below zero and of a magnitude below one millionth has two signs, and its power is the
greatest of those below zero. -/
theorem text_form_small :
    Number.text (-Decimal.toFloat ⟨15, -8⟩) = "-1.5e-7" ∧
    (∃ p, Decimal.readPower? ['-', '7'] = some p ∧ (p ≤ -7 ∨ 21 ≤ p)) ∧
    ∃ digits n, IsShortest (-Decimal.toFloat ⟨15, -8⟩).abs digits n ∧
      (Number.text (-Decimal.toFloat ⟨15, -8⟩)).toList =
        Format.byComparison (-Decimal.toFloat ⟨15, -8⟩) digits n := by
  obtain ⟨digits, n, hshortest, -, -, -, -, hpower, hcompared⟩ :=
    text_form (-Decimal.toFloat ⟨15, -8⟩) (by decide +kernel) (by decide +kernel)
  exact ⟨by rfl, hpower ['-', '1', '.', '5'] ['-', '7'] (by rfl), digits, n, hshortest, hcompared⟩

end TemplateLiteral.Number
