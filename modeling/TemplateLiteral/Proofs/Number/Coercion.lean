import Mathlib
import TemplateLiteral.Expr.Parser
import TemplateLiteral.Proofs.Number.Format
import TemplateLiteral.Proofs.Number.Radix
import TemplateLiteral.Value.Basic

/-!
# Numerals in expressions and in texts

A numeral in an expression has the value that its text has when it is converted to a number. The
digits behind `0x`, `0o` and `0b` are added up in the same way in both places, and what comes out is
the double nearest to the number that they denote, unless too few of them count.

## Main definitions

* `Numeral.HasValue`: the value of a numeral

## Main results

* `Numeral.Form.exists_read`: a numeral has one value
* `radix_numerals`: the value of the numerals in a radix
-/

namespace TemplateLiteral.Number

section Values

variable {c x : Char} {radix : ℕ} {text digits : List Char}

theorem not_isBlank_of_isDigitOf (h : isDigitOf radix c) : ¬ Text.isBlank c := by
  intro hblank
  have hascii := isAscii_of_isDigitOf h
  simp only [Text.isBlank, Bool.or_eq_true, Bool.and_eq_true, decide_eq_true_eq] at hblank
  omega

/-! ## One value -/

/-- The letters that name a radix. -/
theorem radixOf?_cases (hx : radixOf? x = some radix) :
    radix = 16 ∧ (x = 'x' ∨ x = 'X') ∨ radix = 8 ∧ (x = 'o' ∨ x = 'O') ∨
      radix = 2 ∧ (x = 'b' ∨ x = 'B') := by
  unfold radixOf? at hx
  split at hx <;> simp_all

/-- A text that is a numeral in a radix is read as its digits add up. -/
theorem readText_radix (hx : radixOf? x = some radix) (hne : digits ≠ [])
    (hdigits : ∀ c ∈ digits, isDigitOf radix c) :
    readText ('0' :: x :: digits) = accumulate radix digits := by
  have hletter : ¬ Text.isBlank x := by
    rcases radixOf?_cases hx with ⟨-, rfl | rfl⟩ | ⟨-, rfl | rfl⟩ | ⟨-, rfl | rfl⟩ <;> decide
  have hblank : ∀ c ∈ '0' :: x :: digits, ¬ Text.isBlank c := by
    refine List.forall_mem_cons.2 ⟨by decide, List.forall_mem_cons.2 ⟨hletter, fun c hc => ?_⟩⟩
    exact not_isBlank_of_isDigitOf (hdigits c hc)
  unfold readText
  rw [trim_eq_self hblank]
  dsimp only
  rw [if_neg (by simp), if_neg nofun, if_neg nofun]
  simp only [hx, readRadix?_eq_accumulate hne hdigits, Option.getD_some]

/-- The value of a numeral in an expression: that of a decimal numeral, or the double nearest to the
number that digits of radix sixteen denote, unless too few of them count. -/
inductive Numeral.HasValue : List Char → Float → Prop
  | radix {x : Char} {digits : List Char} {y : Float} (hx : x = 'x' ∨ x = 'X')
    (hnearest : IsNearestDouble (ofDigits 16 digits) y ↔ ¬ FallsShort 16 (ofDigits 16 digits)) :
    HasValue ('0' :: x :: digits) y
  | decimal {text : List Char} {y : Float} (h : Numeral.Denotes text y) : HasValue text y

/-- A numeral has one value, in an expression and as a text, and it is a number. -/
theorem Numeral.Form.exists_read (h : Numeral.Form text) : ∃ y w,
    Numeral.read? text = some y ∧ readText text = y ∧ IsRead y w ∧ Numeral.HasValue text y := by
  cases h with
  | @radix x digits hx hne hdigits =>
    have hradix : radixOf? x = some 16 := by rcases hx with rfl | rfl <;> rfl
    obtain ⟨_, -, w, -, hread⟩ := exists_counted (s := 4) (by decide) digits
    refine ⟨accumulate 16 digits, w, ?_, readText_radix hradix hne hdigits, hread,
      .radix hx (@isNearestDouble_accumulate_iff 4 digits (by decide))⟩
    rw [Numeral.read?, if_pos hx, Numeral.readHexadecimal?_eq_readRadix?_iff.2 hne,
      readRadix?_eq_accumulate hne hdigits]
  | decimal h =>
    obtain ⟨d, hd⟩ := Option.isSome_iff_exists.1 h.ofNumeral?_isSome
    obtain ⟨w, -, hread⟩ := d.isNearestDouble_toFloat
    have hradix : ∀ x digits, text = '0' :: x :: digits → radixOf? x = none := by
      rintro x digits rfl
      exact h.radixOf?_eq_none
    have hne : text ≠ [] := by
      rintro rfl
      exact h.begins
    refine ⟨d.toFloat, w, ?_, ?_, hread, .decimal ⟨h, ?_⟩⟩
    · rw [h.read?_eq, hd, Option.map_some]
    · rw [readText_eq (fun _ => h.isNumeralChar) hne hradix, h.readNumeral?_eq, hd,
        Option.map_some, Option.getD_some]
    · rw [hd, Option.map_some]

theorem IsRead.ne_notANumber {y : Float} {w : ℚ} (h : IsRead y w) : y ≠ notANumber := by
  have hparts : notANumber.toModel.unpack = .notANumber :=
    Float.Model.UnpackedFloat.unpack_packedNaN
  rintro rfl
  cases h with
  | zero hx | finite hx | infinity hx => cases hparts.symm.trans hx

/-- A string as a number is its text as a number. -/
theorem toNumber_string (text : List Char) :
    Value.toNumber (.string (String.ofList text)) = readText text :=
  congrArg readText String.toList_ofList

/-! ## Numerals in a radix -/

theorem exists_eq_two_pow (hx : radixOf? x = some radix) : ∃ s ≤ 53, radix = 2 ^ s := by
  rcases radixOf?_cases hx with ⟨rfl, -⟩ | ⟨rfl, -⟩ | ⟨rfl, -⟩
  · exact ⟨4, by decide, rfl⟩
  · exact ⟨3, by decide, rfl⟩
  · exact ⟨1, by decide, rfl⟩

/-- The digits behind `0x`, `0o` and `0b` have one value, in an expression and as a text, and zeros
in front of them change nothing. It is the double nearest to the number that they denote, unless too
few of them count: then it is the next double below. Numbers up to `2 ^ 53` are exact. -/
theorem radix_numerals (hx : radixOf? x = some radix) (hne : digits ≠ [])
    (hdigits : ∀ c ∈ digits, isDigitOf radix c) : ∃ y,
    (∀ zeros, Value.toNumber
      (.string (String.ofList ('0' :: x :: (List.replicate zeros '0' ++ digits)))) = y) ∧
    (radix = 16 → ∀ zeros (t : Token), t.kind = .number →
      t.text = '0' :: x :: (List.replicate zeros '0' ++ digits) →
      Parser.literal? t = some (.ok (.number y))) ∧
    (IsNearestDouble (ofDigits radix digits) y ↔ ¬ FallsShort radix (ofDigits radix digits)) ∧
    (FallsShort radix (ofDigits radix digits) → ∃ z m e hm,
      IsNearestDouble (ofDigits radix digits) z ∧ y.toModel.unpack = .finite .positive m e hm ∧
      z.toModel.unpack = .finite .positive (m + 1) e m.succ_pos) ∧
    (ofDigits radix digits ≤ 2 ^ 53 → IsRead y (ofDigits radix digits)) := by
  obtain ⟨s, hs, rfl⟩ := exists_eq_two_pow hx
  have hzeros : ∀ zeros, ∀ c ∈ List.replicate zeros '0' ++ digits, isDigitOf (2 ^ s) c := by
    intro zeros c hc
    rcases List.mem_append.1 hc with hc | hc
    · exact isDigitOf_of_mem_zeros (Nat.two_pow_pos s) zeros c hc
    · exact hdigits c hc
  have hread : ∀ zeros, readText ('0' :: x :: (List.replicate zeros '0' ++ digits)) =
      accumulate (2 ^ s) digits := by
    intro zeros
    rw [readText_radix hx (List.append_ne_nil_of_right_ne_nil _ hne) (hzeros zeros),
      accumulate_zeros_append hs]
  refine ⟨accumulate (2 ^ s) digits, fun zeros => ?_, fun hradix zeros t hkind htext => ?_,
    isNearestDouble_accumulate_iff hs, FallsShort.exists_neighbour hs, isRead_accumulate hs⟩
  · rw [toNumber_string, hread]
  · have hform : Numeral.Form t.text := by
      rw [htext]
      have hletter : x = 'x' ∨ x = 'X' := by simpa [hradix] using radixOf?_cases hx
      exact .radix hletter (List.append_ne_nil_of_right_ne_nil _ hne) (hradix ▸ hzeros zeros)
    obtain ⟨y, _, hvalue, hsame, -, -⟩ := hform.exists_read
    rw [htext, hread] at hsame
    rw [Parser.literal?, hkind]
    dsimp only
    rw [hvalue, hsame]

theorem isDigitOf_short : ∀ c ∈ "10000000000000801".toList, isDigitOf 16 c :=
  List.all_eq_true.1 (by rfl)

theorem ofDigits_short : ofDigits 16 "10000000000000801".toList = 18446744073709553665 := by
  decide +kernel

/-- Without its last digit the number is halfway between two doubles. -/
theorem fallsShort_short : FallsShort 16 (ofDigits 16 "10000000000000801".toList) := by
  have hlt : ((18446744073709553665 : ℕ) : ℚ) < 2 ^ (65 : ℤ) := by norm_num
  have hfinite : ((18446744073709553665 : ℕ) : ℚ) < 2 ^ (1024 : ℤ) :=
    hlt.trans_le (zpow_le_zpow_right₀ one_le_two (by decide))
  rw [ofDigits_short]
  exact @FallsShort.intro 16 _ 1 (2 ^ 52) 7 le_rfl (by decide) (by decide) (by decide) (by decide)
    hfinite

/-- Zeros in front of a number that falls short. -/
theorem radix_numerals_short : ∃ y z m e hm,
    (∀ zeros, Value.toNumber (.string (String.ofList
      ('0' :: 'X' :: (List.replicate zeros '0' ++ "10000000000000801".toList)))) = y) ∧
    IsNearestDouble 18446744073709553665 z ∧ y.toModel.unpack = .finite .positive m e hm ∧
    z.toModel.unpack = .finite .positive (m + 1) e m.succ_pos := by
  obtain ⟨y, hread, -, -, hshort, -⟩ := @radix_numerals 'X' 16 _ rfl (by decide) isDigitOf_short
  obtain ⟨z, m, e, hm, hz, hparts⟩ := hshort fallsShort_short
  rw [ofDigits_short] at hz
  exact ⟨y, z, m, e, hm, hread, by exact_mod_cast hz, hparts⟩

/-- A number that is not read as the double nearest to it. -/
theorem radix_numerals_below : ∃ y z,
    Value.toNumber (.string (String.ofList "0x10000000000000801".toList)) = y ∧
    Parser.literal? ⟨.number, "0x10000000000000801".toList, ⟨2, 21⟩⟩ = some (.ok (.number y)) ∧
    IsNearestDouble (ofDigits 16 "10000000000000801".toList) z ∧ y ≠ z ∧
    Number.text y = "18446744073709552000" ∧ Number.text z = "18446744073709556000" := by
  have hform : Numeral.Form "0x10000000000000801".toList :=
    @Numeral.Form.radix 'x' "10000000000000801".toList (.inl rfl) (by decide) isDigitOf_short
  obtain ⟨y, _, hvalue, hread, -⟩ := hform.exists_read
  have hsum : y = accumulate 16 "10000000000000801".toList :=
    hread.symm.trans (@readText_radix 'x' 16 _ rfl (by decide) isDigitOf_short)
  have hlower : Number.text y = "18446744073709552000" := by
    rw [hsum]
    decide +kernel
  have hupper : Number.text (ofInt 18446744073709553665) = "18446744073709556000" := by
    decide +kernel
  have hnearest := isNearestDouble_ofInt 18446744073709553665
  refine ⟨y, _, (toNumber_string _).trans hread, ?_, ofDigits_short ▸ hnearest, ?_, hlower, hupper⟩
  · rw [Parser.literal?]
    dsimp only
    rw [hvalue]
  · intro hsame
    have htexts := hlower.symm.trans ((congrArg Number.text hsame).trans hupper)
    exact absurd htexts (by decide)

end Values

end TemplateLiteral.Number
