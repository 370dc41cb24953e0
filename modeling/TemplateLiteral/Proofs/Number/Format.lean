import Mathlib
import TemplateLiteral.Data.Text
import TemplateLiteral.Proofs.Number.Digits
import TemplateLiteral.Proofs.Number.Numeral
import TemplateLiteral.Proofs.Number.Shortest
import TemplateLiteral.Proofs.Token.Lookahead

/-!
# Numbers that are written and read

Whatever the layout of a number, its text is a numeral that denotes the digits and the power of ten
that are laid out, or differs from them by zeros at the end. Since these read back as the number, so
does the text. The sign of zero is not written.

## Main definitions

* `Numeral.Denotes`: the double of a decimal numeral
* `Written`: the texts of numbers

## Main results

* `denotes_layout`: what is laid out is denoted
* `written_write`: the text of a number, as one of five forms
* `Written.readText_eq`: the text of a number reads back
-/

namespace TemplateLiteral.Number

open Float.Model (UnpackedFloat)
open Float.Model.UnpackedFloat

/-! ## The numerals of a layout -/

/-- The text is a decimal numeral, and the number that it denotes has the double. -/
structure Numeral.Denotes (text : List Char) (x : Float) : Prop where
  form : Numeral.Decimal text
  value : (Decimal.ofNumeral? text).map Decimal.toFloat = some x

namespace Format

theorem exponent_power (n : Int) : Numeral.Exponent (power n) := by
  have hsign : [if n < 0 then '-' else '+'] = [] ∨ [if n < 0 then '-' else '+'] = ['+'] ∨
      [if n < 0 then '-' else '+'] = ['-'] := by
    split <;> simp
  exact .power (.inl rfl) hsign Nat.toDigits_ne_nil fun _ => isDigitOf_of_mem_toDigits

theorem readExponent?_power (n : Int) : Decimal.readExponent? (power n) = some n := by
  have hmagnitude : Decimal.readPower?.magnitude? (toDigits n.natAbs) = some (n.natAbs : Int) := by
    have hne : (toDigits n.natAbs).isEmpty = false :=
      List.isEmpty_eq_false_iff.2 Nat.toDigits_ne_nil
    have hall : (toDigits n.natAbs).all (isDigitOf 10) :=
      List.all_eq_true.2 fun _ => isDigitOf_of_mem_toDigits
    simp [Decimal.readPower?.magnitude?, hne, hall, ofDigits_toDigits]
  rw [power, Decimal.readExponent?, if_pos (.inl rfl)]
  split
  · rw [Decimal.readPower?, hmagnitude, Option.map_some]
    congr 1
    omega
  · rw [Decimal.readPower?, hmagnitude]
    congr 1
    omega

section Layout

variable {whole fraction exponent digits : List Char}

theorem denotes_append (hwhole : ∀ c ∈ whole, isDigitOf 10 c) (hne : whole ≠ [])
    (hfraction : Numeral.Fraction fraction) (hexponent : Numeral.Exponent exponent) {n : Int}
    (hn : Decimal.readExponent? exponent = some n) :
    Numeral.Denotes (whole ++ (fraction ++ exponent))
      (Decimal.toFloat ⟨ofDigits 10 (whole ++ fraction.tail), n - fraction.tail.length⟩) := by
  refine ⟨.intro hwhole hfraction hexponent (.inl hne), ?_⟩
  rw [Numeral.ofNumeral?_append hwhole hfraction hexponent (.inl hne), hn]
  rfl

/-- Zeros behind the digits, up to the point that is not written. -/
theorem denotes_zeros_behind (hdigits : ∀ c ∈ digits, isDigitOf 10 c) (hne : digits ≠ [])
    (k : Nat) :
    Numeral.Denotes (digits ++ List.replicate k '0') (Decimal.toFloat ⟨ofDigits 10 digits, k⟩) := by
  have hall : ∀ c ∈ digits ++ List.replicate k '0', isDigitOf 10 c :=
    List.forall_mem_append.2 ⟨hdigits, isDigitOf_of_mem_zeros (by decide) k⟩
  have hdenotes := denotes_append hall (by simp [hne]) .absent .absent rfl
  rw [← Decimal.toFloat_trailing_zeros, ← ofDigits_append_zeros]
  simpa using hdenotes

/-- A point among the digits. -/
theorem denotes_point {front back : List Char} (hfront : ∀ c ∈ front, isDigitOf 10 c)
    (hne : front ≠ []) (hback : ∀ c ∈ back, isDigitOf 10 c) :
    Numeral.Denotes (front ++ '.' :: back)
      (Decimal.toFloat ⟨ofDigits 10 (front ++ back), 0 - back.length⟩) := by
  have hdenotes := denotes_append hfront hne (.point hback) .absent rfl
  rwa [List.append_nil] at hdenotes

/-- One digit in front of the point, which is not written if there are no more, and a power. -/
theorem denotes_power {d : Char} {ds : List Char} (hdigits : ∀ c ∈ d :: ds, isDigitOf 10 c)
    (n : Int) :
    Numeral.Denotes (if ds = [] then d :: power n else d :: '.' :: (ds ++ power n))
      (Decimal.toFloat ⟨ofDigits 10 (d :: ds), n - ds.length⟩) := by
  obtain ⟨hd, hds⟩ := List.forall_mem_cons.1 hdigits
  have hfirst : ∀ c ∈ [d], isDigitOf 10 c := List.forall_mem_singleton.2 hd
  have hexponent := exponent_power n
  have hread := readExponent?_power n
  split
  next hnone =>
    subst hnone
    exact denotes_append hfirst (List.cons_ne_nil d []) .absent hexponent hread
  · exact denotes_append hfirst (List.cons_ne_nil d []) (.point hds) hexponent hread

/-- What is laid out is denoted. -/
theorem denotes_layout (hdigits : ∀ c ∈ digits, isDigitOf 10 c) (hne : digits ≠ []) (n : Int) :
    Numeral.Denotes (rendered.layout digits (digits.length + n))
      (Decimal.toFloat ⟨ofDigits 10 digits, n⟩) := by
  unfold layout
  split
  next =>
    split
    next hwhole =>
      obtain ⟨k, rfl⟩ := Int.eq_ofNat_of_zero_le (show 0 ≤ n by omega)
      have hzeros : ((digits.length : Int) + k).toNat - digits.length = k := by omega
      have hmark : rendered.wholeMark = [] := rfl
      rw [hzeros, hmark, List.append_nil]
      exact denotes_zeros_behind hdigits hne k
    split
    next hpoint =>
      obtain ⟨k, hk⟩ := Int.eq_ofNat_of_zero_le hpoint.le
      have hfront : digits.take k ≠ [] := by
        rw [← List.length_pos_iff, List.length_take]
        omega
      have hplaces : 0 - ((digits.drop k).length : Int) = n := by
        rw [List.length_drop]
        omega
      have hback : ∀ c ∈ digits.drop k, isDigitOf 10 c :=
        fun c hc => hdigits c (List.mem_of_mem_drop hc)
      have hdenotes := denotes_point (fun c hc => hdigits c (List.mem_of_mem_take hc)) hfront hback
      rw [List.take_append_drop, hplaces] at hdenotes
      rwa [hk, Int.toNat_natCast]
    next hpoint =>
      obtain ⟨k, hk⟩ := Int.eq_ofNat_of_zero_le (Int.neg_nonneg_of_nonpos (le_of_not_gt hpoint))
      have hplaces : 0 - ((List.replicate k '0' ++ digits).length : Int) = n := by
        rw [List.length_append, List.length_replicate]
        omega
      have hdenotes := denotes_point (isDigitOf_of_mem_zeros (by decide) 1) (List.cons_ne_nil _ _)
        (List.forall_mem_append.2 ⟨isDigitOf_of_mem_zeros (by decide) k, hdigits⟩)
      rw [← List.append_assoc, List.replicate_append_replicate, ofDigits_zeros_append,
        hplaces] at hdenotes
      rwa [hk, Int.toNat_natCast]
  · obtain ⟨d, ds, rfl⟩ := List.exists_cons_of_ne_nil hne
    have hdenotes := denotes_power hdigits ((d :: ds).length + n - 1)
    have hplaces : ((d :: ds).length : Int) + n - 1 - ds.length = n := by
      rw [List.length_cons]
      omega
    rw [hplaces] at hdenotes
    cases ds with
    | nil => exact hdenotes
    | cons => exact hdenotes

end Layout

/-! ## The texts of numbers -/

/-- The text of a positive number denotes it. -/
theorem denotes_magnitude {x : Float} {m : Nat} {e : Int} {hm : 0 < m}
    (hx : x.toModel.unpack = .finite .positive m e hm) :
    Numeral.Denotes (rendered.magnitude x) x := by
  let decimal := shortest rendered.tie x
  have hread : Decimal.toFloat ⟨decimal.coefficient, decimal.exponent⟩ = x := toFloat_shortest hx
  have hdigits : ∀ c ∈ toDigits decimal.coefficient, isDigitOf 10 c :=
    fun _ => isDigitOf_of_mem_toDigits
  have hdenotes := denotes_layout hdigits Nat.toDigits_ne_nil decimal.exponent
  rwa [ofDigits_toDigits, hread] at hdenotes

end Format

/-- The texts of numbers. -/
inductive Written : List Char → Float → Prop where
  | notANumber : Written "NaN".toList notANumber
  | infinity : Written "Infinity".toList infinity
  | negativeInfinity : Written "-Infinity".toList (-infinity)
  | magnitude {text : List Char} {x : Float} : Numeral.Denotes text x → Written text x
  | negative {text : List Char} {x : Float} : Numeral.Denotes text x → Written ('-' :: text) (-x)

section Written

variable {c : Char} {text : List Char} {x : Float}

/-! ## The texts are those of the numbers -/

theorem unpack_ofInt_zero : (ofInt 0).toModel.unpack = .zero .positive :=
  unpack_packedZero

theorem unpack_notANumber : notANumber.toModel.unpack = .notANumber :=
  unpack_packedNaN

theorem unpack_infinity : infinity.toModel.unpack = .infinity .positive := by
  rfl

theorem denotes_zero : Numeral.Denotes ['0'] (ofInt 0) := by
  have hzero : Decimal.toFloat ⟨0, 0⟩ = ofInt 0 := rfl
  rw [← hzero]
  exact Format.denotes_append (isDigitOf_of_mem_zeros (by decide) 1) (List.cons_ne_nil _ _) .absent
    .absent rfl

theorem beq_zero_iff : (x == ofInt 0) = true ↔ ∃ s, x.toModel.unpack = .zero s := by
  have hbeq : (x == ofInt 0) = x.toModel.unpack.beq (.zero .positive) := by
    rw [← unpack_ofInt_zero]
    rfl
  rw [hbeq, beq_iff_ne_notANumber_and_eq]
  constructor
  · rintro ⟨-, -, h | ⟨h, ⟨⟩⟩ | ⟨h, -⟩⟩
    · exact ⟨_, h⟩
    · exact ⟨_, h⟩
  · rintro ⟨s, h⟩
    cases s <;> simp [h]

/-- The text of a number, without the sign of zero. -/
theorem written_write (x : Float) :
    Written (Format.rendered.write x) (if x == ofInt 0 then ofInt 0 else x) := by
  have hopposite := unpack_neg x
  have hsame : (∀ s, x.toModel.unpack ≠ .zero s) → (if x == ofInt 0 then ofInt 0 else x) = x := by
    intro hne
    refine if_neg fun hzero => ?_
    obtain ⟨s, hs⟩ := beq_zero_iff.1 hzero
    exact hne s hs
  unfold Format.write
  cases hx : x.toModel.unpack with
  | notANumber =>
    rw [hsame (by simp [hx])]
    obtain rfl : x = notANumber := unpack_inj.1 (hx.trans unpack_notANumber.symm)
    exact .notANumber
  | infinity s =>
    rw [hsame (by simp [hx])]
    cases s with
    | positive =>
      obtain rfl : x = infinity := unpack_inj.1 (hx.trans unpack_infinity.symm)
      exact .infinity
    | negative =>
      obtain rfl : x = -infinity := by
        rw [← unpack_inj, unpack_neg, unpack_infinity, hx]
        rfl
      exact .negativeInfinity
  | zero s =>
    have hzero : (if x == ofInt 0 then ofInt 0 else x) = ofInt 0 := if_pos (beq_zero_iff.2 ⟨s, hx⟩)
    rw [hzero]
    cases s <;> exact .magnitude denotes_zero
  | finite s m e hm =>
    rw [hsame (by simp [hx])]
    cases s with
    | positive => exact .magnitude (Format.denotes_magnitude hx)
    | negative =>
      rw [hx] at hopposite
      have hnegative := Written.negative (Format.denotes_magnitude hopposite)
      rwa [neg_neg_eq] at hnegative

/-- Both zeros have the same text. -/
theorem text_unsigned (x : Float) :
    Number.text (if x == ofInt 0 then ofInt 0 else x) = Number.text x := by
  split
  next hzero =>
    obtain ⟨s, hs⟩ := beq_zero_iff.1 hzero
    rw [Number.text, Number.text, Format.write, Format.write, unpack_ofInt_zero, hs]
    cases s <;> rfl
  · rfl

/-! ## The texts read back -/

theorem not_isBlank_of_isNumeralChar (h : isNumeralChar c) : ¬ Text.isBlank c := by
  intro hblank
  have hdigit : isDigitOf 10 c = false := (Numeral.ends_of_isBlank hblank).decimal
  simp only [isNumeralChar, hdigit, Bool.false_or, Bool.or_eq_true, decide_eq_true_eq] at h
  rcases h with (((rfl | rfl) | rfl) | rfl) | rfl <;> exact absurd hblank (by decide)

theorem trim_eq_self (h : ∀ c ∈ text, ¬ Text.isBlank c) : Text.trim text = text := by
  have hforth : text.dropWhile Text.isBlank = text :=
    List.dropWhile_eq_self_iff.2 fun hpos => h _ (List.getElem_mem hpos)
  have hback : text.reverse.dropWhile Text.isBlank = text.reverse :=
    List.dropWhile_eq_self_iff.2 fun hpos => h _ (List.mem_reverse.1 (List.getElem_mem hpos))
  rw [Text.trim, hforth, hback, List.reverse_reverse]

/-- What looks like a numeral is read as one. -/
theorem readText_eq (hall : ∀ c ∈ text, isNumeralChar c) (hne : text ≠ [])
    (hradix : ∀ x digits, text = '0' :: x :: digits → radixOf? x = none) :
    readText text = (readNumeral? text).getD notANumber := by
  have hplain : readPlain text = (readNumeral? text).getD notANumber :=
    if_pos (List.all_eq_true.2 hall)
  -- No name of infinity looks like a numeral, for its first letter does not.
  have hname : ∀ name : List Char, 'I' ∈ name → text ≠ name := by
    rintro name hname rfl
    exact absurd (hall _ hname) (by decide)
  unfold readText
  rw [trim_eq_self fun c hc => not_isBlank_of_isNumeralChar (hall c hc)]
  simp only [List.isEmpty_eq_false_iff.2 hne, hname _ (by decide : 'I' ∈ "Infinity".toList),
    hname _ (by decide : 'I' ∈ "+Infinity".toList), hname _ (by decide : 'I' ∈ "-Infinity".toList),
    or_self, if_false, Bool.false_eq_true]
  split
  next x digits =>
    rw [hradix x digits rfl]
    exact hplain
  · exact hplain

theorem Numeral.Denotes.readNumeral?_eq (h : Numeral.Denotes text x) : readNumeral? text = some x :=
  h.form.readNumeral?_eq.trans h.value

theorem Numeral.Denotes.read?_eq (h : Numeral.Denotes text x) : Numeral.read? text = some x :=
  h.form.read?_eq.trans h.value

theorem Numeral.Denotes.ne_nil (h : Numeral.Denotes text x) : text ≠ [] := by
  rintro rfl
  exact h.form.begins

theorem readText_notANumber : readText "NaN".toList = notANumber := by
  have htrim : Text.trim "NaN".toList = "NaN".toList := by decide +kernel
  have hplain : readPlain "NaN".toList = notANumber := if_neg (by decide +kernel)
  unfold readText
  rw [htrim]
  dsimp only
  rw [if_neg (by decide +kernel), if_neg (by decide +kernel), if_neg (by decide +kernel)]
  exact hplain

theorem readText_infinity : readText "Infinity".toList = infinity := by
  have htrim : Text.trim "Infinity".toList = "Infinity".toList := by decide +kernel
  unfold readText
  rw [htrim]
  dsimp only
  rw [if_neg (by decide +kernel), if_pos (by decide +kernel)]

theorem readText_negativeInfinity : readText "-Infinity".toList = -infinity := by
  have htrim : Text.trim "-Infinity".toList = "-Infinity".toList := by decide +kernel
  unfold readText
  rw [htrim]
  dsimp only
  rw [if_neg (by decide +kernel), if_neg (by decide +kernel), if_pos rfl]

/-- The text of a number reads back. -/
theorem Written.readText_eq (h : Written text x) : readText text = x := by
  cases h with
  | notANumber => exact readText_notANumber
  | infinity => exact readText_infinity
  | negativeInfinity => exact readText_negativeInfinity
  | magnitude h =>
    have hradix : ∀ x digits, text = '0' :: x :: digits → radixOf? x = none := by
      rintro x digits rfl
      exact h.form.radixOf?_eq_none
    rw [Number.readText_eq (fun _ => h.form.isNumeralChar) h.ne_nil hradix, h.readNumeral?_eq,
      Option.getD_some]
  | @negative text y h =>
    have hall : ∀ c ∈ '-' :: text, isNumeralChar c :=
      List.forall_mem_cons.2 ⟨rfl, fun _ => h.form.isNumeralChar⟩
    have hread : readNumeral? ('-' :: text) = some (-y) := by
      have hsign : (Decimal.ofNumeral? text).map (fun d => -d.toFloat) =
          ((Decimal.ofNumeral? text).map Decimal.toFloat).map (- ·) := (Option.map_map _ _ _).symm
      rw [readNumeral?, hsign, h.value, Option.map_some]
    rw [Number.readText_eq hall (List.cons_ne_nil _ _) nofun, hread, Option.getD_some]

end Written

end TemplateLiteral.Number
