import Mathlib.Data.List.TakeWhile
import TemplateLiteral.Number.Numeral

/-!
# The numeral that a text begins with

A decimal numeral is a run of digits, a fraction and an exponent, where each of the three may be
absent but not both of the first two. What stands at the beginning of a text up to the length of
its numeral has this form, or is `0x` and digits of radix sixteen. Either way a number is read
from it. How far a numeral reaches is seen at the latest at the first character that can stand in
no numeral.

## Main definitions

* `Numeral.Fraction`, `Numeral.Exponent`, `Numeral.Decimal`: the form of decimal numerals
* `Numeral.Form`: the form of the numerals in expressions
* `Numeral.Stops`: a character that ends any numeral

## Main results

* `Numeral.readHexadecimal?_eq_readRadix?_iff`: digits in an expression and in a text
* `Numeral.read?_take_length`: a number is read from the numeral that a text begins with
* `Numeral.length_append_of_stops`: what stands after the end of a numeral does not count
-/

namespace TemplateLiteral.Number.Numeral

/-! ## Runs of digits -/

section Runs

variable {α : Type} {p : α → Bool} {xs ys : List α}

theorem takeWhile_append_of_head? (hxs : ∀ c ∈ xs, p c)
    (hys : ∀ c, ys.head? = some c → p c = false) : (xs ++ ys).takeWhile p = xs := by
  rw [List.takeWhile_append_of_pos hxs]
  cases ys with
  | nil => rw [List.takeWhile_nil, List.append_nil]
  | cons y ys =>
    rw [List.takeWhile_cons_of_neg (by simp [hys y rfl]), List.append_nil]

theorem dropWhile_append_of_head? (hxs : ∀ c ∈ xs, p c)
    (hys : ∀ c, ys.head? = some c → p c = false) : (xs ++ ys).dropWhile p = ys := by
  rw [List.dropWhile_append_of_pos hxs]
  cases ys with
  | nil => rfl
  | cons y ys => rw [List.dropWhile_cons_of_neg (by simp [hys y rfl])]

theorem takeWhile_append_cons_of_neg {b : α} (hb : p b = false) :
    (xs ++ b :: ys).takeWhile p = xs.takeWhile p := by
  induction xs with
  | nil => simp [hb]
  | cons x xs ih => simp only [List.cons_append, List.takeWhile_cons, ih]

end Runs

/-- Digits are taken in one after the other, and each of them is one. -/
theorem foldlM_digits {radix : Nat} {digits : List Char} (h : ∀ c ∈ digits, isDigitOf radix c)
    (total : Float) :
    digits.foldlM (fun total c =>
        (digitValue? radix c).map fun d => total * ofInt radix + ofInt d) total =
      some (digits.foldl (fun total c =>
        total * ofInt radix + ofInt ((digitValue? radix c).getD 0)) total) := by
  induction digits generalizing total with
  | nil => rfl
  | cons c digits ih =>
    obtain ⟨hc, hdigits⟩ := List.forall_mem_cons.1 h
    obtain ⟨d, hd⟩ := Option.isSome_iff_exists.1 hc
    rw [List.foldlM_cons, List.foldl_cons, hd]
    exact ih hdigits _

/-- A numeral in an expression and a text take in their digits in the same way, whether these are
digits or not. Only a text is asked whether there are any. -/
theorem readHexadecimal?_eq_readRadix?_iff {digits : List Char} :
    readHexadecimal? digits = readRadix? 16 digits ↔ digits ≠ [] := by
  constructor
  · rintro h rfl
    cases h
  · intro hne
    rw [readHexadecimal?, List.foldlM_map, readRadix?, if_neg (by simpa using hne)]
    rfl

theorem take_digitCount (radix : Nat) (text : List Char) :
    text.take (digitCount radix text) = text.takeWhile (isDigitOf radix) :=
  (List.prefix_iff_eq_take.1 (List.takeWhile_prefix _)).symm

/-! ## The form of decimal numerals -/

/-- A point and digits, or nothing. -/
inductive Fraction : List Char → Prop where
  | absent : Fraction []
  | point {digits : List Char} (hdigits : ∀ c ∈ digits, isDigitOf 10 c) :
      Fraction ('.' :: digits)

/-- A power of ten, or nothing. -/
inductive Exponent : List Char → Prop where
  | absent : Exponent []
  | power {e : Char} {sign digits : List Char} (he : e = 'e' ∨ e = 'E')
      (hsign : sign = [] ∨ sign = ['+'] ∨ sign = ['-']) (hne : digits ≠ [])
      (hdigits : ∀ c ∈ digits, isDigitOf 10 c) : Exponent (e :: (sign ++ digits))

/-- Digits, a fraction and an exponent, where the first two do not have digits only if both
together have none. -/
inductive Decimal : List Char → Prop where
  | intro {whole fraction exponent : List Char} (hwhole : ∀ c ∈ whole, isDigitOf 10 c)
      (hfraction : Fraction fraction) (hexponent : Exponent exponent)
      (hne : whole ≠ [] ∨ ∃ d digits, fraction = '.' :: d :: digits) :
      Decimal (whole ++ (fraction ++ exponent))

theorem fraction_take_fractionLength (text : List Char) :
    Fraction (text.take (fractionLength text)) := by
  unfold fractionLength
  split
  next rest =>
    rw [Nat.add_comm, List.take_succ_cons, take_digitCount]
    exact .point fun _ => List.mem_takeWhile_imp
  · exact .absent

/-- How many characters the sign of a power takes. -/
def signLength : List Char → Nat
  | '+' :: _ | '-' :: _ => 1
  | _ => 0

theorem exponentLength_cons (e : Char) (rest : List Char) :
    exponentLength (e :: rest) =
      if (e = 'e' ∨ e = 'E') ∧ digitCount 10 (rest.drop (signLength rest)) ≠ 0 then
        1 + signLength rest + digitCount 10 (rest.drop (signLength rest))
      else 0 := rfl

theorem take_signLength (text : List Char) :
    text.take (signLength text) = [] ∨ text.take (signLength text) = ['+'] ∨
      text.take (signLength text) = ['-'] := by
  unfold signLength
  split
  · exact .inr (.inl rfl)
  · exact .inr (.inr rfl)
  · exact .inl rfl

theorem exponent_take_exponentLength (text : List Char) :
    Exponent (text.take (exponentLength text)) := by
  cases text with
  | nil => exact .absent
  | cons e rest =>
    rw [exponentLength_cons]
    split
    next hpower =>
      rw [Nat.add_assoc, Nat.add_comm, List.take_succ_cons, List.take_add, take_digitCount]
      exact .power hpower.1 (take_signLength rest) (fun h => hpower.2 (congrArg List.length h))
        fun _ => List.mem_takeWhile_imp
    · exact .absent

theorem Exponent.head?_not_digit {exponent : List Char} (h : Exponent exponent) {c : Char}
    (hc : exponent.head? = some c) : isDigitOf 10 c = false ∧ c ≠ '.' := by
  cases h with
  | absent => cases hc
  | power he =>
    obtain rfl := Option.some.inj hc
    rcases he with rfl | rfl <;> decide

theorem Fraction.head?_append_not_digit {fraction exponent : List Char} (h : Fraction fraction)
    (hexponent : Exponent exponent) {c : Char} (hc : (fraction ++ exponent).head? = some c) :
    isDigitOf 10 c = false := by
  cases h with
  | absent => exact (hexponent.head?_not_digit hc).1
  | point =>
    obtain rfl := Option.some.inj hc
    decide

/-- A numeral that begins with a digit, or with a point and a digit, has the form of one. -/
theorem decimal_take_decimalLength {c : Char} {rest : List Char}
    (h : isDigitOf 10 c ∨ c = '.' ∧ ∃ d digits, rest = d :: digits ∧ isDigitOf 10 d) :
    Decimal ((c :: rest).take (decimalLength (c :: rest))) := by
  unfold decimalLength
  dsimp only
  rw [List.take_add, List.take_add, take_digitCount, List.append_assoc]
  refine .intro (fun _ => List.mem_takeWhile_imp) (fraction_take_fractionLength _)
    (exponent_take_exponentLength _) ?_
  rcases h with hc | ⟨rfl, d, digits, rfl, hd⟩
  · exact .inl (by simp [hc])
  · -- There are no digits before the point, so the digit after it has to count.
    refine .inr ⟨d, digits.takeWhile (isDigitOf 10), ?_⟩
    have hpoint : digitCount 10 ('.' :: d :: digits) = 0 := rfl
    rw [hpoint, List.drop_zero, fractionLength, Nat.add_comm, List.take_succ_cons, take_digitCount,
      List.takeWhile_cons_of_pos hd]

/-! ## Reading a decimal numeral -/

theorem magnitude?_isSome {digits : List Char} (hne : digits ≠ [])
    (hdigits : ∀ c ∈ digits, isDigitOf 10 c) :
    (Number.Decimal.readPower?.magnitude? digits).isSome := by
  have hall : digits.all (isDigitOf 10) := List.all_eq_true.2 hdigits
  simp [Number.Decimal.readPower?.magnitude?, hne, hall]

theorem readExponent?_isSome {exponent : List Char} (h : Exponent exponent) :
    (Number.Decimal.readExponent? exponent).isSome := by
  cases h with
  | absent => rfl
  | @power e sign digits he hsign hne hdigits =>
    have hmagnitude := magnitude?_isSome hne hdigits
    rw [Number.Decimal.readExponent?, if_pos he]
    rcases hsign with rfl | rfl | rfl
    · obtain ⟨d, digits, rfl⟩ := List.exists_cons_of_ne_nil hne
      have hd : isDigitOf 10 d := hdigits d List.mem_cons_self
      rw [List.nil_append, Number.Decimal.readPower?]
      · exact hmagnitude
      · rintro _ ⟨⟩
        exact absurd hd (by decide)
      · rintro _ ⟨⟩
        exact absurd hd (by decide)
    · exact hmagnitude
    · rw [List.singleton_append, Number.Decimal.readPower?, Option.isSome_map]
      exact hmagnitude

theorem splitFraction_append {fraction exponent : List Char} (h : Fraction fraction)
    (hexponent : Exponent exponent) :
    Number.Decimal.splitFraction (fraction ++ exponent) = (fraction.tail, exponent) := by
  cases h with
  | absent =>
    rw [List.nil_append, List.tail_nil, Number.Decimal.splitFraction]
    rintro rest rfl
    exact (hexponent.head?_not_digit rfl).2 rfl
  | point hdigits =>
    have hstop : ∀ c, exponent.head? = some c → isDigitOf 10 c = false :=
      fun c hc => (hexponent.head?_not_digit hc).1
    rw [List.cons_append, Number.Decimal.splitFraction, takeWhile_append_of_head? hdigits hstop,
      dropWhile_append_of_head? hdigits hstop, List.tail_cons]

/-- A decimal numeral denotes all of its digits, with as many of them behind the point as there
are, times its power of ten. -/
theorem ofNumeral?_append {whole fraction exponent : List Char}
    (hwhole : ∀ c ∈ whole, isDigitOf 10 c) (hfraction : Fraction fraction)
    (hexponent : Exponent exponent)
    (hne : whole ≠ [] ∨ ∃ d digits, fraction = '.' :: d :: digits) :
    Number.Decimal.ofNumeral? (whole ++ (fraction ++ exponent)) =
      (Number.Decimal.readExponent? exponent).map fun power =>
        ⟨ofDigits 10 (whole ++ fraction.tail), power - fraction.tail.length⟩ := by
  have hstop : ∀ c, (fraction ++ exponent).head? = some c → isDigitOf 10 c = false :=
    fun _ => hfraction.head?_append_not_digit hexponent
  have hdigits : (whole.isEmpty && fraction.tail.isEmpty) = false := by
    rcases hne with hne | ⟨d, digits, rfl⟩
    · rw [List.isEmpty_eq_false_iff.2 hne, Bool.false_and]
    · exact Bool.and_false _
  rw [Number.Decimal.ofNumeral?, takeWhile_append_of_head? hwhole hstop,
    dropWhile_append_of_head? hwhole hstop, splitFraction_append hfraction hexponent]
  simp only [hdigits, Bool.false_eq_true, if_false]

theorem Decimal.ofNumeral?_isSome {text : List Char} (h : Decimal text) :
    (Number.Decimal.ofNumeral? text).isSome := by
  obtain ⟨hwhole, hfraction, hexponent, hne⟩ := h
  rw [ofNumeral?_append hwhole hfraction hexponent hne, Option.isSome_map]
  exact readExponent?_isSome hexponent

/-- Every character of a decimal numeral is a digit or one of the signs in it. -/
theorem Decimal.isNumeralChar {text : List Char} (h : Decimal text) {c : Char} (hc : c ∈ text) :
    isNumeralChar c := by
  -- The character is in the digits in front, in the fraction, or in the exponent.
  obtain ⟨hwhole, hfraction, hexponent, -⟩ := h
  have hdigit : isDigitOf 10 c → Number.isNumeralChar c := by
    intro h
    simp [Number.isNumeralChar, h]
  rcases List.mem_append.1 hc with hc | hc
  · exact hdigit (hwhole c hc)
  rcases List.mem_append.1 hc with hc | hc
  · cases hfraction with
    | absent => cases hc
    | point hdigits =>
      rcases List.mem_cons.1 hc with rfl | hc
      · rfl
      · exact hdigit (hdigits c hc)
  · cases hexponent with
    | absent => cases hc
    | power he hsign _ hdigits =>
      rcases List.mem_cons.1 hc with rfl | hc
      · rcases he with rfl | rfl <;> rfl
      rcases List.mem_append.1 hc with hc | hc
      · rcases hsign with rfl | rfl | rfl
        · cases hc
        · obtain rfl := List.mem_singleton.1 hc
          rfl
        · obtain rfl := List.mem_singleton.1 hc
          rfl
      · exact hdigit (hdigits c hc)

/-- A decimal numeral does not begin with a sign. -/
theorem Decimal.head?_ne_sign {text : List Char} (h : Decimal text) :
    text.head? ≠ some '-' ∧ text.head? ≠ some '+' := by
  obtain @⟨whole, fraction, exponent, hwhole, hfraction, hexponent, hne⟩ := h
  cases whole with
  | cons d digits =>
    have hd : isDigitOf 10 d := hwhole d List.mem_cons_self
    constructor
    · rintro ⟨⟩
      exact absurd hd (by decide)
    · rintro ⟨⟩
      exact absurd hd (by decide)
  | nil =>
    rcases hne with hne | ⟨d, digits, rfl⟩
    · exact absurd rfl hne
    · constructor <;> rintro ⟨⟩

theorem Decimal.readNumeral?_eq {text : List Char} (h : Decimal text) :
    readNumeral? text = (Number.Decimal.ofNumeral? text).map Number.Decimal.toFloat := by
  have hsign := h.head?_ne_sign
  unfold readNumeral?
  split
  · exact absurd rfl hsign.1
  · exact absurd rfl hsign.2
  · rfl

/-- A decimal numeral has no letter in it but the one of its exponent. -/
theorem Decimal.radixOf?_eq_none {c x : Char} {digits : List Char}
    (h : Decimal (c :: x :: digits)) : radixOf? x = none := by
  have hx : Number.isNumeralChar x := h.isNumeralChar (List.mem_cons_of_mem c List.mem_cons_self)
  unfold radixOf?
  split
  case h_7 => rfl
  all_goals exact absurd hx (by decide)

theorem Decimal.not_radix {c x : Char} {digits : List Char} (h : Decimal (c :: x :: digits)) :
    ¬ (x = 'x' ∨ x = 'X') := by
  have hradix := h.radixOf?_eq_none
  rintro (rfl | rfl) <;> cases hradix

theorem Decimal.read?_eq {text : List Char} (h : Decimal text) :
    read? text = (Number.Decimal.ofNumeral? text).map Number.Decimal.toFloat := by
  rw [← h.readNumeral?_eq]
  unfold read?
  split
  next x digits =>
    split
    next hradix => exact absurd hradix h.not_radix
    · rfl
  · rfl

theorem Decimal.read?_isSome {text : List Char} (h : Decimal text) : (read? text).isSome := by
  rw [h.read?_eq, Option.isSome_map]
  exact h.ofNumeral?_isSome

/-! ## Reading the numeral that a text begins with -/

/-- A numeral may begin here: with a digit, or with a point and a digit. -/
def Begins : List Char → Prop
  | [] => False
  | c :: rest => isDigitOf 10 c ∨ c = '.' ∧ ∃ d digits, rest = d :: digits ∧ isDigitOf 10 d

/-- The form of the numerals in expressions: `0x` and digits of radix sixteen, or a decimal
numeral. -/
inductive Form : List Char → Prop where
  | radix {x : Char} {digits : List Char} (hx : x = 'x' ∨ x = 'X') (hne : digits ≠ [])
      (hdigits : ∀ c ∈ digits, isDigitOf 16 c) : Form ('0' :: x :: digits)
  | decimal {text : List Char} (h : Decimal text) : Form text

/-- The numeral that a text begins with has the form of one. -/
theorem form_take_length {text : List Char} (h : Begins text) :
    Form (text.take (length text)) := by
  unfold length
  split
  next x rest =>
    split
    next hradix =>
      rw [Nat.add_comm, List.take_succ_cons, List.take_succ_cons, take_digitCount]
      exact .radix hradix.1 (fun hnil => hradix.2 (congrArg List.length hnil))
        fun _ => List.mem_takeWhile_imp
    · exact .decimal (decimal_take_decimalLength h)
  · cases text with
    | nil => cases h
    | cons c rest => exact .decimal (decimal_take_decimalLength h)

theorem Form.read?_isSome {text : List Char} (h : Form text) : (read? text).isSome := by
  cases h with
  | @radix x digits hx hne hdigits =>
    rw [read?, if_pos hx, readHexadecimal?, List.foldlM_map]
    exact Option.isSome_of_eq_some (foldlM_digits hdigits _)
  | decimal h => exact h.read?_isSome

/-- A number is read from the numeral that a text begins with. -/
theorem read?_take_length {text : List Char} (h : Begins text) :
    (read? (text.take (length text))).isSome :=
  (form_take_length h).read?_isSome

/-! ## How far a decimal numeral reaches -/

theorem fractionLength_append {fraction exponent : List Char} (h : Fraction fraction)
    (hexponent : Exponent exponent) :
    fractionLength (fraction ++ exponent) = fraction.length := by
  cases h with
  | absent =>
    rw [List.nil_append, fractionLength]
    · rfl
    · rintro rest rfl
      exact (hexponent.head?_not_digit rfl).2 rfl
  | point hdigits =>
    rw [List.cons_append, fractionLength, digitCount,
      takeWhile_append_of_head? hdigits fun c hc => (hexponent.head?_not_digit hc).1, Nat.add_comm]
    rfl

theorem Exponent.exponentLength_eq {exponent : List Char} (h : Exponent exponent) :
    exponentLength exponent = exponent.length := by
  cases h with
  | absent => rfl
  | @power e sign digits he hsign hne hdigits =>
    have hcount : digitCount 10 digits = digits.length :=
      congrArg List.length (List.takeWhile_eq_self_iff.2 hdigits)
    have hlength : signLength (sign ++ digits) = sign.length := by
      rcases hsign with rfl | rfl | rfl
      · obtain ⟨d, digits, rfl⟩ := List.exists_cons_of_ne_nil hne
        have hd : isDigitOf 10 d := hdigits d List.mem_cons_self
        rw [List.nil_append, signLength]
        · rfl
        · rintro _ ⟨⟩
          exact absurd hd (by decide)
        · rintro _ ⟨⟩
          exact absurd hd (by decide)
      · rfl
      · rfl
    rw [exponentLength_cons, hlength, List.drop_left, hcount,
      if_pos ⟨he, mt List.eq_nil_of_length_eq_zero hne⟩, List.length_cons, List.length_append]
    omega

theorem Decimal.decimalLength_eq {text : List Char} (h : Decimal text) :
    decimalLength text = text.length := by
  obtain @⟨whole, fraction, exponent, hwhole, hfraction, hexponent, -⟩ := h
  have hcount : digitCount 10 (whole ++ (fraction ++ exponent)) = whole.length :=
    congrArg List.length (takeWhile_append_of_head? hwhole fun _ =>
      hfraction.head?_append_not_digit hexponent)
  have hdrop : (whole ++ (fraction ++ exponent)).drop (whole.length + fraction.length) =
      exponent := by
    rw [← List.append_assoc, ← List.length_append, List.drop_left]
  unfold decimalLength
  dsimp only
  rw [hcount, List.drop_left, fractionLength_append hfraction hexponent, hdrop,
    hexponent.exponentLength_eq, List.length_append, List.length_append, Nat.add_assoc]

/-- A decimal numeral is all of the numeral that it begins with. -/
theorem Decimal.length_eq {text : List Char} (h : Decimal text) : length text = text.length := by
  unfold length
  split
  next x rest =>
    split
    next hradix => exact absurd hradix.1 h.not_radix
    · exact h.decimalLength_eq
  · exact h.decimalLength_eq

theorem Decimal.begins {text : List Char} (h : Decimal text) : Begins text := by
  obtain @⟨whole, fraction, exponent, hwhole, hfraction, -, hne⟩ := h
  cases whole with
  | cons d digits => exact .inl (hwhole d List.mem_cons_self)
  | nil =>
    rcases hne with hne | ⟨d, digits, rfl⟩
    · exact absurd rfl hne
    · cases hfraction with
      | point hdigits => exact .inr ⟨rfl, d, digits ++ exponent, rfl, hdigits d List.mem_cons_self⟩

theorem Form.begins {text : List Char} (h : Form text) : Begins text := by
  cases h with
  | radix => exact .inl rfl
  | decimal h => exact h.begins

/-- A numeral is all of the numeral that it begins with. -/
theorem Form.length_eq {text : List Char} (h : Form text) : length text = text.length := by
  cases h with
  | @radix x digits hx hne hdigits =>
    have hcount : digitCount 16 digits = digits.length :=
      congrArg List.length (List.takeWhile_eq_self_iff.2 hdigits)
    rw [length, hcount, if_pos ⟨hx, mt List.eq_nil_of_length_eq_zero hne⟩, List.length_cons,
      List.length_cons]
    omega
  | decimal h => exact h.length_eq

/-! ## Where a numeral ends -/

/-- The character can stand in no numeral. -/
def Stops (c : Char) : Prop :=
  isDigitOf 10 c = false ∧ isDigitOf 16 c = false ∧ c ∉ ['.', 'x', 'X', 'e', 'E', '+', '-']

section Ends

variable {b : Char} {xs ys : List Char}

/-- Every character of a numeral can stand in one. -/
theorem Form.not_mem_of_stops (h : Form xs) (hb : Stops b) : b ∉ xs := by
  obtain ⟨hdecimal, hhexadecimal, hsign⟩ := hb
  intro hmem
  cases h with
  | radix hx _ hdigits =>
    rcases List.mem_cons.1 hmem with rfl | hmem
    · cases hdecimal
    rcases List.mem_cons.1 hmem with rfl | hmem
    · rcases hx with rfl | rfl <;> simp at hsign
    · rw [hdigits b hmem] at hhexadecimal
      cases hhexadecimal
  | decimal h =>
    have hchar := h.isNumeralChar hmem
    simp only [isNumeralChar, hdecimal, Bool.false_or, Bool.or_eq_true, decide_eq_true_eq] at hchar
    rcases hchar with (((rfl | rfl) | rfl) | rfl) | rfl <;> simp at hsign

theorem digitCount_le (radix : Nat) (text : List Char) : digitCount radix text ≤ text.length :=
  (List.takeWhile_prefix _).length_le

theorem digitCount_append_of_not_digit {radix : Nat} (hb : isDigitOf radix b = false) :
    digitCount radix (xs ++ b :: ys) = digitCount radix xs :=
  congrArg List.length (takeWhile_append_cons_of_neg hb)

theorem fractionLength_le (text : List Char) : fractionLength text ≤ text.length := by
  unfold fractionLength
  split
  next rest =>
    have := digitCount_le 10 rest
    rw [List.length_cons]
    omega
  · exact Nat.zero_le _

theorem fractionLength_append_of_stops (hb : Stops b) :
    fractionLength (xs ++ b :: ys) = fractionLength xs := by
  cases xs with
  | nil =>
    rw [List.nil_append, fractionLength]
    · rfl
    · rintro rest ⟨⟩
      exact hb.2.2 (by simp)
  | cons x xs =>
    by_cases hx : x = '.'
    · subst hx
      simp only [List.cons_append, fractionLength, digitCount_append_of_not_digit hb.1]
    · simp [fractionLength, hx]

theorem signLength_le (text : List Char) : signLength text ≤ text.length := by
  unfold signLength
  split <;> simp

theorem signLength_append_of_stops (hb : Stops b) : signLength (xs ++ b :: ys) = signLength xs := by
  cases xs with
  | nil =>
    rw [List.nil_append, signLength]
    · rfl
    · rintro rest ⟨⟩
      exact hb.2.2 (by simp)
    · rintro rest ⟨⟩
      exact hb.2.2 (by simp)
  | cons x xs =>
    by_cases hplus : x = '+'
    · subst hplus
      rfl
    by_cases hminus : x = '-'
    · subst hminus
      rfl
    simp [signLength, hplus, hminus]

theorem exponentLength_le (text : List Char) : exponentLength text ≤ text.length := by
  cases text with
  | nil => exact Nat.le_refl _
  | cons e rest =>
    have hsign := signLength_le rest
    have hdigits := digitCount_le 10 (rest.drop (signLength rest))
    rw [List.length_drop] at hdigits
    rw [exponentLength_cons, List.length_cons]
    split <;> omega

theorem exponentLength_append_of_stops (hb : Stops b) :
    exponentLength (xs ++ b :: ys) = exponentLength xs := by
  cases xs with
  | nil =>
    have hpower : ¬ (b = 'e' ∨ b = 'E') := by
      rintro (rfl | rfl) <;> exact hb.2.2 (by simp)
    rw [List.nil_append, exponentLength_cons, if_neg fun h => hpower h.1]
    rfl
  | cons x xs =>
    rw [List.cons_append, exponentLength_cons, exponentLength_cons, signLength_append_of_stops hb,
      List.drop_append_of_le_length (signLength_le xs), digitCount_append_of_not_digit hb.1]

theorem decimalLength_le (text : List Char) : decimalLength text ≤ text.length := by
  have hwhole := digitCount_le 10 text
  have hfraction := fractionLength_le (text.drop (digitCount 10 text))
  have hexponent := exponentLength_le
    (text.drop (digitCount 10 text + fractionLength (text.drop (digitCount 10 text))))
  rw [List.length_drop] at hfraction hexponent
  unfold decimalLength
  dsimp only
  omega

theorem decimalLength_append_of_stops (hb : Stops b) :
    decimalLength (xs ++ b :: ys) = decimalLength xs := by
  have hwhole := digitCount_le 10 xs
  have hfraction := fractionLength_le (xs.drop (digitCount 10 xs))
  rw [List.length_drop] at hfraction
  unfold decimalLength
  dsimp only
  rw [digitCount_append_of_not_digit hb.1, List.drop_append_of_le_length hwhole,
    fractionLength_append_of_stops hb, List.drop_append_of_le_length (by omega),
    exponentLength_append_of_stops hb]

theorem length_le (text : List Char) : length text ≤ text.length := by
  unfold length
  split
  next x rest =>
    have := digitCount_le 16 rest
    split
    · rw [List.length_cons, List.length_cons]
      omega
    · exact decimalLength_le _
  · exact decimalLength_le _

theorem length_of_not_radix {text : List Char} (h : ∀ x rest, text ≠ '0' :: x :: rest) :
    length text = decimalLength text := by
  unfold length
  split
  next x rest => exact absurd rfl (h x rest)
  · rfl

/-- What stands after the end of a numeral does not count for its length. -/
theorem length_append_of_stops (hb : Stops b) : length (xs ++ b :: ys) = length xs := by
  have hdecimal : decimalLength (xs ++ b :: ys) = decimalLength xs :=
    decimalLength_append_of_stops hb
  -- A numeral may have a radix only if it begins with zero, and then the next character decides.
  by_cases hzero : xs.head? = some '0'
  · obtain ⟨xs, rfl⟩ := List.head?_eq_some_iff.1 hzero
    cases xs with
    | nil =>
      have hx : ¬ ((b = 'x' ∨ b = 'X') ∧ digitCount 16 ys ≠ 0) := by
        rintro ⟨rfl | rfl, -⟩ <;> exact hb.2.2 (by simp)
      have hdigit : length ['0'] = decimalLength ['0'] := length_of_not_radix (by rintro x rest ⟨⟩)
      rw [hdigit, ← hdecimal]
      exact if_neg hx
    | cons x xs =>
      simp only [List.cons_append] at hdecimal ⊢
      simp only [length, digitCount_append_of_not_digit hb.2.1, hdecimal]
  · rw [length_of_not_radix, length_of_not_radix, hdecimal]
    · rintro x rest rfl
      exact hzero rfl
    · rintro x rest h
      cases xs with
      | nil =>
        obtain ⟨rfl, -⟩ := List.cons.inj h
        exact absurd hb.1 (by decide)
      | cons y xs =>
        obtain ⟨rfl, -⟩ := List.cons.inj h
        exact hzero rfl

end Ends

end TemplateLiteral.Number.Numeral
