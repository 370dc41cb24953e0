import TemplateLiteral.Proofs.Token.Lexeme

/-!
# The first token of the beginning of a text

A text that is cut behind its first token keeps this token, wherever the cut is. A token is the
longest of its kind, and cutting the text makes nothing longer. The one exception is a question mark
that is one only because a digit stands behind the point after it: cut between the point and the
digit, the two signs are an optional link.

## Main results

* `Number.Numeral.length_of_length_append_le`: a numeral that lies before a cut
* `Lexeme.first_of_first_append`: a token that lies before a cut
-/

namespace TemplateLiteral

/-! ## Numerals before a cut -/

section Runs

variable {α : Type} {p : α → Bool} {xs ys : List α}

theorem length_takeWhile_le_append : (xs.takeWhile p).length ≤ ((xs ++ ys).takeWhile p).length := by
  rw [List.takeWhile_append]
  split
  · rw [List.length_append]
    exact Nat.le_trans (List.takeWhile_prefix p).length_le (Nat.le_add_right _ _)
  · exact Nat.le_refl _

/-- A run that lies before a cut is the run of what stands before the cut. -/
theorem takeWhile_of_length_takeWhile_append_le
    (h : ((xs ++ ys).takeWhile p).length ≤ xs.length) :
    xs.takeWhile p = (xs ++ ys).takeWhile p := by
  rw [List.takeWhile_append] at h ⊢
  split at h
  next hall =>
    rw [if_pos hall, List.eq_nil_of_length_eq_zero (l := ys.takeWhile p)]
    · rw [List.append_nil]
      exact List.Sublist.eq_of_length (List.takeWhile_sublist p) hall
    · rw [List.length_append] at h
      omega
  next hsome => rw [if_neg hsome]

end Runs

namespace Number.Numeral

variable {xs ys : List Char}

theorem digitCount_le_append (radix : Nat) : digitCount radix xs ≤ digitCount radix (xs ++ ys) :=
  length_takeWhile_le_append

theorem digitCount_of_append_le {radix : Nat} (h : digitCount radix (xs ++ ys) ≤ xs.length) :
    digitCount radix xs = digitCount radix (xs ++ ys) :=
  congrArg List.length (takeWhile_of_length_takeWhile_append_le h)

theorem fractionLength_of_append_le (h : fractionLength (xs ++ ys) ≤ xs.length) :
    fractionLength xs = fractionLength (xs ++ ys) := by
  cases xs with
  | nil => exact (Nat.le_zero.1 h).symm
  | cons x xs =>
    by_cases hx : x = '.'
    · subst hx
      simp only [List.cons_append, fractionLength, List.length_cons] at h ⊢
      have hdigits : digitCount 10 (xs ++ ys) ≤ xs.length := by omega
      rw [digitCount_of_append_le hdigits]
    · simp [fractionLength, hx]

theorem signLength_append (hxs : xs ≠ []) : signLength (xs ++ ys) = signLength xs := by
  obtain ⟨x, xs, rfl⟩ := List.exists_cons_of_ne_nil hxs
  by_cases hplus : x = '+'
  · subst hplus
    rfl
  by_cases hminus : x = '-'
  · subst hminus
    rfl
  simp [signLength, hplus, hminus]

theorem exponentLength_of_append_le (h : exponentLength (xs ++ ys) ≤ xs.length) :
    exponentLength xs = exponentLength (xs ++ ys) := by
  match xs with
  | [] => exact (Nat.le_zero.1 h).symm
  | [e] =>
    -- A power has two characters at least, so that none begins with the last before the cut.
    rw [List.singleton_append, exponentLength_cons e ys] at h ⊢
    split at h
    · rw [List.length_singleton] at h
      omega
    next hnone => rw [if_neg hnone, exponentLength_cons, if_neg (fun hsome => hsome.2 rfl)]
  | e :: x :: rest =>
    have hsign : signLength (x :: rest ++ ys) = signLength (x :: rest) :=
      signLength_append (List.cons_ne_nil x rest)
    have hdrop : (x :: rest ++ ys).drop (signLength (x :: rest)) =
        (x :: rest).drop (signLength (x :: rest)) ++ ys :=
      List.drop_append_of_le_length (signLength_le _)
    rw [List.cons_append, exponentLength_cons e (x :: rest ++ ys), hsign, hdrop] at h ⊢
    rw [exponentLength_cons]
    split at h
    next hpower =>
      rw [digitCount_of_append_le, if_pos hpower]
      rw [List.length_drop]
      rw [List.length_cons] at h
      omega
    next hnone =>
      have hle := @digitCount_le_append ((x :: rest).drop (signLength (x :: rest))) ys 10
      rw [if_neg hnone, if_neg]
      rintro ⟨he, hdigits⟩
      exact hnone ⟨he, by omega⟩

theorem decimalLength_of_append_le (h : decimalLength (xs ++ ys) ≤ xs.length) :
    decimalLength xs = decimalLength (xs ++ ys) := by
  unfold decimalLength at h ⊢
  dsimp only at h ⊢
  -- The digits before the point lie before the cut, then the fraction does, and the exponent.
  have hwhole : digitCount 10 xs = digitCount 10 (xs ++ ys) := digitCount_of_append_le (by omega)
  rw [← hwhole] at h ⊢
  rw [List.drop_append_of_le_length (digitCount_le 10 xs)] at h ⊢
  have hfraction : fractionLength (xs.drop (digitCount 10 xs)) =
      fractionLength (xs.drop (digitCount 10 xs) ++ ys) := by
    apply fractionLength_of_append_le
    rw [List.length_drop]
    omega
  rw [← hfraction] at h ⊢
  rw [List.drop_append_of_le_length (by omega)] at h ⊢
  rw [exponentLength_of_append_le]
  rw [List.length_drop]
  omega

/-- A numeral that lies before a cut is the numeral of what stands before the cut. -/
theorem length_of_length_append_le (h : length (xs ++ ys) ≤ xs.length) :
    length xs = length (xs ++ ys) := by
  have hdecimal : decimalLength (xs ++ ys) ≤ xs.length →
      decimalLength xs = decimalLength (xs ++ ys) := decimalLength_of_append_le
  match xs with
  | [] => exact (Nat.le_zero.1 h).symm
  | [x] =>
    rw [length_of_not_radix (by rintro _ _ ⟨⟩)]
    by_cases hradix : ∃ y rest, x = '0' ∧ ys = y :: rest
    · obtain ⟨y, rest, rfl, rfl⟩ := hradix
      simp only [List.singleton_append, length, List.length_singleton] at h hdecimal ⊢
      -- A numeral with a radix has three characters at least.
      split at h
      · omega
      next hnone =>
        rw [if_neg hnone]
        exact hdecimal h
    · rw [length_of_not_radix] at h ⊢
      · exact hdecimal h
      · rintro y rest heq
        obtain ⟨rfl, rfl⟩ := List.cons.inj heq
        exact hradix ⟨y, rest, rfl, rfl⟩
      · rintro y rest heq
        obtain ⟨rfl, rfl⟩ := List.cons.inj heq
        exact hradix ⟨y, rest, rfl, rfl⟩
  | x :: y :: rest =>
    by_cases hzero : x = '0'
    · subst hzero
      simp only [List.cons_append, length, List.length_cons] at h hdecimal ⊢
      split at h
      next hradix =>
        have hdigits : digitCount 16 rest = digitCount 16 (rest ++ ys) :=
          digitCount_of_append_le (by omega)
        rw [hdigits, if_pos hradix, if_pos hradix]
      next hnone =>
        have hle := @digitCount_le_append rest ys 16
        rw [if_neg hnone, if_neg]
        · exact hdecimal h
        · rintro ⟨hx, hdigits⟩
          exact hnone ⟨hx, by omega⟩
    · rw [length_of_not_radix] at h ⊢
      · rw [length_of_not_radix]
        · exact hdecimal h
        · rintro _ _ heq
          exact hzero (List.cons.inj heq).1
      · rintro _ _ heq
        exact hzero (List.cons.inj heq).1
      · rintro _ _ heq
        exact hzero (List.cons.inj heq).1

end Number.Numeral

/-! ## Tokens before a cut -/

namespace Lexeme

variable {c : Char} {xs ys : List Char} {kind : TokenKind} {more : Nat}

/-- The cut lies between the point of an optional link and a digit, where there is no such link. -/
def SplitsLink (c : Char) (xs ys : List Char) : Prop :=
  c = '?' ∧ xs = ['.'] ∧ startsWithDigit ys = true

/-- A sign that begins in front of a cut also begins there without the cut. -/
theorem begins_append_of_begins {sign : List Char × TokenKind} (hsign : sign ∈ signs)
    (hcut : ¬ SplitsLink c xs ys) (h : begins (c :: xs) sign) : begins (c :: (xs ++ ys)) sign := by
  obtain ⟨hbegin, hdigit⟩ := Bool.and_eq_true_iff.1 h
  have hwhole : sign.1 <+: c :: (xs ++ ys) :=
    (List.isPrefixOf_iff_prefix.1 hbegin).trans (List.prefix_append (c :: xs) ys)
  refine Bool.and_eq_true_iff.2 ⟨List.isPrefixOf_iff_prefix.2 hwhole, ?_⟩
  -- Only for the optional link it matters what comes behind the sign.
  by_cases hlink : sign.2 = .optionalPeriod
  · have hletters : ∀ sign ∈ signs, sign.2 = .optionalPeriod → sign.1 = ['?', '.'] := by decide
    have hle := (List.isPrefixOf_iff_prefix.1 hbegin)
    rw [hletters sign hsign hlink] at hle hdigit ⊢
    obtain ⟨tail, htail⟩ := hle
    obtain ⟨rfl, rfl⟩ := List.cons.inj htail
    cases tail with
    | nil =>
      have hys : startsWithDigit ys = false :=
        Bool.eq_false_iff.2 fun hdigits => hcut ⟨rfl, rfl, hdigits⟩
      simp [hys]
    | cons d tail => exact hdigit
  · simp [hlink]

/-- A sign that lies before a cut begins in front of the cut. -/
theorem begins_of_begins_append {sign : List Char × TokenKind} (h : begins (c :: (xs ++ ys)) sign)
    (hlength : sign.1.length ≤ xs.length + 1) : begins (c :: xs) sign := by
  obtain ⟨hbegin, hdigit⟩ := Bool.and_eq_true_iff.1 h
  have hcut : sign.1 <+: c :: xs :=
    List.prefix_of_prefix_length_le (List.isPrefixOf_iff_prefix.1 hbegin)
      (List.prefix_append (c :: xs) ys) hlength
  refine Bool.and_eq_true_iff.2 ⟨List.isPrefixOf_iff_prefix.2 hcut, ?_⟩
  rw [← List.cons_append, List.drop_append_of_le_length hcut.length_le] at hdigit
  cases hdrop : (c :: xs).drop sign.1.length with
  | nil => simp [startsWithDigit]
  | cons d rest =>
    rw [hdrop] at hdigit
    exact hdigit

theorem operator?_of_append (h : operator? c (xs ++ ys) = some (kind, more))
    (hmore : more ≤ xs.length) (hcut : ¬ SplitsLink c xs ys) :
    operator? c xs = some (kind, more) := by
  obtain ⟨sign, hsign, heq⟩ := Option.map_eq_some_iff.1 h
  obtain ⟨rfl, rfl⟩ := Prod.mk.inj heq
  obtain ⟨hbegins, before, after, hsigns, hbefore⟩ := List.find?_eq_some_iff_append.1 hsign
  refine Option.map_eq_some_iff.2 ⟨sign, List.find?_eq_some_iff_append.2
    ⟨begins_of_begins_append hbegins (Nat.le_add_of_sub_le hmore), before, after, hsigns, ?_⟩, rfl⟩
  -- No sign that is tried before begins in front of the cut, since it does not begin without it.
  intro other hother
  have hmem : other ∈ signs := hsigns ▸ List.mem_append_left _ hother
  have hnot := hbefore other hother
  rw [Bool.not_eq_true'] at hnot ⊢
  exact Bool.eq_false_iff.2 fun hyes =>
    Bool.eq_false_iff.1 hnot (begins_append_of_begins hmem hcut hyes)

theorem operator?_eq_none_of_append (h : operator? c (xs ++ ys) = none)
    (hcut : ¬ SplitsLink c xs ys) : operator? c xs = none := by
  rw [operator?, Option.map_eq_none_iff, List.find?_eq_none] at h ⊢
  exact fun sign hsign hbegins => h sign hsign (begins_append_of_begins hsign hcut hbegins)

/-- A point and a digit are in the numeral that begins with them. -/
theorem two_le_length_of_point {digits : List Char} (h : startsWithDigit digits) :
    2 ≤ Number.Numeral.length ('.' :: digits) := by
  cases digits with
  | nil => cases h
  | cons d digits =>
    have hpoint : Number.isDigitOf 10 '.' = false := by decide
    have hdigit : Number.isDigitOf 10 d = true := h
    rw [Number.Numeral.length_of_not_radix (by rintro _ _ ⟨⟩)]
    unfold Number.Numeral.decimalLength
    simp only [Number.Numeral.digitCount, List.takeWhile_cons, hpoint, Bool.false_eq_true, if_false,
      List.length_nil, List.drop_zero, Number.Numeral.fractionLength, hdigit, if_true,
      List.length_cons]
    omega

/-- A number that lies before a cut begins in front of the cut. -/
theorem beginsNumber_of_append
    (h : (Number.isDigitOf 10 c || (c = '.' && startsWithDigit (xs ++ ys))) = true)
    (hlength : Number.Numeral.length (c :: (xs ++ ys)) - 1 ≤ xs.length) :
    (Number.isDigitOf 10 c || (c = '.' && startsWithDigit xs)) = true := by
  rcases Bool.or_eq_true_iff.1 h with hdigit | hpoint
  · rw [hdigit, Bool.true_or]
  · obtain ⟨hc, hstarts⟩ := Bool.and_eq_true_iff.1 hpoint
    obtain rfl := of_decide_eq_true hc
    cases xs with
    | nil =>
      have htwo := two_le_length_of_point hstarts
      rw [List.length_nil, List.nil_append] at *
      omega
    | cons x xs => exact h

/-- A token that lies before a cut is the first token of what stands before the cut. -/
theorem first_of_first_append [Text.Alphabet] (h : first c (xs ++ ys) = .ok (kind, more))
    (hmore : more ≤ xs.length) (hcut : ¬ SplitsLink c xs ys) : first c xs = .ok (kind, more) := by
  by_cases hquote : c = '\'' ∨ c = '"'
  · obtain ⟨rfl, hclosed⟩ := (first_quote hquote).1 h
    have hescape : c ≠ '\\' := by rcases hquote with rfl | rfl <;> decide
    exact (first_quote hquote).2 ⟨rfl, (Quoted.length?_append_iff hescape hmore).1 hclosed⟩
  unfold first at h ⊢
  rw [if_neg hquote] at h ⊢
  split at h
  next hnumber =>
    obtain ⟨rfl, rfl⟩ := Prod.mk.inj (Except.ok.inj h)
    have hle : Number.Numeral.length (c :: xs ++ ys) ≤ (c :: xs).length :=
      Nat.le_add_of_sub_le hmore
    have hlength := Number.Numeral.length_of_length_append_le hle
    rw [if_pos (beginsNumber_of_append hnumber hmore), hlength, List.cons_append]
  next hnumber =>
    -- A number that begins in front of the cut also begins there without the cut.
    have hcutNumber : ¬ (Number.isDigitOf 10 c || (c = '.' && startsWithDigit xs)) = true := by
      cases xs with
      | nil =>
        intro hdigit
        apply hnumber
        rw [startsWithDigit, Bool.and_false, Bool.or_false] at hdigit
        rw [hdigit, Bool.true_or]
      | cons x xs => exact hnumber
    rw [if_neg hcutNumber]
    cases hoperator : operator? c (xs ++ ys) with
    | some found =>
      obtain ⟨kind', more'⟩ := found
      rw [hoperator] at h
      obtain ⟨rfl, rfl⟩ := Prod.mk.inj (Except.ok.inj h)
      rw [operator?_of_append hoperator hmore hcut]
    | none =>
      rw [operator?_eq_none_of_append hoperator hcut]
      rw [hoperator] at h
      dsimp only at h ⊢
      split_ifs at h ⊢
      obtain ⟨rfl, rfl⟩ := Prod.mk.inj (Except.ok.inj h)
      rw [takeWhile_of_length_takeWhile_append_le hmore]

end Lexeme

end TemplateLiteral
