import TemplateLiteral.Proofs.Token.Prefix

/-!
# Texts that go on differently

A token is found by looking at what follows it. Where a name stands behind the token, it does not
matter which, and where a closing brace does, it does not matter what comes after. The exception is
a number, which may take up the letters of a name right behind it. But a sign or a blank character
behind a number ends it, whatever follows.

## Main definitions

* `Forks`: two texts that are the same up to names or closing braces
* `Number.Numeral.Ends`: a numeral ends in front of the character

## Main results

* `Number.Numeral.length_congr`: a numeral in front of a character that ends it
* `Lexeme.first_of_isNameStart`: a word
* `Lexeme.first_congr`: a token in front of two texts that fork
-/

namespace TemplateLiteral

/-! ## Numerals -/

namespace Number.Numeral

/-- No numeral goes on with the character, which may be a point or a sign of a power. -/
structure Ends (s : Char) : Prop where
  decimal : isDigitOf 10 s = false
  hexadecimal : isDigitOf 16 s = false
  letter : s ∉ ['x', 'X', 'e', 'E']

section Congr

variable {s : Char} {xs ys zs : List Char}

theorem fractionLength_congr (hs : Ends s) (h : fractionLength (xs ++ s :: ys) ≤ xs.length) :
    fractionLength (xs ++ s :: zs) = fractionLength (xs ++ s :: ys) := by
  cases xs with
  | nil =>
    by_cases hpoint : s = '.'
    · subst hpoint
      simp only [List.nil_append, fractionLength, List.length_nil] at h
      omega
    · simp [fractionLength, hpoint]
  | cons x xs =>
    by_cases hpoint : x = '.'
    · subst hpoint
      simp only [List.cons_append, fractionLength, digitCount_append_of_not_digit hs.decimal]
    · simp [fractionLength, hpoint]

theorem exponentLength_congr (hs : Ends s) (h : exponentLength (xs ++ s :: ys) = xs.length) :
    exponentLength (xs ++ s :: zs) = xs.length := by
  have hletter := hs.letter
  simp only [List.mem_cons, List.not_mem_nil, or_false, not_or] at hletter
  match xs with
  | [] =>
    rw [List.nil_append, exponentLength_cons, if_neg]
    · rfl
    · rintro ⟨rfl | rfl, -⟩
      · exact hletter.2.2.1 rfl
      · exact hletter.2.2.2 rfl
  | [e] =>
    -- A power has two characters at least, or none.
    rw [List.singleton_append, exponentLength_cons, List.length_singleton] at h
    split at h <;> omega
  | e :: x :: rest =>
    have hsame : ∀ tail, exponentLength (e :: x :: rest ++ s :: tail) =
        exponentLength (e :: x :: rest) := by
      intro tail
      have hsign : signLength (x :: rest ++ s :: tail) = signLength (x :: rest) :=
        signLength_append (List.cons_ne_nil x rest)
      rw [List.cons_append, exponentLength_cons, exponentLength_cons, hsign,
        List.drop_append_of_le_length (signLength_le _), digitCount_append_of_not_digit hs.decimal]
    rw [hsame] at h ⊢
    exact h

theorem decimalLength_congr (hs : Ends s) (h : decimalLength (xs ++ s :: ys) = xs.length) :
    decimalLength (xs ++ s :: zs) = xs.length := by
  unfold decimalLength at h ⊢
  dsimp only at h ⊢
  rw [digitCount_append_of_not_digit hs.decimal] at h ⊢
  have hwhole := digitCount_le 10 xs
  rw [List.drop_append_of_le_length hwhole] at h ⊢
  -- The fraction ends in front of the character too, and then so does the power.
  have hfraction : fractionLength (xs.drop (digitCount 10 xs) ++ s :: zs) =
      fractionLength (xs.drop (digitCount 10 xs) ++ s :: ys) := by
    apply fractionLength_congr hs
    rw [List.length_drop]
    omega
  rw [hfraction]
  generalize fractionLength (xs.drop (digitCount 10 xs) ++ s :: ys) = fraction at h ⊢
  have hle : digitCount 10 xs + fraction ≤ xs.length := by omega
  rw [List.drop_append_of_le_length hle] at h ⊢
  have hexponent : exponentLength (xs.drop (digitCount 10 xs + fraction) ++ s :: ys) =
      (xs.drop (digitCount 10 xs + fraction)).length := by
    rw [List.length_drop]
    omega
  rw [exponentLength_congr hs hexponent, List.length_drop]
  omega

/-- A numeral in front of a character that ends it does not depend on what stands behind. -/
theorem length_congr (hs : Ends s) (h : length (xs ++ s :: ys) = xs.length) :
    length (xs ++ s :: zs) = xs.length := by
  have hletter := hs.letter
  simp only [List.mem_cons, List.not_mem_nil, or_false, not_or] at hletter
  -- The sign of a radix has two characters, so that one or none may stand before the end.
  match xs with
  | [] =>
    have hdecimal : ∀ tail, length (s :: tail) = decimalLength (s :: tail) := by
      intro tail
      apply length_of_not_radix
      rintro _ _ ⟨rfl, -⟩
      exact absurd hs.decimal (by decide)
    rw [List.nil_append, hdecimal] at h ⊢
    exact @decimalLength_congr s [] ys zs hs h
  | [x] =>
    have hdecimal : ∀ tail, length ([x] ++ s :: tail) = decimalLength ([x] ++ s :: tail) := by
      intro tail
      by_cases hzero : x = '0'
      · subst hzero
        simp [length, hletter]
      · exact length_of_not_radix fun _ _ heq => hzero (List.cons.inj heq).1
    rw [hdecimal] at h ⊢
    exact decimalLength_congr hs h
  | x :: y :: rest =>
    by_cases hradix : x = '0' ∧ (y = 'x' ∨ y = 'X') ∧ digitCount 16 rest ≠ 0
    · obtain ⟨rfl, hradix⟩ := hradix
      have hlength : ∀ tail, length ('0' :: y :: rest ++ s :: tail) = 2 + digitCount 16 rest := by
        intro tail
        rw [List.cons_append, List.cons_append, length,
          digitCount_append_of_not_digit hs.hexadecimal, if_pos hradix]
      rw [hlength] at h ⊢
      exact h
    · have hdecimal : ∀ tail, length (x :: y :: rest ++ s :: tail) =
          decimalLength (x :: y :: rest ++ s :: tail) := by
        intro tail
        by_cases hzero : x = '0'
        · subst hzero
          rw [List.cons_append, List.cons_append, length,
            digitCount_append_of_not_digit hs.hexadecimal, if_neg fun h => hradix ⟨rfl, h⟩]
        · exact length_of_not_radix fun _ _ heq => hzero (List.cons.inj heq).1
      rw [hdecimal] at h ⊢
      exact decimalLength_congr hs h

end Congr

end Number.Numeral

/-! ## Characters -/

/-- A digit of any radix is an ASCII digit or letter, and of radix ten it is a digit. -/
theorem Number.isAscii_of_isDigitOf {radix : Nat} {c : Char} (h : isDigitOf radix c) :
    48 ≤ c.toNat ∧ c.toNat ≤ 122 ∧ (radix = 10 → c.toNat ≤ 57) := by
  have hbound : ∀ {low high : Char}, low ≤ c ∧ c ≤ high →
      low.toNat ≤ c.toNat ∧ c.toNat ≤ high.toNat :=
    fun hc => hc
  unfold isDigitOf digitValue? at h
  dsimp only at h
  split_ifs at h with hdigit hlower hupper
  · have := hbound hdigit
    simp at this
    omega
  -- A letter counts for ten at least.
  · have := hbound hlower
    simp [Option.filter] at this h
    omega
  · have := hbound hupper
    simp [Option.filter] at this h
    omega
  · cases h

/-- A blank character ends a numeral. -/
theorem Number.Numeral.ends_of_isBlank {s : Char} (h : Text.isBlank s) : Ends s := by
  have hplace : s.toNat ≤ 0x20 ∨ 0x85 ≤ s.toNat := by
    simp only [Text.isBlank, Bool.or_eq_true, Bool.and_eq_true, decide_eq_true_eq] at h
    omega
  have hdigit : ∀ radix, isDigitOf radix s = false := by
    intro radix
    by_contra hdigit
    have := Number.isAscii_of_isDigitOf (Bool.eq_true_of_not_eq_false hdigit)
    omega
  refine ⟨hdigit 10, hdigit 16, fun hletter => ?_⟩
  simp only [List.mem_cons, List.not_mem_nil, or_false] at hletter
  rcases hletter with rfl | rfl | rfl | rfl <;> revert hplace <;> decide

/-- A character that a sign begins with ends a numeral. -/
theorem Number.Numeral.ends_of_mem_signs {s : Char} {sign : List Char × TokenKind}
    (hsign : sign ∈ Lexeme.signs) (hs : sign.1.head? = some s) : Ends s := by
  have hsigns : ∀ sign ∈ Lexeme.signs, sign.1.head?.all fun s =>
      isDigitOf 10 s = false ∧ isDigitOf 16 s = false ∧ s ∉ ['x', 'X', 'e', 'E'] := by decide
  have hends := hsigns sign hsign
  rw [hs] at hends
  obtain ⟨hdecimal, hhexadecimal, hletter⟩ := of_decide_eq_true hends
  exact ⟨hdecimal, hhexadecimal, hletter⟩

theorem Number.Numeral.ends_closingBrace : Ends '}' :=
  ⟨by decide, by decide, by decide⟩

/-! ## Words -/

namespace Lexeme

/-- A character that may begin a name is in no sign and is no digit. -/
theorem endsSign_of_isNameStart [Text.Alphabet] {c : Char} (h : Text.isNameStart c) :
    EndsSign c where
  digit := by
    by_contra hdigit
    have hplace := Number.isAscii_of_isDigitOf (Bool.eq_true_of_not_eq_false hdigit)
    have hascii : c.toNat < 128 := by omega
    have hletters : ∀ n < 128, ((Char.ofNat n).isAlpha || Char.ofNat n = '$' ||
        Char.ofNat n = '_') → Number.isDigitOf 10 (Char.ofNat n) = false := by decide
    rw [Text.isNameStart_of_ascii hascii, ← Char.ofNat_toNat c] at h
    have hnone := hletters _ hascii h
    rw [Char.ofNat_toNat] at hnone
    exact hdigit hnone
  sign sign hsign hmem := by
    have hsigns : ∀ sign ∈ signs, sign.1.all Text.isPunctuation := by decide
    have hnone := List.all_eq_true.1 (hsigns sign hsign) c hmem
    rw [Text.isNameStart_eq_false_of_isPunctuation hnone] at h
    cases h

variable {c : Char} {rest : List Char} {kind : TokenKind} {more : Nat}

/-- A sign begins only with a character that is in one. -/
theorem operator?_eq_none (h : ∀ sign ∈ signs, c ∉ sign.1) : operator? c rest = none := by
  rw [operator?, Option.map_eq_none_iff, List.find?_eq_none]
  intro sign hsign hbegins
  obtain ⟨d, letters, hletters⟩ := exists_cons_of_mem_signs hsign
  have hletter := (Bool.and_eq_true_iff.1 hbegins).1
  rw [hletters, List.isPrefixOf_iff_prefix, List.cons_prefix_cons] at hletter
  exact h sign hsign (by rw [hletters, hletter.1]; simp)

theorem operator?_eq_none_of_isNameStart [Text.Alphabet] (h : Text.isNameStart c) :
    operator? c rest = none :=
  operator?_eq_none (endsSign_of_isNameStart h).sign

/-- A word goes as far as there are characters of a name. -/
theorem first_of_isNameStart [Text.Alphabet] (h : Text.isNameStart c) : first c rest =
    .ok (.ofWord (String.ofList (c :: rest.takeWhile Text.isNamePart)),
      (rest.takeWhile Text.isNamePart).length) := by
  have hother : ∀ d ∈ ['.', '\'', '"', '&', '|', '`'], c ≠ d := by
    rintro d hd rfl
    have hno : ['.', '\'', '"', '&', '|', '`'].all Text.isPunctuation := by decide
    rw [Text.isNameStart_eq_false_of_isPunctuation (List.all_eq_true.1 hno c hd)] at h
    cases h
  simp only [List.mem_cons, List.not_mem_nil, or_false, forall_eq_or_imp, forall_eq] at hother
  unfold first
  rw [operator?_eq_none_of_isNameStart h, (endsSign_of_isNameStart h).digit]
  simp [hother, h]

/-- A word of letters ends with the text. -/
theorem first_of_isAlpha [Text.Alphabet] (hc : c.isAlpha) (hrest : rest.all Char.isAlpha) :
    first c rest = .ok (.ofWord (String.ofList (c :: rest)), rest.length) := by
  have hword : rest.takeWhile Text.isNamePart = rest := List.takeWhile_eq_self_iff.2 fun d hd =>
    Text.isNamePart_of_isNameStart (Text.isNameStart_of_isAlpha (List.all_eq_true.1 hrest d hd))
  rw [first_of_isNameStart (Text.isNameStart_of_isAlpha hc), hword]

theorem kind_ne_name_of_operator? (h : operator? c rest = some (kind, more)) : kind ≠ .name := by
  obtain ⟨sign, hsign, heq⟩ := Option.map_eq_some_iff.1 h
  obtain ⟨rfl, -⟩ := Prod.mk.inj heq
  have hno : ∀ sign ∈ signs, sign.2 ≠ .name := by decide
  exact hno sign (List.mem_of_find?_eq_some hsign)

theorem isNameStart_of_first_name [Text.Alphabet] (h : first c rest = .ok (.name, more)) :
    Text.isNameStart c := by
  unfold first at h
  split at h
  · cases h
  split at h
  next hoperator =>
    obtain ⟨rfl, rfl⟩ := Prod.mk.inj (Except.ok.inj h)
    exact absurd rfl (kind_ne_name_of_operator? hoperator)
  split at h
  · split at h <;> cases h
  split_ifs at h with _ _ hstart
  exact hstart

/-- A point in front of a word is a token of its own. -/
theorem first_point [Text.Alphabet] (h : Text.isNameStart c) :
    first '.' (c :: rest) = .ok (.period, 0) := by
  have hdigit : startsWithDigit (c :: rest) = false := (endsSign_of_isNameStart h).digit
  have hsign : operator? '.' (c :: rest) = some (.period, 0) := by
    simp [operator?, signs, begins]
  exact first_of_operator? hdigit hsign

end Lexeme

/-! ## Signs -/

/-- The kind is of tokens that are written with signs. -/
def TokenKind.isSign : TokenKind → Bool
  | .string | .number | .name | .reserved | .keyword _ => false
  | _ => true

/-- What a sign begins with ends a numeral. -/
theorem Lexeme.ends_of_first_isSign [Text.Alphabet] {c : Char} {rest : List Char} {kind : TokenKind}
    {more : Nat} (h : first c rest = .ok (kind, more)) (hkind : kind.isSign) :
    Number.Numeral.Ends c := by
  unfold first at h
  split at h
  · cases h
    cases hkind
  split at h
  next hoperator =>
    obtain ⟨sign, hsign, -⟩ := Option.map_eq_some_iff.1 hoperator
    have hbegins := List.find?_some hsign
    have hletters := (Bool.and_eq_true_iff.1 hbegins).1
    have hmem := List.mem_of_find?_eq_some hsign
    obtain ⟨d, letters, heq⟩ := exists_cons_of_mem_signs hmem
    rw [heq, List.isPrefixOf_iff_prefix, List.cons_prefix_cons] at hletters
    exact Number.Numeral.ends_of_mem_signs hmem (by rw [heq, hletters.1]; rfl)
  split at h
  · split at h
    · cases h
      cases hkind
    · cases h
  split_ifs at h
  obtain ⟨rfl, -⟩ := Prod.mk.inj (Except.ok.inj h)
  unfold TokenKind.ofWord at hkind
  split at hkind
  · cases hkind
  · split_ifs at hkind <;> cases hkind

/-! ## Texts that fork -/

/-- The two texts are the same up to where both have a closing brace, or each a name. -/
def Forks [Text.Alphabet] (text text' : List Char) : Prop :=
  ∃ front c d rest rest', text = front ++ c :: rest ∧ text' = front ++ d :: rest' ∧
    (c = '}' ∧ d = '}' ∨ Text.isNameStart c ∧ Text.isNameStart d)

theorem Forks.append [Text.Alphabet] {text text' : List Char} (h : Forks text text')
    (front : List Char) :
    Forks (front ++ text) (front ++ text') := by
  obtain ⟨middle, c, d, rest, rest', rfl, rfl, hcd⟩ := h
  exact ⟨front ++ middle, c, d, rest, rest', (List.append_assoc ..).symm,
    (List.append_assoc ..).symm, hcd⟩

theorem forks_closingBrace [Text.Alphabet] (rest rest' : List Char) :
    Forks ('}' :: rest) ('}' :: rest') :=
  ⟨[], '}', '}', rest, rest', rfl, rfl, .inl ⟨rfl, rfl⟩⟩

theorem forks_name [Text.Alphabet] {c d : Char} (hc : Text.isNameStart c) (hd : Text.isNameStart d)
    (rest rest' : List Char) : Forks (c :: rest) (d :: rest') :=
  ⟨[], c, d, rest, rest', rfl, rfl, .inr ⟨hc, hd⟩⟩

namespace Lexeme

/-- A run that ends with the first of two texts ends because of what the second begins with. -/
theorem neg_of_length_takeWhile_append {α : Type} {p : α → Bool} {xs ys : List α} {y : α}
    (h : ((xs ++ y :: ys).takeWhile p).length = xs.length) : p y = false := by
  by_contra hy
  rw [List.takeWhile_append, List.takeWhile_cons_of_pos (Bool.eq_true_of_not_eq_false hy)] at h
  split at h
  · rw [List.length_append, List.length_cons] at h
    omega
  next hsome => exact hsome h

theorem takeWhile_congr {α : Type} {p : α → Bool} {xs front ys zs : List α} {y z : α} (hy : p y)
    (h : ((xs ++ front ++ y :: ys).takeWhile p).length = xs.length) :
    (xs ++ front ++ z :: zs).takeWhile p = (xs ++ front ++ y :: ys).takeWhile p := by
  cases front with
  | nil =>
    rw [List.append_nil] at h
    rw [neg_of_length_takeWhile_append h] at hy
    cases hy
  | cons f front =>
    rw [List.append_assoc, List.cons_append] at h
    have hf := neg_of_length_takeWhile_append h
    rw [List.append_assoc, List.append_assoc, List.cons_append, List.cons_append,
      Number.Numeral.takeWhile_append_cons_of_neg hf,
      Number.Numeral.takeWhile_append_cons_of_neg hf]

/-- A number has a character at least. -/
theorem length_pos_of_beginsNumber {c : Char} {rest : List Char}
    (h : (Number.isDigitOf 10 c || (c = '.' && startsWithDigit rest)) = true) :
    0 < Number.Numeral.length (c :: rest) := by
  by_cases hpoint : c = '.'
  · subst hpoint
    have htwo := two_le_length_of_point (h : startsWithDigit rest = true)
    omega
  · have hdigit : Number.isDigitOf 10 c = true := by
      simpa [hpoint] using h
    have hdecimal : 0 < Number.Numeral.decimalLength (c :: rest) := by
      rw [Number.Numeral.decimalLength, Number.Numeral.digitCount,
        List.takeWhile_cons_of_pos hdigit, List.length_cons]
      omega
    unfold Number.Numeral.length
    split
    · split
      · omega
      · exact hdecimal
    · exact hdecimal

/-- A token is the same in front of two texts that fork, if a number is ended by what stands behind
it. -/
theorem first_congr [Text.Alphabet] {c : Char} {more text text' : List Char} {kind : TokenKind}
    (h : first c (more ++ text) = .ok (kind, more.length)) (hfork : Forks text text')
    (hnumber : kind = .number → ∃ s rest rest', text = s :: rest ∧ text' = s :: rest' ∧
      Number.Numeral.Ends s) :
    first c (more ++ text') = .ok (kind, more.length) := by
  obtain ⟨front, y, z, rest, rest', rfl, rfl, hcd⟩ := hfork
  have hle : more.length ≤ (more ++ front).length := by simp
  rcases hcd with ⟨rfl, rfl⟩ | ⟨hy, hz⟩
  · rw [← List.append_assoc] at h ⊢
    have hinside := (first_append_iff stops_closingBrace).1 ⟨h, hle⟩
    exact ((first_append_iff stops_closingBrace).2 hinside).1
  rw [← List.append_assoc] at h ⊢
  by_cases hquote : c = '\'' ∨ c = '"'
  · have hescape : c ≠ '\\' := by rcases hquote with rfl | rfl <;> decide
    obtain ⟨rfl, hclosed⟩ := (first_quote hquote).1 h
    rw [first_quote hquote, Quoted.length?_append_iff hescape hle]
    exact ⟨rfl, (Quoted.length?_append_iff hescape hle).1 hclosed⟩
  have hyEnds := endsSign_of_isNameStart hy
  have hzEnds := endsSign_of_isNameStart hz
  unfold first at h ⊢
  rw [if_neg hquote, startsWithDigit_append hyEnds.digit, operator?_append hyEnds] at h
  rw [if_neg hquote, startsWithDigit_append hzEnds.digit, operator?_append hzEnds]
  split at h
  next hbegins =>
    obtain ⟨rfl, hmore⟩ := Prod.mk.inj (Except.ok.inj h)
    obtain ⟨s, tail, tail', htail, htail', hs⟩ := hnumber rfl
    rw [List.append_assoc, htail] at hmore
    have hpos : 0 < Number.Numeral.length (c :: (more ++ s :: tail)) := by
      apply length_pos_of_beginsNumber
      rw [← htail, ← List.append_assoc, startsWithDigit_append hyEnds.digit]
      exact hbegins
    have hlength : Number.Numeral.length (c :: more ++ s :: tail) = (c :: more).length := by
      rw [List.cons_append, List.length_cons]
      omega
    have hlength' : Number.Numeral.length (c :: more ++ s :: tail') = (c :: more).length :=
      Number.Numeral.length_congr hs hlength
    rw [if_pos hbegins, List.append_assoc, htail', ← List.cons_append, hlength']
    rfl
  next hbegins =>
    rw [if_neg hbegins]
    split at h
    next hoperator => exact h
    next hoperator =>
      split_ifs at h ⊢ with _ _ hstart
      obtain ⟨-, hlength⟩ := Prod.mk.inj (Except.ok.inj h)
      rw [← h]
      dsimp only
      rw [takeWhile_congr (Text.isNamePart_of_isNameStart hy) hlength]

end Lexeme

end TemplateLiteral
