import TemplateLiteral.Proofs.Number.Numeral
import TemplateLiteral.Proofs.Offset.Basic
import TemplateLiteral.Proofs.Token.Lookahead

/-!
# Numerals by byte offsets

Where a numeral ends, found by looking at one byte after the other. All of its characters have one
byte, so that it has as many bytes as characters.

## Main definitions

* `Offset.numberStop`: where the numeral at a place ends

## Main results

* `Offset.numberStop_eq`: a numeral ends where that of the text does
* `Offset.byteLength_take_length`: a numeral has one byte to a character
-/

namespace TemplateLiteral.Offset

/-! ## Where a numeral ends -/

/-- Where the bytes end that are accepted one after the other. -/
def acceptFrom (source : List Char) (accept : Char → Bool) (place : Nat) : Nat :=
  if place < Text.byteLength source ∧ (charAt? source place).any accept then
    acceptFrom source accept (place + 1)
  else
    place
termination_by Text.byteLength source - place
decreasing_by omega

/-- Where a point and digits at a place end, if there is a point. -/
def fractionStop (source : List Char) (place : Nat) : Nat :=
  if charAt? source place = some '.' then acceptFrom source (Number.isDigitOf 10) (place + 1)
  else place

/-- Where `e` and a power of ten at a place end, if there is one. -/
def powerStop (source : List Char) (place : Nat) : Nat :=
  if charAt? source place = some 'e' ∨ charAt? source place = some 'E' then
    let probe :=
      if charAt? source (place + 1) = some '+' ∨ charAt? source (place + 1) = some '-' then
        place + 1 + 1
      else place + 1
    -- Without digits the letter is no part of the numeral.
    if (charAt? source probe).any (Number.isDigitOf 10) then
      acceptFrom source (Number.isDigitOf 10) probe
    else place
  else place

/-- Where the numeral at a place ends. -/
def numberStop (source : List Char) (start : Nat) : Nat :=
  if charAt? source start = some '0' ∧
      (charAt? source (start + 1) = some 'x' ∨ charAt? source (start + 1) = some 'X') ∧
      (charAt? source (start + 2)).any (Number.isDigitOf 16) then
    acceptFrom source (Number.isDigitOf 16) (start + 2)
  else
    powerStop source (fractionStop source (acceptFrom source (Number.isDigitOf 10) start))

/-! ## Numerals of a text -/

section Numerals

open Number Numeral

variable {source text rest : List Char} {place : Nat} {c : Char}

theorem utf8Size_eq_one (h : c.toNat ≤ 127) : c.utf8Size = 1 := by
  exact if_pos (show c.val ≤ 0x7f from h)

theorem utf8Size_of_isDigitOf {radix : Nat} (h : isDigitOf radix c) : c.utf8Size = 1 :=
  utf8Size_eq_one (Nat.le_trans (isAscii_of_isDigitOf h).2.1 (by decide))

theorem utf8Size_of_isNumeralChar (h : isNumeralChar c) : c.utf8Size = 1 := by
  simp only [isNumeralChar, Bool.or_eq_true, decide_eq_true_eq] at h
  rcases h with ((((h | rfl) | rfl) | rfl) | rfl) | rfl
  · exact utf8Size_of_isDigitOf h
  all_goals decide

theorem byteLength_eq_length (h : ∀ c ∈ text, c.utf8Size = 1) :
    Text.byteLength text = text.length := by
  induction text with
  | nil => rfl
  | cons c text ih =>
    obtain ⟨hc, htext⟩ := List.forall_mem_cons.1 h
    rw [Text.byteLength_cons, hc, ih htext, List.length_cons, Nat.add_comm]

theorem Stands.next (h : Stands source place (c :: rest)) (hc : c.utf8Size = 1) :
    Stands source (place + 1) rest :=
  hc ▸ h.cons

/-- Behind characters of one byte the text goes on as many bytes further. -/
theorem Stands.drop {n : Nat} (h : Stands source place text) (hn : n ≤ text.length)
    (hascii : ∀ c ∈ text.take n, c.utf8Size = 1) : Stands source (place + n) (text.drop n) := by
  have hlength : Text.byteLength (text.take n) = n := by
    rw [byteLength_eq_length hascii, List.length_take_of_le hn]
  rw [← List.take_append_drop n text] at h
  have happend := h.append
  rw [hlength] at happend
  exact happend

theorem acceptFrom_eq {accept : Char → Bool} (haccept : ∀ c, accept c → c.utf8Size = 1)
    (h : Stands source place text) :
    acceptFrom source accept place = place + (text.takeWhile accept).length := by
  induction text generalizing place with
  | nil =>
    rw [acceptFrom, h.charAt?_eq, if_neg]
    · rfl
    · rintro ⟨-, ⟨⟩⟩
  | cons c rest ih =>
    have hplace : place < Text.byteLength source := by
      have := c.utf8Size_pos
      rw [h.byteLength_eq, Text.byteLength_cons]
      omega
    rw [acceptFrom, h.charAt?_eq]
    by_cases hc : accept c
    · have hrest := h.next (haccept c hc)
      rw [if_pos ⟨hplace, hc⟩, ih hrest, List.takeWhile_cons_of_pos hc, List.length_cons]
      omega
    · rw [if_neg fun hboth => hc hboth.2, List.takeWhile_cons_of_neg hc]
      rfl

theorem acceptFrom_digits (radix : Nat) (h : Stands source place text) :
    acceptFrom source (isDigitOf radix) place = place + digitCount radix text :=
  acceptFrom_eq (fun _ => utf8Size_of_isDigitOf) h

theorem Stands.drop_digits (radix : Nat) (h : Stands source place text) :
    Stands source (place + digitCount radix text) (text.drop (digitCount radix text)) := by
  refine h.drop (digitCount_le radix text) fun c hc => ?_
  rw [take_digitCount] at hc
  exact utf8Size_of_isDigitOf (List.mem_takeWhile_imp hc)

theorem any_head?_iff {radix : Nat} :
    text.head?.any (isDigitOf radix) = true ↔ digitCount radix text ≠ 0 := by
  cases text with
  | nil => simp [digitCount]
  | cons c rest =>
    by_cases hc : isDigitOf radix c <;> simp [digitCount, hc]

theorem fractionStop_eq (h : Stands source place text) :
    fractionStop source place = place + fractionLength text := by
  rw [fractionStop, h.charAt?_eq]
  cases text with
  | nil => rfl
  | cons c rest =>
    by_cases hc : c = '.'
    · subst hc
      rw [List.head?_cons, if_pos rfl, acceptFrom_digits 10 (h.next rfl)]
      exact Nat.add_assoc ..
    · rw [List.head?_cons, if_neg fun heq => hc (Option.some.inj heq)]
      simp [fractionLength, hc]

theorem Stands.drop_fraction (h : Stands source place text) :
    Stands source (place + fractionLength text) (text.drop (fractionLength text)) := by
  refine h.drop (fractionLength_le text) fun c hc => ?_
  have hfraction := fraction_take_fractionLength text
  cases hfraction' : text.take (fractionLength text) with
  | nil =>
    rw [hfraction'] at hc
    cases hc
  | cons d digits =>
    rw [hfraction'] at hc hfraction
    cases hfraction with
    | point hdigits =>
    rcases List.mem_cons.1 hc with rfl | hc
    · decide
    · exact utf8Size_of_isDigitOf (hdigits c hc)

/-- Where the digits of a power are looked for. -/
theorem Stands.drop_sign (h : Stands source place text) :
    (if charAt? source place = some '+' ∨ charAt? source place = some '-' then place + 1
      else place) = place + signLength text ∧
    Stands source (place + signLength text) (text.drop (signLength text)) := by
  rw [h.charAt?_eq]
  cases text with
  | nil => exact ⟨rfl, h⟩
  | cons c rest =>
    by_cases hsign : c = '+' ∨ c = '-'
    · have hlength : signLength (c :: rest) = 1 := by
        rcases hsign with rfl | rfl <;> rfl
      have hsize : c.utf8Size = 1 := by
        rcases hsign with rfl | rfl <;> rfl
      rw [hlength]
      exact ⟨if_pos (hsign.imp (congrArg some) (congrArg some)), h.next hsize⟩
    · have hlength : signLength (c :: rest) = 0 := by
        rw [not_or] at hsign
        simp [signLength, hsign]
      rw [hlength]
      exact ⟨if_neg fun heq => hsign (heq.imp Option.some.inj Option.some.inj), h⟩

theorem powerStop_eq (h : Stands source place text) :
    powerStop source place = place + exponentLength text := by
  rw [powerStop, h.charAt?_eq]
  cases text with
  | nil => rfl
  | cons e rest =>
    simp only [exponentLength_cons, List.head?_cons, Option.some.injEq]
    by_cases he : e = 'e' ∨ e = 'E'
    · have hrest : Stands source (place + 1) rest := by
        rcases he with rfl | rfl <;> exact h.next rfl
      obtain ⟨hprobe, hdigits⟩ := hrest.drop_sign
      rw [if_pos he, hprobe, hdigits.charAt?_eq, acceptFrom_digits 10 hdigits]
      by_cases hcount : digitCount 10 (rest.drop (signLength rest)) ≠ 0
      · rw [if_pos (any_head?_iff.2 hcount), if_pos ⟨he, hcount⟩]
        omega
      · rw [if_neg (mt any_head?_iff.1 hcount), if_neg fun hboth => hcount hboth.2]
        rfl
    · rw [if_neg he, if_neg fun hboth => he hboth.1]
      rfl

theorem decimalStop_eq (h : Stands source place text) :
    powerStop source (fractionStop source (acceptFrom source (isDigitOf 10) place)) =
      place + decimalLength text := by
  have hwhole := h.drop_digits 10
  have hfraction := hwhole.drop_fraction
  rw [List.drop_drop] at hfraction
  rw [acceptFrom_digits 10 h, fractionStop_eq hwhole, powerStop_eq hfraction, decimalLength]
  omega

/-- A numeral ends where that of the text does. -/
theorem numberStop_eq (h : Stands source place text) :
    numberStop source place = place + length text := by
  have hdecimal := decimalStop_eq h
  unfold numberStop
  by_cases hradix : ∃ x rest, text = '0' :: x :: rest ∧ (x = 'x' ∨ x = 'X')
  · obtain ⟨x, rest, rfl, hx⟩ := hradix
    have hx' : x.utf8Size = 1 := by
      rcases hx with rfl | rfl <;> rfl
    have hzero : Stands source (place + 1) (x :: rest) := h.next rfl
    have hrest : Stands source (place + 2) rest := hzero.next hx'
    simp only [h.charAt?_eq, hzero.charAt?_eq, hrest.charAt?_eq, List.head?_cons,
      Option.some.injEq, any_head?_iff, hx, true_and, length, acceptFrom_digits 16 hrest]
    split
    · exact Nat.add_assoc ..
    · exact hdecimal
  · -- The bytes are looked at one by one, and the text may end before any of them.
    rw [if_neg]
    · rw [hdecimal]
      unfold length
      split
      next x rest => rw [if_neg fun hboth => hradix ⟨x, rest, rfl, hboth.1⟩]
      · rfl
    · rintro ⟨hzero, hx, -⟩
      rw [h.charAt?_eq] at hzero
      obtain ⟨rest, rfl⟩ := List.head?_eq_some_iff.1 hzero
      have hrest : Stands source (place + 1) rest := h.next rfl
      rw [hrest.charAt?_eq] at hx
      rcases hx with hx | hx
      · obtain ⟨rest, rfl⟩ := List.head?_eq_some_iff.1 hx
        exact hradix ⟨'x', rest, rfl, .inl rfl⟩
      · obtain ⟨rest, rfl⟩ := List.head?_eq_some_iff.1 hx
        exact hradix ⟨'X', rest, rfl, .inr rfl⟩

/-- A numeral has one byte to a character. -/
theorem byteLength_take_length (h : Begins text) :
    Text.byteLength (text.take (length text)) = length text := by
  rw [byteLength_eq_length, List.length_take_of_le (length_le text)]
  intro c hc
  unfold length at hc
  split at hc
  next x rest =>
    split at hc
    next hradix =>
      rw [Nat.add_comm, List.take_succ_cons, List.take_succ_cons, take_digitCount] at hc
      simp only [List.mem_cons] at hc
      rcases hc with rfl | rfl | hc
      · rfl
      · rcases hradix.1 with rfl | rfl <;> rfl
      · exact utf8Size_of_isDigitOf (List.mem_takeWhile_imp hc)
    · exact utf8Size_of_isNumeralChar ((decimal_take_decimalLength h).isNumeralChar hc)
  · cases text with
    | nil => cases h
    | cons d rest =>
      exact utf8Size_of_isNumeralChar ((decimal_take_decimalLength h).isNumeralChar hc)

end Numerals

end TemplateLiteral.Offset
