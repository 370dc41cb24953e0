import Mathlib.Data.List.Find
import TemplateLiteral.Proofs.Number.Numeral
import TemplateLiteral.Token.Lexeme

/-!
# How much of a text its first token depends on

The first token of a text is seen from the token itself and a few characters after it, and none of
these lies beyond a character that no token goes on with. Before such a character a text has the
token that it would have if it ended there. A string is the exception, since it may hold any
character; but a string that is closed before a place is not changed by what stands there.

## Main definitions

* `Lexeme.EndsSign`, `Lexeme.Stops`: no token of some kind, or of any, goes on with the character
* `Lexeme.Delimits`: the same, but a token may begin with it

## Main results

* `Lexeme.more_le_of_first`: a token lies in its text
* `Lexeme.first_append_iff`: a token that ends before such a character is the token of the text
  before it
-/

namespace TemplateLiteral

namespace Quoted

/-! ## Strings -/

section Length

variable {quote : Char} {xs ys : List Char} {n : Nat}

attribute [local simp] length?

theorem length?_escape {x : Char} {rest : List Char} (h : x = '\r' → rest.head? ≠ some '\n') :
    length? quote ('\\' :: x :: rest) = (length? quote rest).map (· + 2) := by
  rw [length?]
  rintro tail rfl rfl
  exact h rfl rfl

theorem length?_cons {c : Char} {rest : List Char} (hc : c ≠ '\\') :
    length? quote (c :: rest) = if c = quote then some 1
      else if c = '\n' ∨ c = '\r' then none
      else (length? quote rest).map (· + 1) := by
  rw [length?]
  · rintro tail rfl
    exact absurd rfl hc
  · rintro x tail rfl
    exact absurd rfl hc

/-- A string that is closed lies in its text. -/
theorem length?_le (h : length? quote xs = some n) : n ≤ xs.length := by
  fun_induction length? quote xs generalizing n with
  | case1 rest ih =>
    obtain ⟨m, hm, rfl⟩ := Option.map_eq_some_iff.1 h
    exact Nat.add_le_add_right (ih hm) 3
  | case2 x rest _ ih =>
    obtain ⟨m, hm, rfl⟩ := Option.map_eq_some_iff.1 h
    exact Nat.add_le_add_right (ih hm) 2
  | case3 =>
    obtain rfl := Option.some.inj h
    exact Nat.succ_le_succ (Nat.zero_le _)
  | case4 => cases h
  | case5 c rest _ _ _ _ ih =>
    obtain ⟨m, hm, rfl⟩ := Option.map_eq_some_iff.1 h
    exact Nat.succ_le_succ (ih hm)
  | case6 => cases h

theorem length?_pos (h : length? quote xs = some n) : 0 < n := by
  unfold length? at h
  split at h
  · obtain ⟨m, -, rfl⟩ := Option.map_eq_some_iff.1 h
    exact Nat.succ_pos _
  · obtain ⟨m, -, rfl⟩ := Option.map_eq_some_iff.1 h
    exact Nat.succ_pos _
  · split_ifs at h
    · cases h
      exact Nat.one_pos
    · obtain ⟨m, -, rfl⟩ := Option.map_eq_some_iff.1 h
      exact Nat.succ_pos _
  · cases h

/-- What closes a string is the quote. -/
theorem exists_take_of_length? (h : length? quote xs = some n) :
    ∃ inside, xs.take n = inside ++ [quote] := by
  fun_induction length? quote xs generalizing n with
  | case1 rest ih =>
    obtain ⟨m, hm, rfl⟩ := Option.map_eq_some_iff.1 h
    obtain ⟨inside, hinside⟩ := ih hm
    exact ⟨'\\' :: '\r' :: '\n' :: inside, by simp [hinside]⟩
  | case2 x rest _ ih =>
    obtain ⟨m, hm, rfl⟩ := Option.map_eq_some_iff.1 h
    obtain ⟨inside, hinside⟩ := ih hm
    exact ⟨'\\' :: x :: inside, by simp [hinside]⟩
  | case3 =>
    obtain rfl := Option.some.inj h
    exact ⟨[], rfl⟩
  | case4 => cases h
  | case5 c rest _ _ _ _ ih =>
    obtain ⟨m, hm, rfl⟩ := Option.map_eq_some_iff.1 h
    obtain ⟨inside, hinside⟩ := ih hm
    exact ⟨c :: inside, by simp [hinside]⟩
  | case6 => cases h

/-- A backslash is not the closing quote, and neither is the character after it. -/
theorem two_le_of_length?_backslash (hquote : quote ≠ '\\')
    (h : length? quote ('\\' :: xs) = some n) : 2 ≤ n := by
  cases xs with
  | nil => simp [hquote.symm] at h
  | cons x xs =>
    unfold length? at h
    split at h
    · obtain ⟨m, -, rfl⟩ := Option.map_eq_some_iff.1 h
      exact Nat.le_add_left 2 (m + 1)
    · obtain ⟨m, -, rfl⟩ := Option.map_eq_some_iff.1 h
      exact Nat.le_add_left 2 m
    next hpair heq =>
      obtain ⟨rfl, rfl⟩ := List.cons.inj heq
      exact (hpair _ _ rfl rfl).elim
    next heq => cases heq

theorem map_add_eq_some_iff {x y : Option Nat} {k : Nat}
    (h : ∀ m, m + k = n → (x = some m ↔ y = some m)) :
    x.map (· + k) = some n ↔ y.map (· + k) = some n := by
  simp only [Option.map_eq_some_iff]
  constructor
  · intro hsome
    obtain ⟨m, hm, hn⟩ := hsome
    exact ⟨m, (h m hn).1 hm, hn⟩
  · intro hsome
    obtain ⟨m, hm, hn⟩ := hsome
    exact ⟨m, (h m hn).2 hm, hn⟩

/-- Whether a string is closed before a place does not depend on what stands there. -/
theorem length?_append_iff (hquote : quote ≠ '\\') (hn : n ≤ xs.length) :
    length? quote (xs ++ ys) = some n ↔ length? quote xs = some n := by
  -- By induction on how the text before the place is read; only at its end may the two differ.
  fun_induction length? quote xs generalizing n with
  | case1 rest ih =>
    simp only [List.cons_append, length?]
    refine map_add_eq_some_iff fun m hm => ih ?_
    subst hm
    exact Nat.le_of_add_le_add_right hn
  | case2 x rest hcrlf ih =>
    by_cases h : x = '\r' → (rest ++ ys).head? ≠ some '\n'
    · simp only [List.cons_append, length?_escape h]
      refine map_add_eq_some_iff fun m hm => ih ?_
      subst hm
      exact Nat.le_of_add_le_add_right hn
    · -- The line end after the escape begins just behind the place.
      obtain ⟨rfl, hhead⟩ := Classical.not_imp.1 h
      obtain ⟨tail, htail⟩ := List.head?_eq_some_iff.1 (not_not.1 hhead)
      cases rest with
      | cons y rest =>
        obtain ⟨rfl, -⟩ := List.cons.inj htail
        exact (hcrlf rest rfl rfl).elim
      | nil =>
        rw [List.nil_append] at htail
        subst htail
        simp only [List.cons_append, List.nil_append, length?, Option.map_eq_some_iff]
        constructor
        · intro h
          obtain ⟨m, -, rfl⟩ := h
          exact absurd hn (by simp)
        · intro h
          obtain ⟨m, ⟨⟩, -⟩ := h
  | case3 => rw [List.cons_append, length?_cons hquote, if_pos rfl]
  | case4 c rest _ _ hc hline =>
    have hescape : c ≠ '\\' := by
      rintro rfl
      exact absurd hline (by decide)
    rw [List.cons_append, length?_cons hescape, if_neg hc, if_pos hline]
  | case5 c rest hcrlf hpair hc hline ih =>
    by_cases hescape : c = '\\'
    · -- The character after the escape begins just behind the place.
      subst hescape
      cases rest with
      | cons x rest => exact (hpair x rest rfl rfl).elim
      | nil =>
        constructor
        · intro h
          have hshort : n ≤ 1 := hn
          exact absurd (Nat.le_trans (two_le_of_length?_backslash hquote h) hshort) (by decide)
        · intro h
          cases h
    · rw [List.cons_append, length?_cons hescape, if_neg hc, if_neg hline]
      refine map_add_eq_some_iff fun m hm => ih ?_
      subst hm
      exact Nat.le_of_add_le_add_right hn
  | case6 =>
    obtain rfl := Nat.le_zero.1 hn
    constructor
    · intro h
      exact absurd (length?_pos h) (Nat.lt_irrefl 0)
    · intro h
      cases h

end Length

end Quoted

namespace Lexeme

/-! ## Characters that end a token -/

/-- No token that is written with signs goes on with the character, nor is it the digit that is
looked for behind a point. -/
structure EndsSign (b : Char) : Prop where
  digit : Number.isDigitOf 10 b = false
  sign : ∀ sign ∈ signs, b ∉ sign.1

section Ends

variable [Text.Alphabet] {b : Char}

/-- No token goes on with the character, strings apart. -/
structure Stops (b : Char) : Prop where
  numeral : Number.Numeral.Stops b
  namePart : Text.isNamePart b = false
  sign : ∀ sign ∈ signs, b ∉ sign.1

/-- No token goes on with the character, strings apart, though one may begin with it. -/
structure Delimits (b : Char) : Prop where
  numeral : Number.Numeral.Stops b
  namePart : Text.isNamePart b = false
  sign : ∀ sign ∈ signs, b ∉ sign.1.tail

theorem Stops.delimits (h : Stops b) : Delimits b :=
  ⟨h.numeral, h.namePart, fun sign hsign hmem => h.sign sign hsign (List.mem_of_mem_tail hmem)⟩

theorem stops_closingBrace : Stops '}' where
  numeral := ⟨by decide, by decide, by decide⟩
  namePart := Text.isNamePart_eq_false_of_isPunctuation (by decide)
  sign := by decide

theorem delimits_closeParen : Delimits ')' where
  numeral := ⟨by decide, by decide, by decide⟩
  namePart := Text.isNamePart_eq_false_of_isPunctuation (by decide)
  sign := by decide

end Ends

section Before

variable {b c : Char} {xs ys : List Char} {kind : TokenKind} {more : Nat}

theorem isPrefixOf_append_of_not_mem {sign : List Char} (hb : b ∉ sign) :
    sign.isPrefixOf (xs ++ b :: ys) = sign.isPrefixOf xs := by
  induction sign generalizing xs with
  | nil => rfl
  | cons a sign ih =>
    obtain ⟨ha, hsign⟩ := not_or.1 (mt List.mem_cons.2 hb)
    cases xs with
    | nil =>
      have hne : (a == b) = false := beq_false_of_ne (Ne.symm ha)
      rw [List.nil_append, List.isPrefixOf_cons_cons, hne]
      rfl
    | cons x xs =>
      rw [List.cons_append, List.isPrefixOf_cons_cons, List.isPrefixOf_cons_cons, ih hsign]

theorem startsWithDigit_append (hb : Number.isDigitOf 10 b = false) :
    startsWithDigit (xs ++ b :: ys) = startsWithDigit xs := by
  cases xs with
  | nil => exact hb
  | cons => rfl

theorem begins_append_of_not_mem (hdigit : Number.isDigitOf 10 b = false)
    {sign : List Char × TokenKind} (hb : b ∉ sign.1) :
    begins (xs ++ b :: ys) sign = begins xs sign := by
  unfold begins
  rw [isPrefixOf_append_of_not_mem hb]
  cases hpre : sign.1.isPrefixOf xs with
  | false => rfl
  | true =>
    -- The digit that is looked for behind the sign stands before the place, or not at all.
    have hle := (List.isPrefixOf_iff_prefix.1 hpre).length_le
    rw [List.drop_append_of_le_length hle, startsWithDigit_append hdigit]

theorem operator?_append (hb : EndsSign b) : operator? c (xs ++ b :: ys) = operator? c xs := by
  unfold operator?
  rw [← List.cons_append,
    List.find?_congr fun sign hsign => begins_append_of_not_mem hb.digit (hb.sign sign hsign)]

theorem exists_cons_of_mem_signs {sign : List Char × TokenKind} (hsign : sign ∈ signs) :
    ∃ d letters, sign.1 = d :: letters := by
  have hne : ∀ sign ∈ signs, sign.1 ≠ [] := by decide
  exact List.exists_cons_of_ne_nil (hne sign hsign)

theorem more_le_of_operator? (h : operator? c xs = some (kind, more)) : more ≤ xs.length := by
  obtain ⟨sign, hsign, hmore⟩ := Option.map_eq_some_iff.1 h
  obtain ⟨-, rfl⟩ := Prod.mk.inj hmore
  have hbegins := List.find?_some hsign
  have hle := (List.isPrefixOf_iff_prefix.1 (Bool.and_eq_true_iff.1 hbegins).1).length_le
  exact Nat.sub_le_of_le_add hle

/-- What makes a token a number is what makes a numeral begin. -/
theorem begins_of_beginsNumber
    (h : (Number.isDigitOf 10 c || (c = '.' && startsWithDigit xs)) = true) :
    Number.Numeral.Begins (c :: xs) := by
  rcases Bool.or_eq_true_iff.1 h with hc | hpoint
  · exact .inl hc
  · obtain ⟨hc, hstarts⟩ := Bool.and_eq_true_iff.1 hpoint
    cases xs with
    | nil => cases hstarts
    | cons d digits => exact .inr ⟨of_decide_eq_true hc, d, digits, rfl, hstarts⟩

variable [Text.Alphabet]

/-- The first character of a sign is behind none of those that may not go on. -/
theorem begins_append_of_delimits (hb : Delimits b) {sign : List Char × TokenKind}
    (hsign : sign ∈ signs) : begins (c :: (xs ++ b :: ys)) sign = begins (c :: xs) sign := by
  obtain ⟨d, letters, hletters⟩ := exists_cons_of_mem_signs hsign
  have hmem : b ∉ letters := by
    have htail := hb.sign sign hsign
    rwa [hletters] at htail
  have hrest := @begins_append_of_not_mem b xs ys hb.numeral.1 (letters, sign.2) hmem
  unfold begins at hrest ⊢
  rw [hletters, List.isPrefixOf_cons_cons, List.isPrefixOf_cons_cons, List.length_cons,
    List.drop_succ_cons, List.drop_succ_cons, Bool.and_assoc, Bool.and_assoc]
  exact congrArg ((d == c) && ·) hrest

theorem operator?_append_of_delimits (hb : Delimits b) :
    operator? c (xs ++ b :: ys) = operator? c xs := by
  unfold operator?
  rw [List.find?_congr fun _ => begins_append_of_delimits hb]

/-- What begins no number is what the signs say. -/
theorem first_of_operator?
    (hnumber : (Number.isDigitOf 10 c || (c = '.' && startsWithDigit xs)) = false)
    (h : operator? c xs = some (kind, more)) : first c xs = .ok (kind, more) := by
  rw [first, hnumber, h]
  rfl

/-- A token lies in its text. -/
theorem more_le_of_first (h : first c xs = .ok (kind, more)) : more ≤ xs.length := by
  unfold first at h
  split at h
  · cases h
    exact Nat.sub_le_of_le_add (Number.Numeral.length_le (c :: xs))
  split at h
  next hoperator =>
    cases h
    exact more_le_of_operator? hoperator
  split at h
  · split at h
    next hquoted =>
      cases h
      exact Quoted.length?_le hquoted
    · cases h
  split_ifs at h
  cases h
  exact (List.takeWhile_prefix _).length_le

/-- What a quote begins is a string, or nothing. -/
theorem first_quote (hquote : c = '\'' ∨ c = '"') :
    first c xs = .ok (kind, more) ↔ kind = .string ∧ Quoted.length? c xs = some more := by
  have hnumber : (Number.isDigitOf 10 c || (c = '.' && startsWithDigit xs)) = false := by
    rcases hquote with rfl | rfl <;> rfl
  have hoperator : operator? c xs = none := by
    rcases hquote with rfl | rfl <;> rfl
  unfold first
  rw [hnumber, hoperator]
  simp only [Bool.false_eq_true, if_false, if_pos hquote]
  cases Quoted.length? c xs with
  | none =>
    constructor
    · intro h
      cases h
    · intro h
      obtain ⟨-, ⟨⟩⟩ := h
  | some length =>
    rw [Except.ok.injEq, Prod.mk.injEq, Option.some.injEq, @eq_comm _ TokenKind.string]

/-- No number, sign or word is a string, so that a string is begun by a quote. -/
theorem quote_of_first_string (h : first c xs = .ok (.string, more)) : c = '\'' ∨ c = '"' := by
  unfold first at h
  split at h
  · cases h
  split at h
  next hoperator =>
    obtain ⟨rfl, -⟩ := Prod.mk.inj (Except.ok.inj h)
    obtain ⟨sign, hsign, hkind⟩ := Option.map_eq_some_iff.1 hoperator
    have hno : ∀ sign ∈ signs, sign.2 ≠ .string := by decide
    exact absurd (Prod.mk.inj hkind).1 (hno sign (List.mem_of_find?_eq_some hsign))
  split at h
  · assumption
  split_ifs at h
  have hword := (Prod.mk.inj (Except.ok.inj h)).1
  unfold TokenKind.ofWord at hword
  split at hword
  · cases hword
  · split at hword <;> cases hword

/-- A token that ends before a character that no token goes on with is the token of the text
before that character. -/
theorem first_append_iff_of_delimits (hb : Delimits b) :
    first c (xs ++ b :: ys) = .ok (kind, more) ∧ more ≤ xs.length ↔
      first c xs = .ok (kind, more) := by
  by_cases hquote : c = '\'' ∨ c = '"'
  · have hescape : c ≠ '\\' := by rcases hquote with rfl | rfl <;> decide
    rw [first_quote hquote, first_quote hquote, and_assoc]
    refine and_congr_right fun _ => ⟨?_, ?_⟩
    · intro h
      obtain ⟨hclosed, hmore⟩ := h
      exact (Quoted.length?_append_iff hescape hmore).1 hclosed
    · intro hclosed
      have hmore := Quoted.length?_le hclosed
      exact ⟨(Quoted.length?_append_iff hescape hmore).2 hclosed, hmore⟩
  · have hlength : Number.Numeral.length (c :: (xs ++ b :: ys)) =
        Number.Numeral.length (c :: xs) := by
      rw [← List.cons_append, Number.Numeral.length_append_of_stops hb.numeral]
    -- Strings apart, both texts take the same branch.
    have hsame : first c (xs ++ b :: ys) = first c xs := by
      unfold first
      rw [startsWithDigit_append hb.numeral.1, hlength, operator?_append_of_delimits hb,
        if_neg hquote, if_neg hquote, Number.Numeral.takeWhile_append_cons_of_neg hb.namePart]
    rw [hsame]
    exact ⟨And.left, fun h => ⟨h, more_le_of_first h⟩⟩

theorem first_append_iff (hb : Stops b) :
    first c (xs ++ b :: ys) = .ok (kind, more) ∧ more ≤ xs.length ↔
      first c xs = .ok (kind, more) :=
  first_append_iff_of_delimits hb.delimits

/-- A token that is a number is the numeral that the text begins with. -/
theorem begins_of_first_number (h : first c xs = .ok (.number, more)) :
    Number.Numeral.Begins (c :: xs) ∧
      c :: xs.take more = (c :: xs).take (Number.Numeral.length (c :: xs)) := by
  unfold first at h
  split at h
  next hdigit =>
    cases h
    have hbegins := begins_of_beginsNumber hdigit
    refine ⟨hbegins, ?_⟩
    cases hlength : Number.Numeral.length (c :: xs) with
    | zero =>
      have hread := Number.Numeral.read?_take_length hbegins
      rw [hlength, List.take_zero] at hread
      exact absurd hread (by decide)
    | succ more => rfl
  split at h
  next hoperator =>
    cases h
    obtain ⟨sign, hsign, hkind⟩ := Option.map_eq_some_iff.1 hoperator
    obtain ⟨hnumber, -⟩ := Prod.mk.inj hkind
    have hno : ∀ sign ∈ signs, sign.2 ≠ .number := by decide
    exact absurd hnumber (hno sign (List.mem_of_find?_eq_some hsign))
  split at h
  · split at h <;> cases h
  split_ifs at h
  obtain ⟨hword, -⟩ := Prod.mk.inj (Except.ok.inj h)
  unfold TokenKind.ofWord at hword
  split at hword
  · cases hword
  · split_ifs at hword

/-- A numeral is one token. -/
theorem first_of_form (h : Number.Numeral.Form (c :: xs)) :
    first c xs = .ok (.number, xs.length) := by
  have hnumber : (Number.isDigitOf 10 c || (c = '.' && startsWithDigit xs)) = true := by
    rcases h.begins with hc | ⟨rfl, d, digits, rfl, hd⟩
    · rw [hc, Bool.true_or]
    · exact hd
  rw [first, if_pos hnumber, h.length_eq]
  rfl

end Before

end Lexeme

end TemplateLiteral
