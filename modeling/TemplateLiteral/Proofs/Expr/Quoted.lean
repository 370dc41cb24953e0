import Mathlib.Data.List.Induction
import TemplateLiteral.Proofs.Number.Digits
import TemplateLiteral.Proofs.Token.Lookahead

/-!
# What may stand between quotes

A character of a text can be written between quotes in several ways, each chosen without regard to
its neighbours, and a line may be broken anywhere between two of them. Where a quoted text ends is
found without knowing what it means, so the two readings have to agree on where an escape ends.

An escape that gives the number of a character has to be complete, and some character has to have
the number. The brace behind `\u{` is an exception: if it is missing, all digits up to the end of
the quoted text are taken, as if the quote behind them were preceded by it.

## Main definitions

* `Quoted.IsHexDigit`, `Quoted.HexNumeral`: hexadecimal digits, and the number they denote
* `Quoted.Spelling`, `Quoted.Spells`: how a character may be written, and how a text may be
* `Quoted.IsScalar`, `Quoted.WellFormed`: texts with complete escapes

## Main results

* `Quoted.Spells.decode?_eq`, `Quoted.Spells.length?_append`: a text is read as what it spells, up
  to the quote behind it
* `Quoted.isSome_decode?_iff`: which texts have a meaning
-/

namespace TemplateLiteral.Quoted

/-! ## Hexadecimal numerals -/

/-- The character is a hexadecimal digit with the given value, in either case. -/
def IsHexDigit (c : Char) (d : Nat) : Prop :=
  d < 16 ∧ (c = Nat.digitChar d ∨ c = (Nat.digitChar d).toUpper)

instance (c : Char) (d : Nat) : Decidable (IsHexDigit c d) :=
  inferInstanceAs (Decidable (_ ∧ _))

/-- The characters are hexadecimal digits that denote a number, with any zeros in front. -/
inductive HexNumeral : List Char → Nat → Prop where
  | nil : HexNumeral [] 0
  | snoc {ds : List Char} {c : Char} {n d : Nat} :
      HexNumeral ds n → IsHexDigit c d → HexNumeral (ds ++ [c]) (n * 16 + d)

/-- Some character has the number: it is in the range of Unicode, and no surrogate. -/
def IsScalar (n : Nat) : Prop :=
  n ≤ 0x10FFFF ∧ ¬ (0xD800 ≤ n ∧ n ≤ 0xDFFF)

section Numerals

variable {c : Char} {ds rest : List Char} {n d : Nat}

theorem isHexDigit_iff : IsHexDigit c d ↔ Number.digitValue? 16 c = some d := by
  constructor
  · have hread : ∀ d < 16, Number.digitValue? 16 (Nat.digitChar d) = some d ∧
        Number.digitValue? 16 (Nat.digitChar d).toUpper = some d := by decide
    rintro ⟨hd, rfl | rfl⟩
    · exact (hread d hd).1
    · exact (hread d hd).2
  · intro h
    have hascii : ∀ n < 123, ∀ d ∈ Number.digitValue? 16 (Char.ofNat n),
        IsHexDigit (Char.ofNat n) d := by decide
    have hbound : c.toNat ≤ 122 :=
      (Number.isAscii_of_isDigitOf (Option.isSome_iff_exists.2 ⟨d, h⟩)).2.1
    have hc := hascii c.toNat (Nat.lt_succ_of_le hbound) d
    rw [Char.ofNat_toNat] at hc
    exact hc h

theorem hexNumeral_iff :
    HexNumeral ds n ↔ ds.all (Number.isDigitOf 16) ∧ Number.ofDigits 16 ds = n := by
  constructor
  · intro h
    induction h with
    | nil => exact ⟨rfl, rfl⟩
    | @snoc ds c n d _ hc ih =>
      have hvalue := isHexDigit_iff.1 hc
      rw [Number.ofDigits_append_singleton, ih.2, hvalue, List.all_append, ih.1]
      simp [Number.isDigitOf, hvalue]
  · rintro ⟨hall, rfl⟩
    induction ds using List.reverseRecOn with
    | nil => exact .nil
    | append_singleton ds c ih =>
      rw [List.all_append, Bool.and_eq_true] at hall
      obtain ⟨d, hd⟩ := Option.isSome_iff_exists.1 (List.all_eq_true.1 hall.2 c List.mem_cons_self)
      rw [Number.ofDigits_append_singleton, hd]
      exact .snoc (ih hall.1) (isHexDigit_iff.2 hd)

theorem HexNumeral.isDigit (h : HexNumeral ds n) : ∀ c ∈ ds, Number.isDigitOf 16 c :=
  List.all_eq_true.1 (hexNumeral_iff.1 h).1

/-- Digits are none of the signs that mean something between quotes. -/
theorem HexNumeral.not_mem (h : HexNumeral ds n) (hc : Number.isDigitOf 16 c = false) : c ∉ ds := by
  intro hmem
  rw [h.isDigit c hmem] at hc
  cases hc

theorem toNat_ofNat_of_isValidChar (h : n.isValidChar) : (Char.ofNat n).toNat = n := by
  unfold Char.ofNat
  rw [dif_pos h]
  rfl

theorem isScalar_iff : IsScalar n ↔ ∃ c : Char, c.toNat = n := by
  have hvalid : IsScalar n ↔ n.isValidChar := by
    unfold IsScalar Nat.isValidChar
    omega
  rw [hvalid]
  constructor
  · intro h
    exact ⟨Char.ofNat n, toNat_ofNat_of_isValidChar h⟩
  · rintro ⟨c, rfl⟩
    exact c.valid

/-- Digits name a character exactly if they denote its number. -/
theorem charOfHex?_eq_some_iff : charOfHex? ds = some c ↔ HexNumeral ds c.toNat := by
  rw [hexNumeral_iff, charOfHex?]
  by_cases hall : ds.all (Number.isDigitOf 16)
  · simp only [hall, if_true, true_and]
    constructor
    · intro h
      split at h
      next hvalid =>
        cases h
        exact (toNat_ofNat_of_isValidChar hvalid).symm
      · cases h
    · intro h
      have hvalid : (Number.ofDigits 16 ds).isValidChar := h ▸ c.valid
      rw [if_pos hvalid, h, Char.ofNat_toNat]
  · simp [hall]

end Numerals

/-! ## Escapes -/

/-- Behind a backslash, the letter and what follows it give the number of a character. -/
inductive Numbered : Char → List Char → Nat → Prop where
  | byte {ds : List Char} {n : Nat} : ds.length = 2 → HexNumeral ds n → Numbered 'x' ds n
  | unit {ds : List Char} {n : Nat} : ds.length = 4 → HexNumeral ds n → Numbered 'u' ds n
  | braced {ds : List Char} {n : Nat} : ds ≠ [] → HexNumeral ds n →
      Numbered 'u' ('{' :: (ds ++ ['}'])) n

section Escapes

variable {c letter : Char} {code ds rest meant : List Char} {n : Nat}

theorem charOfNext?_append (hds : ds.length = n) : charOfNext? n (ds ++ rest) = charOfHex? ds := by
  unfold charOfNext?
  rw [List.take_left' hds, if_pos hds]

theorem escape?_byte (hds : ds.length = 2) :
    escape? 'x' (ds ++ rest) = (charOfHex? ds).map fun c => ([c], 2) := by
  rw [← charOfNext?_append hds]
  rfl

theorem escape?_unit (hds : ds.length = 4) (hbrace : '{' ∉ ds) :
    escape? 'u' (ds ++ rest) = (charOfHex? ds).map fun c => ([c], 4) := by
  have hhead : ∀ tail, ds ++ rest ≠ '{' :: tail := by
    rintro tail heq
    obtain ⟨d, ds, rfl⟩ := List.exists_cons_of_length_eq_add_one hds
    obtain ⟨rfl, -⟩ := List.cons.inj heq
    exact hbrace List.mem_cons_self
  rw [escape?, charOfNext?_append hds]
  exact hhead

/-- The digits in braces reach up to the closing one, or to the end of the text. -/
theorem escape?_braced (hbrace : '}' ∉ ds) (hrest : ∀ c ∈ rest.head?, c = '}') :
    escape? 'u' ('{' :: (ds ++ rest)) =
      if ds.isEmpty then none else (charOfHex? ds).map fun c => ([c], ds.length + 2) := by
  have hdigits : (ds ++ rest).takeWhile (· ≠ '}') = ds :=
    Number.Numeral.takeWhile_append_of_head?
      (fun c hc => decide_eq_true (ne_of_mem_of_not_mem hc hbrace))
      (fun c hc => decide_eq_false (not_not.2 (hrest c hc)))
  simp only [escape?, hdigits]

/-- A character that is given by its number is the one with the number. -/
theorem Numbered.escape?_eq (h : Numbered letter code c.toNat) (rest : List Char) :
    escape? letter (code ++ rest) = some ([c], code.length) := by
  generalize hn : c.toNat = n at h
  cases h with
  | byte hlength hds =>
    subst hn
    rw [escape?_byte hlength, charOfHex?_eq_some_iff.2 hds, hlength]
    rfl
  | unit hlength hds =>
    subst hn
    rw [escape?_unit hlength (hds.not_mem (by decide)), charOfHex?_eq_some_iff.2 hds, hlength]
    rfl
  | braced hne hds =>
    subst hn
    rw [List.cons_append, List.append_assoc,
      escape?_braced (hds.not_mem (by decide)) (by simp), charOfHex?_eq_some_iff.2 hds]
    simp [hne]

/-! ## What a text means, step by step -/

theorem decode?_nil : decode? [] = some [] := by
  simp [decode?]

theorem decode?_cons (hc : c ≠ '\\') : decode? (c :: rest) = (decode? rest).map (c :: ·) := by
  rw [decode?.eq_def]
  exact if_neg hc

theorem decode?_escape (h : escape? letter rest = some (meant, n)) :
    decode? ('\\' :: letter :: rest) = (decode? (rest.drop n)).map (meant ++ ·) := by
  rw [decode?.eq_def]
  simp only [if_true, h]
  exact Option.map_eq_bind.symm

theorem decode?_escape_eq_none (h : escape? letter rest = none) :
    decode? ('\\' :: letter :: rest) = none := by
  rw [decode?.eq_def]
  simp only [if_true, h]
  rfl

theorem decode?_escape_append (h : escape? letter (code ++ rest) = some (meant, code.length)) :
    decode? ('\\' :: letter :: (code ++ rest)) = (decode? rest).map (meant ++ ·) := by
  rw [decode?_escape h, List.drop_left' rfl]

end Escapes

/-! ## Spellings -/

/-- The letters that stand for control characters behind a backslash. -/
def controls : List (Char × Char) :=
  [('n', '\n'), ('r', '\r'), ('t', '\t'), ('b', '\x08'), ('f', '\x0c'), ('v', '\x0b'),
    ('0', '\x00')]

/-- A way to write a character between quotes. -/
inductive Spelling (quote : Char) : Char → List Char → Prop where
  | plain {c : Char} : c ≠ quote → c ≠ '\\' → c ≠ '\n' → c ≠ '\r' → Spelling quote c [c]
  | quote : Spelling quote quote ['\\', quote]
  | backslash : Spelling quote '\\' ['\\', '\\']
  | control {letter c : Char} : (letter, c) ∈ controls → Spelling quote c ['\\', letter]
  | numbered {letter c : Char} {code : List Char} :
      Numbered letter code c.toNat → Spelling quote c ('\\' :: letter :: code)

/-- The ends of a line. -/
inductive LineEnd : List Char → Prop where
  | lf : LineEnd ['\n']
  | cr : LineEnd ['\r']
  | crlf : LineEnd ['\r', '\n']

/-- What stands between quotes is a way to write the text: its characters in order, each in one of
its spellings, with ends of lines behind backslashes anywhere between them. -/
inductive Spells (quote : Char) : List Char → List Char → Prop where
  | nil : Spells quote [] []
  | char {c : Char} {cs text body : List Char} :
      Spelling quote c cs → Spells quote text body → Spells quote (c :: text) (cs ++ body)
  | lineEnd {ending text body : List Char} :
      LineEnd ending → Spells quote text body → Spells quote text ('\\' :: (ending ++ body))

section Spellings

variable {quote c : Char} {code cs ending text body rest : List Char} {n : Nat}

theorem escape?_control {letter : Char} (h : (letter, c) ∈ controls) (rest : List Char) :
    escape? letter rest = some ([c], 0) := by
  simp only [controls, List.mem_cons, Prod.mk.injEq, List.not_mem_nil, or_false] at h
  rcases h with ⟨rfl, rfl⟩ | ⟨rfl, rfl⟩ | ⟨rfl, rfl⟩ | ⟨rfl, rfl⟩ | ⟨rfl, rfl⟩ | ⟨rfl, rfl⟩ |
    ⟨rfl, rfl⟩ <;> rfl

/-- Each spelling of a character is read as the character, whatever stands behind it. -/
theorem Spelling.decode?_append (hquote : quote = '\'' ∨ quote = '"') (h : Spelling quote c cs) :
    decode? (cs ++ rest) = (decode? rest).map (c :: ·) := by
  cases h with
  | plain _ hc _ _ => exact decode?_cons hc
  | quote =>
    have hescape : escape? quote rest = some ([quote], 0) := by
      rcases hquote with rfl | rfl <;> rfl
    exact decode?_escape hescape
  | backslash => exact @decode?_escape '\\' rest ['\\'] 0 rfl
  | control hletter => exact decode?_escape (escape?_control hletter rest)
  | numbered hcode => exact decode?_escape_append (hcode.escape?_eq rest)

/-- An end of a line behind a backslash means nothing. -/
theorem LineEnd.decode?_append (h : LineEnd ending) (hrest : rest.head? ≠ some '\n') :
    decode? ('\\' :: (ending ++ rest)) = decode? rest := by
  have hnothing : ∀ x : Option (List Char), x.map ([] ++ ·) = x := fun x => Option.map_id'
  cases h with
  | lf => exact (@decode?_escape '\n' rest [] 0 rfl).trans (hnothing _)
  | cr =>
    have hescape : escape? '\r' rest = some ([], 0) :=
      congrArg (fun n => some ([], n)) (if_neg hrest)
    exact (decode?_escape hescape).trans (hnothing _)
  | crlf => exact (@decode?_escape '\r' ('\n' :: rest) [] 1 rfl).trans (hnothing _)

/-- What spells a text does not begin with the end of a line. -/
theorem Spells.head?_ne (h : Spells quote text body) : body.head? ≠ some '\n' := by
  cases h with
  | nil => nofun
  | lineEnd => simp
  | char hc _ =>
    cases hc with
    | plain _ _ hline _ => simpa using hline
    | quote | backslash | control | numbered => simp

/-- What spells a text is read as the text. -/
theorem Spells.decode?_eq (hquote : quote = '\'' ∨ quote = '"') (h : Spells quote text body) :
    decode? body = some text := by
  induction h with
  | nil => exact decode?_nil
  | char hc _ ih => rw [hc.decode?_append hquote, ih, Option.map_some]
  | lineEnd hending hbody ih => rw [hending.decode?_append hbody.head?_ne, ih]

/-! ## Where a spelling ends -/

theorem map_add_map_add (x : Option Nat) (m n : Nat) :
    (x.map (· + m)).map (· + n) = x.map (· + (m + n)) := by
  simp [Function.comp_def, Nat.add_assoc]

/-- Characters without a meaning of their own are passed over. -/
theorem length?_append_of_plain
    (h : ∀ c ∈ cs, c ≠ quote ∧ c ≠ '\\' ∧ c ≠ '\n' ∧ c ≠ '\r') :
    length? quote (cs ++ rest) = (length? quote rest).map (· + cs.length) := by
  induction cs with
  | nil => exact Option.map_id'.symm
  | cons c cs ih =>
    obtain ⟨⟨hquote, hescape, hlf, hcr⟩, hcs⟩ := List.forall_mem_cons.1 h
    rw [List.cons_append, length?_cons hescape, if_neg hquote, if_neg (not_or.2 ⟨hlf, hcr⟩),
      ih hcs, map_add_map_add, List.length_cons]

theorem HexNumeral.plain (hquote : quote = '\'' ∨ quote = '"') (h : HexNumeral cs n) :
    ∀ c ∈ cs, c ≠ quote ∧ c ≠ '\\' ∧ c ≠ '\n' ∧ c ≠ '\r' := by
  have hne : ∀ d, Number.isDigitOf 16 d = false → ∀ c ∈ cs, c ≠ d := by
    rintro d hd c hc rfl
    exact h.not_mem hd hc
  intro c hc
  refine ⟨hne quote ?_ c hc, hne _ (by decide) c hc, hne _ (by decide) c hc, hne _ (by decide) c hc⟩
  rcases hquote with rfl | rfl <;> decide

/-- A number of a character is passed over. -/
theorem Numbered.length?_append {letter : Char} (hquote : quote = '\'' ∨ quote = '"')
    (h : Numbered letter code n) :
    length? quote (code ++ rest) = (length? quote rest).map (· + code.length) := by
  cases h with
  | byte _ hds | unit _ hds => exact length?_append_of_plain (hds.plain hquote)
  | braced _ hds =>
    refine length?_append_of_plain fun c hc => ?_
    simp only [List.mem_cons, List.mem_append, List.not_mem_nil, or_false] at hc
    rcases hc with rfl | hc | rfl
    · rcases hquote with rfl | rfl <;> decide
    · exact hds.plain hquote c hc
    · rcases hquote with rfl | rfl <;> decide

/-- A spelling is passed over as a whole. -/
theorem Spelling.length?_append (hquote : quote = '\'' ∨ quote = '"') (h : Spelling quote c cs) :
    length? quote (cs ++ rest) = (length? quote rest).map (· + cs.length) := by
  cases h with
  | plain hc hescape hlf hcr =>
    exact @length?_append_of_plain quote [c] rest (by simpa using ⟨hc, hescape, hlf, hcr⟩)
  | quote =>
    refine length?_escape ?_
    rintro rfl
    rcases hquote with h | h <;> cases h
  | backslash => exact length?_escape nofun
  | @control letter _ hletter =>
    have hletters : ∀ p ∈ controls, p.1 ≠ '\r' := by decide
    exact length?_escape fun h => absurd h (hletters _ hletter)
  | @numbered letter _ code hcode =>
    have hletter : letter ≠ '\r' := by
      rintro rfl
      cases hcode
    rw [List.cons_append, List.cons_append, length?_escape fun h => absurd h hletter,
      hcode.length?_append hquote, map_add_map_add]
    rfl

/-- An end of a line behind a backslash is passed over. -/
theorem LineEnd.length?_append (h : LineEnd ending) (hrest : rest.head? ≠ some '\n') :
    length? quote ('\\' :: (ending ++ rest)) =
      (length? quote rest).map (· + ('\\' :: ending).length) := by
  cases h with
  | lf => exact length?_escape nofun
  | cr => exact length?_escape fun _ => hrest
  | crlf => rw [List.cons_append, List.cons_append, List.nil_append, length?]; rfl

/-- What spells a text is closed by the quote behind it. -/
theorem Spells.length?_append (hquote : quote = '\'' ∨ quote = '"')
    (h : Spells quote text body) (rest : List Char) :
    length? quote (body ++ quote :: rest) = some (body.length + 1) := by
  have hescape : quote ≠ '\\' := by rcases hquote with rfl | rfl <;> decide
  have hline : quote ≠ '\n' := by rcases hquote with rfl | rfl <;> decide
  induction h with
  | nil => rw [List.nil_append, length?_cons hescape, if_pos rfl]; rfl
  | @char c cs text body hc _ ih =>
    rw [List.append_assoc, hc.length?_append hquote, ih, Option.map_some, List.length_append]
    exact congrArg some (by omega)
  | @lineEnd ending text body hending hbody ih =>
    have hhead : (body ++ quote :: rest).head? ≠ some '\n' := by
      cases hbody' : body with
      | nil => simpa using hline
      | cons d body => simpa [hbody'] using hbody.head?_ne
    rw [List.cons_append, List.append_assoc, hending.length?_append hhead, ih, Option.map_some,
      List.length_cons, List.length_cons, List.length_append]
    exact congrArg some (by omega)

end Spellings

/-! ## Complete escapes -/

/-- Every escape that gives the number of a character is complete, and some character has the
number. -/
inductive WellFormed : List Char → Prop where
  | nil : WellFormed []
  | char {c : Char} {rest : List Char} : c ≠ '\\' → WellFormed rest → WellFormed (c :: rest)
  | other {letter : Char} {rest : List Char} : letter ≠ 'x' → letter ≠ 'u' → WellFormed rest →
      WellFormed ('\\' :: letter :: rest)
  | numbered {letter : Char} {code rest : List Char} {n : Nat} : Numbered letter code n →
      IsScalar n → WellFormed rest → WellFormed ('\\' :: letter :: (code ++ rest))

section Completeness

variable {c letter : Char} {code tail text rest meant : List Char} {n : Nat}

/-- The rest of a text behind an escape, with a closing brace behind it; of the brace that closes
the escape itself nothing is left. -/
def Leaves (rest : List Char) (n : Nat) (tail : List Char) : Prop :=
  rest.drop n ++ ['}'] = tail ∨ rest.drop n = [] ∧ tail = []

theorem exists_append_of_charOfNext? (h : charOfNext? n rest = some c) :
    ∃ ds, ds.length = n ∧ HexNumeral ds c.toNat ∧ rest = ds ++ rest.drop n := by
  unfold charOfNext? at h
  dsimp only at h
  split_ifs at h with hlength
  exact ⟨_, hlength, charOfHex?_eq_some_iff.1 h, (List.take_append_drop n rest).symm⟩

theorem exists_numbered_of_escape?_braced (h : escape? 'u' ('{' :: rest) = some (meant, n)) :
    ∃ ds c, ds ≠ [] ∧ HexNumeral ds (Char.toNat c) ∧ n = ds.length + 2 ∧
      (rest = ds ∨ ∃ tail, rest = ds ++ '}' :: tail) := by
  obtain ⟨ds, after, rfl, hbrace, hafter⟩ : ∃ ds after, rest = ds ++ after ∧ '}' ∉ ds ∧
      ∀ c ∈ after.head?, c = '}' := by
    refine ⟨rest.takeWhile (· ≠ '}'), rest.dropWhile (· ≠ '}'),
      List.takeWhile_append_dropWhile.symm, fun hmem => ?_, fun c hc => ?_⟩
    · have hne := List.mem_takeWhile_imp hmem
      exact of_decide_eq_true hne rfl
    · have hhead := List.head?_dropWhile_not (· ≠ '}') rest
      rw [hc] at hhead
      simpa using hhead
  rw [escape?_braced hbrace hafter] at h
  split_ifs at h with hempty
  obtain ⟨c, hc, heq⟩ := Option.map_eq_some_iff.1 h
  obtain ⟨-, rfl⟩ := Prod.mk.inj heq
  refine ⟨ds, c, by simpa using hempty, charOfHex?_eq_some_iff.1 hc, rfl, ?_⟩
  cases after with
  | nil => exact .inl (List.append_nil ds)
  | cons d tail =>
    obtain rfl := hafter d rfl
    exact .inr ⟨tail, rfl⟩

/-- The letter of a number is followed by the rest of it, which may be closed by the brace behind
the text. -/
theorem exists_numbered_of_escape? (hletter : letter = 'x' ∨ letter = 'u')
    (h : escape? letter rest = some (meant, n)) :
    ∃ code c tail, Numbered letter code (Char.toNat c) ∧ rest ++ ['}'] = code ++ tail ∧
      Leaves rest n tail := by
  rcases hletter with rfl | rfl
  · obtain ⟨c, hc, heq⟩ := Option.map_eq_some_iff.1 h
    obtain ⟨-, rfl⟩ := Prod.mk.inj heq
    obtain ⟨ds, hlength, hds, hrest⟩ := exists_append_of_charOfNext? hc
    exact ⟨ds, c, _, .byte hlength hds, by rw [← List.append_assoc, ← hrest], .inl rfl⟩
  by_cases hopen : ∃ tail, rest = '{' :: tail
  · obtain ⟨rest, rfl⟩ := hopen
    obtain ⟨ds, c, hne, hds, rfl, rfl | ⟨tail, rfl⟩⟩ := exists_numbered_of_escape?_braced h
    · exact ⟨_, c, [], .braced hne hds, by simp, .inr ⟨by simp, rfl⟩⟩
    · exact ⟨_, c, tail ++ ['}'], .braced hne hds, by simp, .inl (by simp)⟩
  · rw [escape?] at h
    · obtain ⟨c, hc, heq⟩ := Option.map_eq_some_iff.1 h
      obtain ⟨-, rfl⟩ := Prod.mk.inj heq
      obtain ⟨ds, hlength, hds, hrest⟩ := exists_append_of_charOfNext? hc
      exact ⟨ds, c, _, .unit hlength hds, by rw [← List.append_assoc, ← hrest], .inl rfl⟩
    · exact fun tail heq => hopen ⟨tail, heq⟩

/-- A number that is complete, perhaps by the brace behind the text, is read. -/
theorem Numbered.exists_escape?_eq (h : Numbered letter code c.toNat)
    (hrest : rest ++ ['}'] = code ++ tail) :
    ∃ n, escape? letter rest = some ([c], n) ∧ Leaves rest n tail := by
  rcases List.eq_nil_or_concat tail with rfl | ⟨tail, d, rfl⟩
  · -- The brace behind the text belongs to the number, and only a number in braces has one.
    rw [List.append_nil] at hrest
    generalize hn : c.toNat = n at h
    cases h with
    | byte _ hds | unit _ hds =>
      exact absurd (by simp [← hrest]) (hds.not_mem (c := '}') (by decide))
    | @braced ds _ hne hds =>
      subst hn
      obtain ⟨rfl, -⟩ := List.append_inj' (hrest.trans (List.cons_append ..).symm) rfl
      have hescape := @escape?_braced ds [] (hds.not_mem (by decide)) (by simp)
      rw [charOfHex?_eq_some_iff.2 hds] at hescape
      exact ⟨ds.length + 2, by simpa [hne] using hescape, .inr ⟨by simp, rfl⟩⟩
  · rw [List.concat_eq_append, ← List.append_assoc] at hrest
    obtain ⟨rfl, hd⟩ := List.append_inj' hrest rfl
    exact ⟨_, h.escape?_eq tail, .inl (by rw [List.drop_left' rfl, hd, List.concat_eq_append])⟩

/-- Any other letter is an escape of its own, and takes at most the second half of the end of a line
with it. -/
theorem exists_escape?_eq_of_other (hx : letter ≠ 'x') (hu : letter ≠ 'u') (rest : List Char) :
    ∃ meant n, escape? letter rest = some (meant, n) ∧
      (rest.drop n = rest ∨ rest = '\n' :: rest.drop n) := by
  unfold escape?
  split
  case h_9 =>
    refine ⟨_, _, rfl, ?_⟩
    split_ifs with hhead
    · obtain ⟨tail, rfl⟩ := List.head?_eq_some_iff.1 hhead
      exact .inr rfl
    · exact .inl rfl
  case h_10 => exact absurd rfl hx
  case h_11 => exact absurd rfl hu
  all_goals exact ⟨_, 0, rfl, .inl rfl⟩

theorem wellFormed_char_iff (hc : c ≠ '\\') : WellFormed (c :: rest) ↔ WellFormed rest := by
  constructor
  · intro h
    cases h with
    | char _ h => exact h
    | other | numbered => exact absurd rfl hc
  · exact .char hc

theorem wellFormed_other_iff (hx : letter ≠ 'x') (hu : letter ≠ 'u') :
    WellFormed ('\\' :: letter :: rest) ↔ WellFormed rest := by
  constructor
  · intro h
    generalize hwhole : '\\' :: letter :: rest = whole at h
    cases h with
    | nil => cases hwhole
    | char hc => exact absurd (List.cons.inj hwhole).1.symm hc
    | other _ _ hrest =>
      obtain ⟨-, rfl⟩ := List.cons.inj (List.cons.inj hwhole).2
      exact hrest
    | numbered hcode =>
      obtain ⟨rfl, -⟩ := List.cons.inj (List.cons.inj hwhole).2
      cases hcode with
      | byte => exact absurd rfl hx
      | unit | braced => exact absurd rfl hu
  · exact .other hx hu

theorem wellFormed_numbered_iff (hletter : letter = 'x' ∨ letter = 'u') :
    WellFormed ('\\' :: letter :: rest) ↔ ∃ code c tail, Numbered letter code (Char.toNat c) ∧
      rest = code ++ tail ∧ WellFormed tail := by
  constructor
  · intro h
    generalize hwhole : '\\' :: letter :: rest = whole at h
    cases h with
    | nil => cases hwhole
    | char hc => exact absurd (List.cons.inj hwhole).1.symm hc
    | other hx hu =>
      obtain ⟨rfl, -⟩ := List.cons.inj (List.cons.inj hwhole).2
      exact absurd hletter (not_or.2 ⟨hx, hu⟩)
    | @numbered _ code tail n hcode hn htail =>
      obtain ⟨rfl, hrest⟩ := List.cons.inj (List.cons.inj hwhole).2
      obtain ⟨c, rfl⟩ := isScalar_iff.1 hn
      exact ⟨code, c, tail, hcode, hrest, htail⟩
  · rintro ⟨code, c, tail, hcode, rfl, htail⟩
    exact .numbered hcode (isScalar_iff.2 ⟨c, rfl⟩) htail

/-- A text has a meaning exactly if it is well formed in front of a closing brace. -/
theorem isSome_decode?_iff : (decode? text).isSome ↔ WellFormed (text ++ ['}']) := by
  have hbrace : WellFormed ['}'] := .char (by decide) .nil
  -- By induction on how the text is read, with one step for each escape.
  induction text using decode?.induct with
  | case1 => exact iff_of_true (by rw [decode?_nil]; rfl) hbrace
  | case2 =>
    have hbackslash : decode? ['\\'] = some [] := by simp [decode?]
    exact iff_of_true (by rw [hbackslash]; rfl) (.other (by decide) (by decide) .nil)
  | case4 c rest hc ih =>
    rw [decode?_cons hc, List.cons_append, wellFormed_char_iff hc, Option.isSome_map]
    exact ih
  | case3 letter rest ih =>
    rw [List.cons_append, List.cons_append]
    by_cases hletter : letter = 'x' ∨ letter = 'u'
    · rw [wellFormed_numbered_iff hletter]
      constructor
      · intro h
        cases hescape : escape? letter rest with
        | none =>
          rw [decode?_escape_eq_none hescape] at h
          cases h
        | some found =>
          obtain ⟨meant, n⟩ := found
          rw [decode?_escape hescape, Option.isSome_map] at h
          obtain ⟨code, c, tail, hcode, hrest, hleaves⟩ :=
            exists_numbered_of_escape? hletter hescape
          refine ⟨code, c, tail, hcode, hrest, ?_⟩
          rcases hleaves with rfl | ⟨-, rfl⟩
          · exact (ih n).1 h
          · exact .nil
      · rintro ⟨code, c, tail, hcode, hrest, htail⟩
        obtain ⟨n, hescape, hleaves⟩ := hcode.exists_escape?_eq hrest
        rw [decode?_escape hescape, Option.isSome_map]
        rcases hleaves with rfl | ⟨hdrop, -⟩
        · exact (ih n).2 htail
        · rw [hdrop, decode?_nil]
          rfl
    · obtain ⟨hx, hu⟩ := not_or.1 hletter
      obtain ⟨meant, n, hescape, hdrop⟩ := exists_escape?_eq_of_other hx hu rest
      have hrest : WellFormed (rest.drop n ++ ['}']) ↔ WellFormed (rest ++ ['}']) := by
        rcases hdrop with hdrop | hdrop
        · rw [hdrop]
        · have hline : WellFormed ('\n' :: (rest.drop n ++ ['}'])) ↔ _ :=
            wellFormed_char_iff (by decide)
          rw [← List.cons_append, ← hdrop] at hline
          exact hline.symm
      rw [decode?_escape hescape, Option.isSome_map, wellFormed_other_iff hx hu, ← hrest]
      exact ih n

end Completeness

end TemplateLiteral.Quoted
