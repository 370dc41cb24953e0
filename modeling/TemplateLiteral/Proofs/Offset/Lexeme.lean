import TemplateLiteral.Proofs.Offset.Numeral
import TemplateLiteral.Proofs.Token.Stretch

/-!
# Lexemes by byte offsets

The token at a place of a source, found by slices and with lengths in bytes that are written out.
Every slice succeeds, and the token ends where the token of the text ends.

## Main definitions

* `Offset.Lexed`, `Offset.lexeme`: what stands at a place of a marker

## Main results

* `Offset.quoteStop?_eq`: a string ends where that of the text does
* `Offset.lexeme_eq`: what is found at a place is what the text there begins with
-/

namespace TemplateLiteral.Offset

/-! ## What stands at a place -/

/-- What stands at a place of a marker, and where it ends. -/
inductive Lexed where
  | blanks (stop : Nat)
  /-- The brace that closes the marker. -/
  | close (stop : Nat)
  | token (kind : TokenKind) (stop : Nat)

/-- Where the quote stands that closes a string, and one more for the quote itself. -/
def quoteStop? (quote : Char) (place : Nat) : List Char → Option Nat
  | '\\' :: '\r' :: '\n' :: rest =>
    quoteStop? quote (place + '\\'.utf8Size + '\r'.utf8Size + '\n'.utf8Size) rest
  | '\\' :: c :: rest => quoteStop? quote (place + '\\'.utf8Size + c.utf8Size) rest
  | c :: rest =>
    if c = quote then some (place + 1)
    else if c = '\n' ∨ c = '\r' then none
    else quoteStop? quote (place + c.utf8Size) rest
  | [] => none

/-- The string at a place. -/
def string (source : List Char) (start : Nat) (quote : Char) : Checked SyntaxFault Lexed := do
  let inside ← from? source (start + 1)
  match quoteStop? quote (start + 1) inside with
  | some stop => return .token .string stop
  | none =>
    let line ← from? source start
    let stop := ((find? (fun c => c = '\n' || c = '\r') line).map (start + ·)).getD
      (Text.byteLength source)
    throw ⟨.unclosedString quote, ⟨start, stop⟩⟩

/-- The word at a place. -/
def word [Text.Alphabet] (source : List Char) (start : Nat) : Checked SyntaxFault Lexed := do
  let rest ← from? source start
  let following := match rest with
    | [] => none
    | c :: more => (find? (!Text.isNamePart ·) more).map (c.utf8Size + ·)
  let stop := (following.map (start + ·)).getD (Text.byteLength source)
  let text ← (⟨start, stop⟩ : Region).slice? source
  return .token (.ofWord (String.ofList text)) stop

/-- The blank characters at a place. -/
def blanks (source : List Char) (start : Nat) : Checked SyntaxFault Lexed := do
  let rest ← from? source start
  return .blanks (((find? (!Text.isBlank ·) rest).map (start + ·)).getD (Text.byteLength source))

/-- Six characters that begin signs of one character or more. -/
def comparing : List Char := ['=', '!', '>', '<', '&', '|']

/-- The signs of more than one character that begin with one of the six, and how many bytes they
have. -/
def comparisons : List (List Char × Nat × TokenKind) := [
  (['=', '=', '='], 3, .operator .strictEqual),
  (['!', '=', '='], 3, .operator .strictNotEqual),
  (['=', '='], 2, .operator .equal),
  (['!', '='], 2, .operator .notEqual),
  (['>', '='], 2, .operator .greaterOrEqual),
  (['<', '='], 2, .operator .lessOrEqual),
  (['&', '&'], 2, .operator .and),
  (['|', '|'], 2, .operator .or)]

/-- The sign at a place that begins with one of the six characters. -/
def comparison (source : List Char) (start : Nat) (c : Char) : Checked SyntaxFault Lexed := do
  let rest ← from? source start
  match comparisons.find? fun row => row.1.isPrefixOf rest with
  | some (_, length, kind) => return .token kind (start + length)
  | none =>
    match c with
    | '=' => return .token .assign (start + 1)
    | '!' => return .token .exclamation (start + 1)
    | '>' => return .token (.operator .greater) (start + 1)
    | '<' => return .token (.operator .less) (start + 1)
    | _ => throw ⟨.halfOperator c, ⟨start, start + 1⟩⟩

/-- The question mark at a place, and what belongs to it. -/
def question (source : List Char) (start : Nat) (following : Option Char) :
    Checked SyntaxFault Lexed := do
  match following with
  | some '?' => return .token (.operator .nullish) (start + 2)
  | some '.' =>
    let digits ← from? source (start + 2)
    if Lexeme.startsWithDigit digits then return .token .question (start + 1)
    else return .token .optionalPeriod (start + 2)
  | _ => return .token .question (start + 1)

/-- The characters that are tokens, whatever follows them. -/
def singles : List (Char × TokenKind) := [
  (':', .colon), (',', .comma), ('(', .openParen), (')', .closeParen), ('[', .openBracket),
  (']', .closeBracket), ('+', .operator .add), ('-', .operator .subtract),
  ('*', .operator .multiply), ('/', .operator .divide), ('%', .operator .remainder)]

/-- What stands at a place of a marker, if anything does. -/
def lexeme [Text.Alphabet] (source : List Char) (start : Nat) :
    Checked SyntaxFault (Option Lexed) := do
  match ← from? source start with
  | [] => return none
  | c :: _ =>
    let following := (← from? source (start + c.utf8Size)).head?
    match singles.lookup c with
    | some kind => return some (.token kind (start + 1))
    | none =>
      if c = '}' then return some (.close (start + 1))
      else if c = '.' then
        if following.any (Number.isDigitOf 10) then
          return some (.token .number (numberStop source start))
        else
          return some (.token .period (start + 1))
      else if c = '?' then some <$> question source start following
      else if c = '\'' ∨ c = '"' then some <$> string source start c
      else if c ∈ comparing then some <$> comparison source start c
      else if c = '`' then throw ⟨.backtick, ⟨start, start + 1⟩⟩
      else if Text.isBlank c then some <$> blanks source start
      else if Number.isDigitOf 10 c then
        return some (.token .number (numberStop source start))
      else if Text.isNameStart c then some <$> word source start
      else throw ⟨.strayCharacter, ⟨start, start + c.utf8Size⟩⟩

/-! ## Tokens -/

/-- What stands at a place if the text there begins with a token, or the fault that is shown. -/
def outcome (start : Nat) (c : Char) (rest : List Char) :
    Except (SyntaxFault.Cause × Nat) (TokenKind × Nat) → Checked SyntaxFault Lexed
  | .ok (kind, more) =>
    pure (.token kind (start + Text.byteLength (c :: rest.take more)))
  | .error (cause, more) =>
    throw ⟨cause, ⟨start, start + Text.byteLength (c :: rest.take more)⟩⟩

section Tokens

variable {source rest : List Char} {start : Nat} {c : Char}

/-- The signs that are one of these characters. -/
def comparingSingles : List (List Char × TokenKind) := [
  (['='], .assign), (['!'], .exclamation), (['>'], .operator .greater), (['<'], .operator .less)]

/-- The signs that begin with one of six characters are those of the table, and single characters
after them. -/
theorem operator?_of_mem_comparing (hc : c ∈ comparing) :
    Lexeme.operator? c rest =
      ((comparisons.find? (·.1.isPrefixOf (c :: rest))).map (fun row => (row.1, row.2.2)) |>.or
        (comparingSingles.find? (·.1.isPrefixOf (c :: rest)))).map
          fun sign => (sign.2, sign.1.length - 1) := by
  have htable : Lexeme.signs.filter (fun sign => sign.1.head?.any (· ∈ comparing)) =
      comparisons.map (fun row => (row.1, row.2.2)) ++ comparingSingles := by decide
  have hpoint : ∀ sign ∈ Lexeme.signs, sign.1.head?.any (· ∈ comparing) →
      sign.2 ≠ .optionalPeriod := by decide
  -- Of all signs only those are left that begin with one of the six, in the same order.
  have hbegins : Lexeme.signs.find? (Lexeme.begins (c :: rest)) =
      (Lexeme.signs.filter fun sign => sign.1.head?.any (· ∈ comparing)).find?
        (·.1.isPrefixOf (c :: rest)) := by
    rw [List.find?_filter]
    refine List.find?_congr fun sign hsign => ?_
    obtain ⟨d, letters, hletters⟩ := Lexeme.exists_cons_of_mem_signs hsign
    by_cases hprefix : sign.1.isPrefixOf (c :: rest)
    · have hhead : sign.1.head?.any (· ∈ comparing) := by
        rw [hletters, List.isPrefixOf_iff_prefix, List.cons_prefix_cons] at hprefix
        rw [hletters, hprefix.1]
        simpa using hc
      simp [Lexeme.begins, hprefix, hhead, hpoint sign hsign hhead]
    · simp [Lexeme.begins, hprefix]
  rw [Lexeme.operator?, hbegins, htable, List.find?_append, List.find?_map]
  rfl

/-- A character is in a sign only if it is looked for. -/
theorem mem_of_mem_signs {sign : List Char × TokenKind} (hsign : sign ∈ Lexeme.signs)
    (hc : c ∈ sign.1) : c ∈ singles.map (·.1) ∨ c = '.' ∨ c = '?' ∨ c ∈ comparing := by
  have hletters : ∀ sign ∈ Lexeme.signs, sign.1.all fun d =>
      d ∈ singles.map (·.1) ∨ d = '.' ∨ d = '?' ∨ d ∈ comparing := by decide
  exact of_decide_eq_true (List.all_eq_true.1 (hletters sign hsign) c hc)

/-- What follows further on in a text follows later by so many characters. -/
theorem map_place {text rest : List Char} {place further k : Nat}
    (h : ∀ n, further + Text.byteLength (rest.take n) = place + Text.byteLength (text.take (n + k)))
    (length : Option Nat) :
    (length.map fun n => further + Text.byteLength (rest.take n)) =
      (length.map (· + k)).map fun n => place + Text.byteLength (text.take n) := by
  rw [Option.map_map]
  exact congrArg (length.map ·) (funext h)

/-- A quote that closes a string is found where the string ends. -/
theorem quoteStop?_eq {quote : Char} (hquote : quote.utf8Size = 1) (text : List Char)
    (place : Nat) : quoteStop? quote place text =
      (Quoted.length? quote text).map fun n => place + Text.byteLength (text.take n) := by
  -- Both look for the quote in the same way; only what they count is different.
  fun_induction Quoted.length? quote text generalizing place with
  | case1 rest ih =>
    rw [quoteStop?, ih]
    refine map_place (fun n => ?_) _
    simp only [List.take_succ_cons, Text.byteLength_cons, Nat.add_assoc]
  | case2 x rest hpair ih =>
    rw [quoteStop?, ih]
    · refine map_place (fun n => ?_) _
      simp only [List.take_succ_cons, Text.byteLength_cons, Nat.add_assoc]
    · exact hpair
  | case3 rest hpair hescape =>
    rw [quoteStop?, if_pos rfl]
    · simp [hquote]
    · exact hpair
    · exact hescape
  | case4 c rest hpair hescape hc hline =>
    rw [quoteStop?, if_neg hc, if_pos hline]
    · rfl
    · exact hpair
    · exact hescape
  | case5 c rest hpair hescape hc hline ih =>
    rw [quoteStop?, if_neg hc, if_neg hline, ih]
    · refine map_place (fun n => ?_) _
      simp only [List.take_succ_cons, Text.byteLength_cons, Nat.add_assoc]
    · exact hpair
    · exact hescape
  | case6 => rfl

theorem take_length_takeWhile (p : Char → Bool) (text : List Char) :
    text.take (text.takeWhile p).length = text.takeWhile p :=
  (List.prefix_iff_eq_take.1 (List.takeWhile_prefix p)).symm

theorem blanks_eq (h : Stands source start (c :: rest)) : blanks source start =
    pure (.blanks (start + Text.byteLength ((c :: rest).takeWhile Text.isBlank))) := by
  rw [blanks, lift_bind h.from?_eq, h.getD_find?_eq]
  simp only [Bool.not_not]

variable [Text.Alphabet]

/-- A character that begins no number and is no quote begins what the signs say. -/
theorem first_of_mem_comparing (hc : c ∈ comparing) :
    Lexeme.first c rest = match Lexeme.operator? c rest with
      | some (kind, more) => .ok (kind, more)
      | none => if c = '&' ∨ c = '|' then .error (.halfOperator c, 0)
        else .error (.strayCharacter, 0) := by
  have hdigits : comparing.all (!Number.isDigitOf 10 ·) := by decide
  have hpunctuation : comparing.all Text.isPunctuation := by decide
  have hothers : ['.', '\'', '"', '`'].all (· ∉ comparing) := by decide
  have hdigit := List.all_eq_true.1 hdigits c hc
  have hstart := Text.isNameStart_eq_false_of_isPunctuation (List.all_eq_true.1 hpunctuation c hc)
  have hother : ∀ d ∈ ['.', '\'', '"', '`'], c ≠ d := by
    rintro d hd rfl
    exact of_decide_eq_true (List.all_eq_true.1 hothers c hd) hc
  simp only [List.mem_cons, List.not_mem_nil, or_false, forall_eq_or_imp, forall_eq] at hother
  rw [Bool.not_eq_true'] at hdigit
  unfold Lexeme.first
  cases Lexeme.operator? c rest with
  | some => simp [hdigit, hother]
  | none => simp [hdigit, hother, hstart]

theorem comparison_eq (h : Stands source start (c :: rest)) (hc : c ∈ comparing) :
    comparison source start c = outcome start c rest (Lexeme.first c rest) := by
  have hlengths : ∀ row ∈ comparisons, row.1 ≠ [] ∧ Text.byteLength row.1 = row.2.1 := by decide
  have hoperator := @operator?_of_mem_comparing rest c hc
  have hfirst := @first_of_mem_comparing rest c _ hc
  unfold comparison
  rw [lift_bind h.from?_eq]
  cases hrow : comparisons.find? (·.1.isPrefixOf (c :: rest)) with
  | some row =>
    obtain ⟨letters, length, kind⟩ := row
    obtain ⟨hne, hlength⟩ := hlengths _ (List.mem_of_find?_eq_some hrow)
    have hbegins : letters.isPrefixOf (c :: rest) := by simpa using List.find?_some hrow
    have hprefix := List.isPrefixOf_iff_prefix.1 hbegins
    obtain ⟨d, letters, rfl⟩ := List.exists_cons_of_ne_nil hne
    obtain ⟨rfl, after, rfl⟩ := List.cons_prefix_cons.1 hprefix
    have htake : d :: (letters ++ after).take ((d :: letters).length - 1) = d :: letters := by simp
    rw [hrow] at hoperator
    have htoken : Lexeme.first d (letters ++ after) =
        .ok (kind, (d :: letters).length - 1) := by
      rw [hfirst, hoperator]
      rfl
    rw [htoken, outcome, htake, hlength]
  | none =>
    rw [hrow] at hoperator
    rw [hfirst, hoperator]
    simp only [comparing, List.mem_cons, List.not_mem_nil, or_false] at hc
    rcases hc with rfl | rfl | rfl | rfl | rfl | rfl <;> rfl

theorem first_of_mem_singles {kind : TokenKind} (h : (c, kind) ∈ singles) :
    c.utf8Size = 1 ∧ Lexeme.first c rest = .ok (kind, 0) := by
  simp only [singles, List.mem_cons, Prod.mk.injEq, List.not_mem_nil, or_false] at h
  rcases h with ⟨rfl, rfl⟩ | ⟨rfl, rfl⟩ | ⟨rfl, rfl⟩ | ⟨rfl, rfl⟩ | ⟨rfl, rfl⟩ | ⟨rfl, rfl⟩ |
    ⟨rfl, rfl⟩ | ⟨rfl, rfl⟩ | ⟨rfl, rfl⟩ | ⟨rfl, rfl⟩ | ⟨rfl, rfl⟩ <;> exact ⟨rfl, rfl⟩

theorem question_eq (h : Stands source start ('?' :: rest)) :
    question source start rest.head? = outcome start '?' rest (Lexeme.first '?' rest) := by
  cases rest with
  | nil => rfl
  | cons d rest =>
    by_cases hmark : d = '?'
    · subst hmark
      rfl
    by_cases hpoint : d = '.'
    · subst hpoint
      have hdigits : Stands source (start + 2) rest := (h.next rfl).next rfl
      rw [List.head?_cons, question, lift_bind hdigits.from?_eq]
      by_cases hdigit : Lexeme.startsWithDigit rest
      · rw [if_pos hdigit, Lexeme.first_question_of_startsWithDigit hdigit]
        rfl
      · have hsign : Lexeme.operator? '?' ('.' :: rest) = some (.optionalPeriod, 1) := by
          simp [Lexeme.operator?, Lexeme.signs, Lexeme.begins, hdigit]
        rw [if_neg hdigit, Lexeme.first_of_operator? rfl hsign]
        rfl
    · have hmark' : ('?' == d) = false := beq_false_of_ne (Ne.symm hmark)
      have hpoint' : ('.' == d) = false := beq_false_of_ne (Ne.symm hpoint)
      have hsign : Lexeme.operator? '?' (d :: rest) = some (.question, 0) := by
        simp [Lexeme.operator?, Lexeme.signs, Lexeme.begins, List.isPrefixOf_cons_cons, hmark',
          hpoint']
      have hother : question source start (some d) = pure (.token .question (start + 1)) := by
        unfold question
        split
        next heq => exact absurd (Option.some.inj heq) hmark
        next heq => exact absurd (Option.some.inj heq) hpoint
        · rfl
      rw [List.head?_cons, hother, Lexeme.first_of_operator? rfl hsign]
      rfl

theorem string_eq (h : Stands source start (c :: rest)) (hc : c = '\'' ∨ c = '"') :
    string source start c = outcome start c rest (Lexeme.first c rest) := by
  have hsize : c.utf8Size = 1 := by
    rcases hc with rfl | rfl <;> rfl
  have hfirst : Lexeme.first c rest = match Quoted.length? c rest with
      | some length => .ok (.string, length)
      | none => .error (.unclosedString c, (rest.takeWhile Lexeme.staysOnLine).length) := by
    rcases hc with rfl | rfl <;> rfl
  rw [string, lift_bind (h.next hsize).from?_eq, quoteStop?_eq hsize, hfirst]
  cases Quoted.length? c rest with
  | some length =>
    simp [outcome, hsize, Nat.add_assoc]
  | none =>
    have hstays : (fun d : Char => !(d = '\n' || d = '\r')) = Lexeme.staysOnLine := by
      funext d
      simp [Lexeme.staysOnLine]
    have hc' : Lexeme.staysOnLine c := by
      rcases hc with rfl | rfl <;> rfl
    simp only [Option.map_none]
    rw [lift_bind h.from?_eq, h.getD_find?_eq, outcome, take_length_takeWhile, hstays,
      List.takeWhile_cons_of_pos hc']

theorem word_eq (h : Stands source start (c :: rest)) (hc : Text.isNameStart c) :
    word source start = outcome start c rest (Lexeme.first c rest) := by
  have hword : Stands source start ((c :: rest.takeWhile Text.isNamePart) ++
      rest.dropWhile Text.isNamePart) := by
    rw [List.cons_append, List.takeWhile_append_dropWhile]
    exact h
  have hstop : (((find? (!Text.isNamePart ·) rest).map (c.utf8Size + ·)).map (start + ·)).getD
      (Text.byteLength source) = start + Text.byteLength (c :: rest.takeWhile Text.isNamePart) := by
    have hrest := h.cons.getD_find?_eq (!Text.isNamePart ·)
    simp only [Bool.not_not] at hrest
    rw [Text.byteLength_cons, ← Nat.add_assoc, ← hrest, Option.map_map]
    congr 2
    funext n
    exact (Nat.add_assoc ..).symm
  rw [word, lift_bind h.from?_eq]
  simp only [hstop]
  rw [lift_bind hword.slice?_eq, Lexeme.first_of_isNameStart hc, outcome, take_length_takeWhile]

theorem number_eq (h : Stands source start (c :: rest))
    (hc : (Number.isDigitOf 10 c || (c = '.' && Lexeme.startsWithDigit rest)) = true) :
    pure (.token .number (numberStop source start)) =
      outcome start c rest (Lexeme.first c rest) := by
  have hlength := byteLength_take_length (Lexeme.begins_of_beginsNumber hc)
  obtain ⟨more, hmore⟩ := Nat.exists_eq_succ_of_ne_zero
    (Nat.pos_iff_ne_zero.1 (Lexeme.length_pos_of_beginsNumber hc))
  rw [hmore, List.take_succ_cons] at hlength
  rw [Lexeme.first, if_pos hc, numberStop_eq h, hmore, outcome, Nat.succ_sub_one, hlength]

/-- A point begins a number if a digit follows it, and is a token of its own otherwise. -/
theorem point_eq (h : Stands source start ('.' :: rest)) :
    (if rest.head?.any (Number.isDigitOf 10) then pure (.token .number (numberStop source start))
      else pure (.token .period (start + 1))) =
      outcome start '.' rest (Lexeme.first '.' rest) := by
  have hfollowing : rest.head?.any (Number.isDigitOf 10) = Lexeme.startsWithDigit rest := by
    cases rest <;> rfl
  rw [hfollowing]
  by_cases hdigit : Lexeme.startsWithDigit rest
  · rw [if_pos hdigit, number_eq h hdigit]
  · have hsign : Lexeme.operator? '.' rest = some (.period, 0) := by
      simp [Lexeme.operator?, Lexeme.signs, Lexeme.begins]
    have hfirst : Lexeme.first '.' rest = .ok (.period, 0) :=
      Lexeme.first_of_operator? ((Bool.not_eq_true _).mp hdigit) hsign
    rw [if_neg hdigit, hfirst]
    rfl

theorem first_eq_stray (hsingle : singles.lookup c = none) (hpoint : c ≠ '.') (hmark : c ≠ '?')
    (hquote : ¬ (c = '\'' ∨ c = '"')) (hcompare : c ∉ comparing) (htick : c ≠ '`')
    (hdigit : ¬ Number.isDigitOf 10 c) (hstart : ¬ Text.isNameStart c) :
    Lexeme.first c rest = .error (.strayCharacter, 0) := by
  have hsigns : ∀ sign ∈ Lexeme.signs, c ∉ sign.1 := by
    intro sign hsign hmem
    rcases mem_of_mem_signs hsign hmem with hc | hc | hc | hc
    · obtain ⟨single, hin, rfl⟩ := List.mem_map.1 hc
      simpa using List.lookup_eq_none_iff.1 hsingle single hin
    · exact hpoint hc
    · exact hmark hc
    · exact hcompare hc
  have hhalf : ¬ (c = '&' ∨ c = '|') := by
    rintro (rfl | rfl) <;> exact hcompare (by decide)
  simp [Lexeme.first, Lexeme.operator?_eq_none hsigns, hdigit, hpoint, hquote, hhalf, htick, hstart]

/-- What stands where a text does. -/
def lexed (start : Nat) : List Char → Checked SyntaxFault (Option Lexed)
  | [] => pure none
  | c :: rest =>
    if Text.isBlank c then
      pure (some (.blanks (start + Text.byteLength ((c :: rest).takeWhile Text.isBlank))))
    else if c = '}' then pure (some (.close (start + 1)))
    else some <$> outcome start c rest (Lexeme.first c rest)

/-- What is found at a place by slices is what the text there begins with. -/
theorem lexeme_eq {text : List Char} (h : Stands source start text) :
    lexeme source start = lexed start text := by
  rw [lexeme, lift_bind h.from?_eq]
  cases text with
  | nil => rfl
  | cons c rest =>
  simp only [lexed]
  rw [lift_bind h.cons.from?_eq]
  cases hlookup : singles.lookup c with
  | some kind =>
    obtain ⟨before, after, htable, -⟩ := List.lookup_eq_some_iff.1 hlookup
    have hmem : (c, kind) ∈ singles := htable ▸ List.mem_append_cons_self
    have hother : ∀ single ∈ singles, Text.isBlank single.1 = false ∧ single.1 ≠ '}' := by decide
    obtain ⟨hblank, hbrace⟩ := hother _ hmem
    obtain ⟨hsize, hfirst⟩ := @first_of_mem_singles rest c _ kind hmem
    simp only [hblank, hbrace, hfirst, outcome, Bool.false_eq_true, if_false, List.take_zero,
      Text.byteLength_cons, Text.byteLength_nil, Nat.add_zero, hsize]
    rfl
  | none =>
    -- Blank characters come late on the left, but none of the characters before them is blank.
    simp only
    by_cases hbrace : c = '}'
    · subst hbrace
      rfl
    rw [if_neg hbrace, if_neg hbrace]
    by_cases hpoint : c = '.'
    · subst hpoint
      rw [if_pos rfl, ← point_eq h]
      split <;> rfl
    rw [if_neg hpoint]
    by_cases hmark : c = '?'
    · subst hmark
      rw [if_pos rfl, question_eq h]
      rfl
    rw [if_neg hmark]
    by_cases hquote : c = '\'' ∨ c = '"'
    · have hblank : Text.isBlank c = false := by
        rcases hquote with rfl | rfl <;> rfl
      rw [if_pos hquote, string_eq h hquote, if_neg (Bool.eq_false_iff.1 hblank)]
    rw [if_neg hquote]
    by_cases hcompare : c ∈ comparing
    · have hblanks : comparing.all (!Text.isBlank ·) := by decide
      have hblank : ¬ Text.isBlank c := by
        simpa using List.all_eq_true.1 hblanks c hcompare
      rw [if_pos hcompare, comparison_eq h hcompare, if_neg hblank]
    rw [if_neg hcompare]
    by_cases htick : c = '`'
    · subst htick
      rfl
    rw [if_neg htick]
    by_cases hblank : Text.isBlank c
    · rw [if_pos hblank, if_pos hblank, blanks_eq h]
      rfl
    rw [if_neg hblank, if_neg hblank]
    by_cases hdigit : Number.isDigitOf 10 c
    · rw [if_pos hdigit, ← number_eq h (by rw [hdigit, Bool.true_or])]
      rfl
    rw [if_neg hdigit]
    by_cases hstart : Text.isNameStart c
    · rw [if_pos hstart, word_eq h hstart]
    rw [if_neg hstart,
      first_eq_stray hlookup hpoint hmark hquote hcompare htick hdigit hstart, outcome]
    simp

end Tokens

end TemplateLiteral.Offset
