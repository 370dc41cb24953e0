import TemplateLiteral.Proofs.Expr.Fault
import TemplateLiteral.Proofs.Expr.Quoted
import TemplateLiteral.Proofs.Template.Region

/-!
# Quoted texts in templates

A marker with a string in it has the text that is spelled between the quotes, and shows it. What
the string holds does not matter: braces, openings and quotes are all part of it. A string that
spells nothing is a fault of the template, and the fault points at the string.

## Main definitions

* `Piece.FirstFault`: a token without a value, with nothing wrong before it

## Main results

* `scan_string`: a string is one token
* `Template.compile_spelled`: every way to write a text between quotes
* `Template.compile_string`: which strings have a meaning, and what is reported of the others
-/

namespace TemplateLiteral

section Strings

variable [Text.Alphabet] {quote : Char} {body text : List Char}

/-- A string in front of any text is one token, up to the quote that closes it. -/
theorem scan_string (hquote : quote = '\'' ∨ quote = '"') (h : Quoted.Spells quote text body)
    (start : Nat) (rest : List Char) :
    scan start (quote :: (body ++ quote :: rest)) =
      let literal := quote :: (body ++ [quote])
      let next := scan (start + Text.byteLength literal) rest
      ⟨.token ⟨.string, literal, ⟨start, start + Text.byteLength literal⟩⟩ next.tokens,
        literal ++ next.body, next.rest⟩ := by
  have hblank : ¬ Text.isBlank quote := by rcases hquote with rfl | rfl <;> decide
  have hbrace : quote ≠ '}' := by rcases hquote with rfl | rfl <;> decide
  have hfirst := (Lexeme.first_quote hquote).2 ⟨rfl, h.length?_append hquote rest⟩
  have hsplit : body ++ quote :: rest = (body ++ [quote]) ++ rest := by simp
  have hlength : (body ++ [quote]).length = body.length + 1 := List.length_append
  have htake : (body ++ quote :: rest).take (body.length + 1) = body ++ [quote] := by
    rw [hsplit, List.take_left' hlength]
  have hdrop : (body ++ quote :: rest).drop (body.length + 1) = rest := by
    rw [hsplit, List.drop_left' hlength]
  rw [scan_lexeme start hblank hbrace hfirst, htake, hdrop]

/-- A marker with a string in it, and blank characters around the string. -/
theorem exists_encloses_string (hquote : quote = '\'' ∨ quote = '"')
    (h : Quoted.Spells quote text body) {before after : List Char}
    (hblanks : ∀ b ∈ before ++ after, Text.isBlank b) :
    ∃ tokens region, Encloses 2 (before ++ quote :: (body ++ quote :: (after ++ ['}']))) tokens ∧
      Expr.ofTokens tokens = .ok (.literal (.string (String.ofList text)) region) := by
  obtain ⟨hbefore, hafter⟩ := List.forall_mem_append.1 hblanks
  let start := 2 + Text.byteLength before
  let stop := start + Text.byteLength (quote :: (body ++ [quote]))
  let close := stop + Text.byteLength after
  let string : Token := ⟨.string, quote :: (body ++ [quote]), ⟨start, stop⟩⟩
  have hscan : scan 2 (before ++ quote :: (body ++ quote :: (after ++ ['}']))) =
      ⟨.token string (.close ⟨close, close + 1⟩),
        before ++ quote :: (body ++ quote :: (after ++ ['}'])), []⟩ := by
    rw [scan_blanks hbefore, scan_string hquote h]
    dsimp only
    rw [scan_blanks hafter, scan_closingBrace]
    simp [string, start, stop, close]
  refine ⟨.token string (.close ⟨close, close + 1⟩), string.region, ?_, ?_⟩
  · have hcloses : (scan 2
        (before ++ quote :: (body ++ quote :: (after ++ ['}'])))).tokens.Closes := by
      rw [hscan]
      trivial
    have hencloses := encloses_of_closes hcloses
    rwa [hscan] at hencloses
  · have hmeans : Quoted.decode? string.text.tail.dropLast = some text := by
      rw [← h.decode?_eq hquote]
      exact congrArg Quoted.decode? List.dropLast_concat
    have hderives : Grammar.Derives .expression [string]
        (.literal (.string (String.ofList text)) string.region) :=
      .test (Grammar.Derives.loosen (.operand (.chain (.base (.literal (.string rfl hmeans)))))
        (by decide))
    exact Expr.ofTokens_eq_ok_iff.2 ⟨[string], _, rfl, hderives, trivial,
      Nat.le_of_ble_eq_true rfl⟩

end Strings

namespace Template

/-- However a text is written between quotes, the string is one token that ends with the quote
behind it, and a template that holds it as its only expression shows the text. -/
theorem compile_spelled [Text.Alphabet] {quote : Char} {text : String} {body : List Char}
    (hquote : quote = '\'' ∨ quote = '"') (h : Quoted.Spells quote text.toList body) :
    (∀ start rest, scan start (quote :: (body ++ quote :: rest)) =
      let literal := quote :: (body ++ [quote])
      let next := scan (start + Text.byteLength literal) rest
      ⟨.token ⟨.string, literal, ⟨start, start + Text.byteLength literal⟩⟩ next.tokens,
        literal ++ next.body, next.rest⟩) ∧
    ∀ parameters name before after, parameters.fault? = none →
      (∀ b ∈ before ++ after, Text.isBlank b) → ∃ t,
        compile ("$\x7b" ++ String.ofList (before ++ quote :: (body ++ quote :: after)) ++ "\x7d")
          parameters name = .ok t ∧
        ∀ store, t.render store = .ok text := by
  refine ⟨scan_string hquote h, fun parameters name before after hparameters hblanks => ?_⟩
  obtain ⟨tokens, region, hbody, he⟩ := exists_encloses_string hquote h hblanks
  have hclosed : before ++ quote :: (body ++ quote :: after) ++ ['}'] =
      before ++ quote :: (body ++ quote :: (after ++ ['}'])) := by simp
  rw [marker_source, hclosed]
  refine ⟨_, compile_marker hparameters hbody he, fun store => ?_⟩
  refine render_eq_ok_iff.2 ⟨[text.toList], ?_, ?_⟩
  · rw [String.ofList_toList]
    rfl
  · rw [List.flatten_singleton, String.ofList_toList]

/-- A quote, a letter by its number, the end of a line and the end of a marker. -/
theorem compile_spelled_quote :
    ∃ t, compile "$\x7b '\\'\\x41\\\n\\u\x7b42\x7d\x7d' \x7d" (.each []) none = .ok t ∧
      ∀ store, t.render store = .ok "'AB\x7d" := by
  have hnumeral : ∀ n < 16, ∀ m < 16, Quoted.HexNumeral [Nat.digitChar n, Nat.digitChar m]
      (n * 16 + m) := by
    intro n hn m hm
    have hfirst := Quoted.HexNumeral.snoc .nil ⟨hn, .inl rfl⟩
    rw [Nat.zero_mul, Nat.zero_add] at hfirst
    exact .snoc hfirst ⟨hm, .inl rfl⟩
  have hquote : Quoted.Spelling '\'' '\'' ['\\', '\''] := .quote
  have hbyte : Quoted.Spelling '\'' 'A' ['\\', 'x', '4', '1'] :=
    .numbered (.byte rfl (hnumeral 4 (by decide) 1 (by decide)))
  have hbraced : Quoted.Spelling '\'' 'B' ['\\', 'u', '{', '4', '2', '}'] :=
    .numbered (.braced (List.cons_ne_nil '4' ['2']) (hnumeral 4 (by decide) 2 (by decide)))
  have hbrace : Quoted.Spelling '\'' '}' ['}'] :=
    .plain (by decide) (by decide) (by decide) (by decide)
  have hspells : Quoted.Spells '\'' "'AB\x7d".toList "\\'\\x41\\\n\\u\x7b42\x7d\x7d".toList :=
    .char hquote (.char hbyte (.lineEnd .lf (.char hbraced (.char hbrace .nil))))
  have hblanks : ∀ b ∈ [' '] ++ [' '], Text.isBlank b := by
    simp [Text.isBlank]
  exact (compile_spelled (.inl rfl) hspells).2 (.each []) none [' '] [' '] (by cbv) hblanks

end Template

/-! ## Strings without a meaning -/

/-- What the value of a string is. -/
theorem literal?_string {t : Token} {quote : Char} {body : List Char} (hkind : t.kind = .string)
    (htext : t.text = quote :: (body ++ [quote])) :
    Parser.literal? t = some (match Quoted.decode? body with
      | some text => .ok (.string (String.ofList text))
      | none => .error ⟨.badEscape, t.region⟩) := by
  have hinside : t.text.tail.dropLast = body := by
    rw [htext]
    exact List.dropLast_concat
  unfold Parser.literal?
  rw [hkind]
  dsimp only
  rw [hinside]
  cases Quoted.decode? body <;> rfl

section Tokens

variable [Text.Alphabet] {start : Nat} {text chars : List Char} {tokens : TokenStream}
  {t : Token} {region : Region}

/-- A token stands in the text that it is read from, at its region. -/
theorem exists_append_of_mem_scan (ht : t ∈ (scan start text).tokens.toList) :
    ∃ front back, text = front ++ (t.text ++ back) ∧ t.region =
      ⟨start + Text.byteLength front, start + Text.byteLength front + Text.byteLength t.text⟩ := by
  obtain ⟨front, c, rest, more, rfl, -, htext, hregion⟩ := exists_first_of_mem_scan ht
  refine ⟨front, rest.drop more, ?_, hregion⟩
  rw [htext, List.cons_append, List.take_append_drop]

/-- A string stands between quotes. -/
theorem exists_quotes_of_mem_scan (ht : t ∈ (scan start text).tokens.toList)
    (hkind : t.kind = .string) :
    ∃ quote body, (quote = '\'' ∨ quote = '"') ∧ t.text = quote :: (body ++ [quote]) := by
  obtain ⟨_, c, rest, more, -, hfirst, htext, -⟩ := exists_first_of_mem_scan ht
  rw [hkind] at hfirst
  have hquote := Lexeme.quote_of_first_string hfirst
  obtain ⟨body, hbody⟩ :=
    Quoted.exists_take_of_length? ((Lexeme.first_quote hquote).1 hfirst).2
  exact ⟨c, body, hquote, htext.trans (congrArg (c :: ·) hbody)⟩

/-- The tokens of a marker are read from what stands behind its opening. -/
theorem Piece.exists_scan_of_mem (h : .marker tokens chars region ∈ ofTextAt start text) :
    ∃ before rest, text = before ++ '$' :: '{' :: rest ∧
      tokens = (scan (start + Text.byteLength before + 2) rest).tokens := by
  induction hlength : text.length using Nat.strongRecOn generalizing start text with
  | ind n ih =>
  subst hlength
  have happend := takeLiteral_append text
  match hliteral : takeLiteral text with
  | (lit, .endOfText) =>
    rw [ofTextAt_of_endOfText hliteral] at h
    exact absurd h (marker_not_mem_literals _ _)
  | (lit, .escape rest) =>
    rw [hliteral] at happend
    subst happend
    rw [ofTextAt_of_escape hliteral, List.mem_append, List.mem_cons] at h
    rcases h with h | ⟨⟨⟩⟩ | h
    · exact absurd h (marker_not_mem_literals _ _)
    obtain ⟨before, inside, rfl, htokens⟩ := ih _ (by simp [LiteralEnd.text]; omega) h rfl
    refine ⟨lit ++ '\\' :: '$' :: '{' :: before, inside, by simp [LiteralEnd.text], ?_⟩
    rw [htokens, Text.byteLength_append, byteLength_escape]
    congr 2
    omega
  | (lit, .opening rest) =>
    rw [hliteral] at happend
    subst happend
    rw [ofTextAt_of_opening hliteral, List.mem_append, List.mem_cons] at h
    rcases h with h | h | h
    · exact absurd h (marker_not_mem_literals _ _)
    · cases h
      exact ⟨lit, rest, rfl, rfl⟩
    · have hbody := scan_body_append_rest (start + Text.byteLength lit + 2) rest
      have hshorter := scan_rest_length_le (start + Text.byteLength lit + 2) rest
      obtain ⟨before, inside, hrest, htokens⟩ := ih _ (by simp [LiteralEnd.text]; omega) h rfl
      refine ⟨lit ++ ('$' :: '{' :: (scan (start + Text.byteLength lit + 2) rest).body) ++ before,
        inside, ?_, ?_⟩
      · rw [List.append_assoc, List.append_assoc, ← hrest, List.cons_append, List.cons_append,
          hbody]
        rfl
      · rw [htokens, Text.byteLength_append, Text.byteLength_append]
        congr 2
        omega

/-- The region of a token of a marker has the text of the token. -/
theorem Piece.slice?_of_mem (hmarker : .marker tokens chars region ∈ ofText text)
    (ht : t ∈ tokens.toList) : t.region.slice? text = some t.text := by
  obtain ⟨before, rest, rfl, rfl⟩ := exists_scan_of_mem hmarker
  obtain ⟨front, back, rfl, hregion⟩ := exists_append_of_mem_scan ht
  have hplace : 0 + Text.byteLength before + 2 + Text.byteLength front =
      Text.byteLength (before ++ '$' :: '{' :: front) := by
    rw [Text.byteLength_append, byteLength_opening]
    omega
  have hsplit : before ++ '$' :: '{' :: (front ++ (t.text ++ back)) =
      (before ++ '$' :: '{' :: front) ++ (t.text ++ back) := by simp
  rw [hregion, hplace, hsplit]
  exact Region.slice?_append _ t.text back

end Tokens

/-- All that is wrong with the pieces up to the token is that the token has no value: the pieces in
front of its marker can be read, and so can the front of the marker, where an expression has to
follow. Nothing is asked of what stands behind the token. -/
inductive Piece.FirstFault (t : Token) : List Piece → Prop where
  | intro {before after : List Piece} {front : List Token} {behind : TokenStream}
      {chars : List Char} {region : Region} :
      (∀ piece ∈ before, ∃ s, Segment.ofPiece piece = .ok s) → Expr.Awaits front →
      FirstFault t (before ++ .marker (.prepend front (.token t behind)) chars region :: after)

namespace Template

variable {source : String} {parameters : Parameters} {name : Option String}

/-- A template that does not compile is malformed. -/
theorem kind_of_compile_eq_error [Text.Alphabet] {d : Diagnostic}
    (h : compile source parameters name = .error d) :
    d.kind = .malformed := by
  unfold compile at h
  split at h
  · cases h
    exact Diagnostic.kind_inTemplate _ _
  · split at h
    · cases h
      exact Diagnostic.kind_inTemplate _ _
    · cases h

/-- The fault of a string is that of the template, if it is the first. -/
theorem compile_of_firstFault [Text.Alphabet] {t : Token} {fault : SyntaxFault}
    (hparameters : parameters.fault? = none) (hkind : t.kind = .string)
    (hfault : Parser.literal? t = some (.error fault))
    (h : Piece.FirstFault t (Piece.ofText source.toList)) :
    compile source parameters name = .error ((fault.diagnostic source).inTemplate name) := by
  generalize hpieces : Piece.ofText source.toList = pieces at h
  cases h with
  | @intro before after front behind chars region hbefore hawaits =>
  have hsegments : Segment.ofText source.toList = .error fault := by
    rw [Segment.ofText, hpieces]
    refine mapM_append_cons_eq_error hbefore ?_
    rw [Segment.ofPiece, hawaits.ofTokens_eq_error hkind hfault]
    rfl
  rw [compile, hparameters, hsegments]

/-- In a template that compiles, each string has a meaning. -/
theorem exists_literal?_eq_ok [Text.Alphabet] {t : Token} {tokens : TokenStream} {chars : List Char}
    {region : Region} {compiled : Template} (h : compile source parameters name = .ok compiled)
    (hmarker : .marker tokens chars region ∈ Piece.ofText source.toList) (ht : t ∈ tokens.toList)
    (hkind : t.kind = .string) : ∃ value, Parser.literal? t = some (.ok value) := by
  obtain ⟨-, segments, hsegments, -⟩ := compile_eq_ok_iff.1 h
  obtain ⟨before, after, hpieces⟩ := List.append_of_mem hmarker
  rw [Segment.ofText, hpieces] at hsegments
  obtain ⟨_, s, _, -, hs, -⟩ := mapM_append_cons_eq_ok_iff.1 hsegments
  obtain ⟨e, he, -⟩ := map_eq_ok_iff.1 hs
  obtain ⟨ts, closing, rfl, hderives, -⟩ := Expr.ofTokens_eq_ok_iff.1 he
  rw [TokenStream.toList_prepend, TokenStream.toList, List.append_nil] at ht
  obtain ⟨value, hvalue⟩ := hderives.exists_writes ht hkind
  exact ⟨value, Parser.literal?_of_writes hvalue⟩

/-- A string in a marker has a meaning exactly if what stands between its quotes is well formed in
front of a closing brace. If it has none, its fault points at it, the template does not compile, and
the fault is reported if there is none before it. -/
theorem compile_string [Text.Alphabet] {tokens : TokenStream} {chars : List Char} {region : Region}
    {t : Token} (hmarker : .marker tokens chars region ∈ Piece.ofText source.toList)
    (ht : t ∈ tokens.toList) (hkind : t.kind = .string) :
    ∃ quote body, (quote = '\'' ∨ quote = '"') ∧ t.text = quote :: (body ++ [quote]) ∧
      t.region.slice? source.toList = some t.text ∧
      ((∃ value, Parser.literal? t = some (.ok value)) ↔ Quoted.WellFormed (body ++ ['}'])) ∧
      (¬ Quoted.WellFormed (body ++ ['}']) →
        Parser.literal? t = some (.error ⟨.badEscape, t.region⟩) ∧
        (∃ d, compile source parameters name = .error d ∧ d.kind = .malformed) ∧
        (parameters.fault? = none → Piece.FirstFault t (Piece.ofText source.toList) →
          compile source parameters name =
            .error ((SyntaxFault.diagnostic ⟨.badEscape, t.region⟩ source).inTemplate name))) := by
  obtain ⟨quote, body, hquote, htext⟩ : ∃ quote body, (quote = '\'' ∨ quote = '"') ∧
      t.text = quote :: (body ++ [quote]) := by
    obtain ⟨before, rest, -, rfl⟩ := Piece.exists_scan_of_mem hmarker
    exact exists_quotes_of_mem_scan ht hkind
  have hvalue : (∃ value, Parser.literal? t = some (.ok value)) ↔
      Quoted.WellFormed (body ++ ['}']) := by
    rw [literal?_string hkind htext, ← Quoted.isSome_decode?_iff]
    cases Quoted.decode? body <;> simp
  refine ⟨quote, body, hquote, htext, Piece.slice?_of_mem hmarker ht, hvalue, fun hbad => ?_⟩
  have hfault : Parser.literal? t = some (.error ⟨.badEscape, t.region⟩) := by
    rw [← Quoted.isSome_decode?_iff, Option.not_isSome_iff_eq_none] at hbad
    rw [literal?_string hkind htext, hbad]
  refine ⟨hfault, ?_, fun hparameters => compile_of_firstFault hparameters hkind hfault⟩
  cases hcompile : compile source parameters name with
  | error d => exact ⟨d, rfl, kind_of_compile_eq_error hcompile⟩
  | ok compiled => exact absurd (hvalue.1 (exists_literal?_eq_ok hcompile hmarker ht hkind)) hbad

/-- An escape that lacks a digit, behind a parenthesis that is never closed. -/
theorem compile_string_short : ∃ tokens chars region t,
    .marker tokens chars region ∈ Piece.ofText "$\x7b('\\x4'\x7d".toList ∧ t ∈ tokens.toList ∧
      t.kind = .string ∧ compile "$\x7b('\\x4'\x7d" (.each []) none =
        .error (SyntaxFault.diagnostic ⟨.badEscape, t.region⟩ "$\x7b('\\x4'\x7d") := by
  let opening : Token := ⟨.openParen, ['('], ⟨2, 3⟩⟩
  let closing : Token := ⟨.closeParen, [')'], ⟨5, 6⟩⟩
  let literal : Token := ⟨.string, "'\\x4'".toList, ⟨3, 8⟩⟩
  let other : Token := ⟨.string, "''".toList, ⟨3, 5⟩⟩
  have hpieces : Piece.ofText "$\x7b('\\x4'\x7d".toList =
      [.marker (.prepend [opening] (.token literal (.close ⟨8, 9⟩)))
        "$\x7b('\\x4'\x7d".toList ⟨0, 9⟩] := by
    cbv
  have hmarker : .marker (.prepend [opening] (.token literal (.close ⟨8, 9⟩)))
      "$\x7b('\\x4'\x7d".toList ⟨0, 9⟩ ∈ Piece.ofText "$\x7b('\\x4'\x7d".toList := by
    rw [hpieces]
    exact List.mem_cons_self
  have hmem : literal ∈ (TokenStream.prepend [opening] (.token literal (.close ⟨8, 9⟩))).toList :=
    .tail _ (.head _)
  have hread : Expr.ofTokens
      (.prepend [opening] (.token other (.token closing (.close ⟨6, 7⟩)))) =
        .ok (.group (.literal (.string "") ⟨3, 5⟩) ⟨2, 6⟩) := by
    cbv
  have hfirst : Piece.FirstFault literal (Piece.ofText "$\x7b('\\x4'\x7d".toList) := by
    rw [hpieces]
    exact @Piece.FirstFault.intro literal [] [] [opening] _ _ _ (List.forall_mem_nil _)
      (Expr.awaits_of_ofTokens_eq_ok rfl hread)
  have hbad : ¬ Quoted.WellFormed ("\\x4".toList ++ ['}']) := by
    have hmeaning : Quoted.decode? "\\x4".toList = none := by cbv
    rw [← Quoted.isSome_decode?_iff, hmeaning]
    exact Bool.false_ne_true
  obtain ⟨quote, body, -, htext, -, -, hfails⟩ :=
    @compile_string "$\x7b('\\x4'\x7d" (.each []) none _ _ _ _ literal hmarker hmem rfl
  obtain rfl : "\\x4".toList = body := List.append_inj_left' (List.cons.inj htext).2 rfl
  obtain ⟨-, -, hreported⟩ := hfails hbad
  exact ⟨_, _, _, literal, hmarker, hmem, rfl, hreported (by cbv) hfirst⟩

/-- A number in braces is read without the closing brace if it ends the string, which is then not
well formed. -/
theorem compile_unclosed_number : ∃ tokens chars region t body,
    .marker tokens chars region ∈ Piece.ofText "$\x7b'\\u\x7b41'\x7d".toList ∧ t ∈ tokens.toList ∧
      t.kind = .string ∧ t.text = '\'' :: (body ++ ['\'']) ∧ ¬ Quoted.WellFormed body ∧
      Parser.literal? t = some (.ok (.string "A")) ∧
      ∃ compiled, compile "$\x7b'\\u\x7b41'\x7d" (.each []) none = .ok compiled := by
  let literal : Token := ⟨.string, "'\\u\x7b41'".toList, ⟨2, 9⟩⟩
  have hpieces : Piece.ofText "$\x7b'\\u\x7b41'\x7d".toList =
      [.marker (.token literal (.close ⟨9, 10⟩)) "$\x7b'\\u\x7b41'\x7d".toList ⟨0, 10⟩] := by
    cbv
  have hbad : ¬ Quoted.WellFormed ['\\', 'u', '{', '4', '1'] := by
    intro h
    obtain ⟨code, c, tail, hcode, hsplit, -⟩ := (Quoted.wellFormed_numbered_iff (.inr rfl)).1 h
    have hlength : 3 = code.length + tail.length := by
      rw [← List.length_append, ← hsplit]
      rfl
    have hbrace : '}' ∉ code := by
      intro hmem
      have hmem : '}' ∈ ['{', '4', '1'] := hsplit ▸ List.mem_append_left tail hmem
      exact absurd hmem (by decide)
    -- Three characters are too few for a number without braces, and the closing one is missing.
    generalize c.toNat = n at hcode
    cases hcode with
    | unit hfour _ => omega
    | braced => exact hbrace (by simp)
  have hmarker : .marker (.token literal (.close ⟨9, 10⟩)) "$\x7b'\\u\x7b41'\x7d".toList ⟨0, 10⟩ ∈
      Piece.ofText "$\x7b'\\u\x7b41'\x7d".toList := by
    rw [hpieces]
    exact List.mem_cons_self
  exact ⟨_, _, _, literal, _, hmarker, List.mem_cons_self, rfl, by cbv, hbad, by cbv, _, by cbv⟩

end Template

end TemplateLiteral
