import TemplateLiteral.Proofs.Token.Prefix
import TemplateLiteral.Proofs.Token.Relocation

/-!
# Stretches of a marker

The tokens of a marker stand in its text one after the other, with nothing but blank characters
between them. What stands from the first to the last of some tokens in a row is a stretch of the
text, and a stretch is read as the same tokens if no token goes on with the character behind it, as
where the marker is closed there.

## Main definitions

* `Scans`: a stretch, as it is read in front of some text
* `Laid`: tokens that stand one after the other

## Main results

* `Scans.scan_eq`, `exists_scans`: stretches and what is scanned
* `scans_append_iff`: a stretch in two parts
* `Scans.laid`, `Scans.within`: where the tokens of a stretch lie
* `Scans.delimited`: a stretch in front of a character that no token goes on with
* `Scans.encloses`: a stretch in front of a closing brace
-/

namespace TemplateLiteral

/-- The text at the byte offset `start` is read as the tokens in front of `after`, and ends with
the last of them. -/
inductive Scans [Text.Alphabet] (after : List Char) : Nat → List Char → List Token → Prop where
  | nil {start : Nat} : Scans after start [] []
  | token {start : Nat} {blanks more text : List Char} {c : Char} {kind : TokenKind}
      {ts : List Token} :
      (∀ b ∈ blanks, Text.isBlank b) → ¬ Text.isBlank c → c ≠ '}' →
      Lexeme.first c (more ++ (text ++ after)) = .ok (kind, more.length) →
      Scans after (start + Text.byteLength blanks + Text.byteLength (c :: more)) text ts →
      Scans after start (blanks ++ (c :: more ++ text))
        (⟨kind, c :: more, ⟨start + Text.byteLength blanks,
          start + Text.byteLength blanks + Text.byteLength (c :: more)⟩⟩ :: ts)

/-- The tokens stand one after the other, and none is empty. -/
def Laid (ts : List Token) : Prop :=
  ts.Pairwise (fun t u => t.region.stop ≤ u.region.start) ∧
    ∀ t ∈ ts, t.region.start < t.region.stop

theorem Laid.sublist {ts us : List Token} (h : Laid ts) (hus : us.Sublist ts) : Laid us :=
  ⟨h.1.sublist hus, fun t ht => h.2 t (hus.subset ht)⟩

section Scanning

variable [Text.Alphabet] {start : Nat} {text after : List Char} {ts us : List Token}

/-- A stretch that begins with its first token. -/
theorem Scans.lexeme {c : Char} {kind : TokenKind} {more : List Char} (hblank : ¬ Text.isBlank c)
    (hbrace : c ≠ '}')
    (hfirst : Lexeme.first c (more ++ (text ++ after)) = .ok (kind, more.length))
    (hrest : Scans after (start + Text.byteLength (c :: more)) text ts) :
    Scans after start (c :: more ++ text)
      (⟨kind, c :: more, ⟨start, start + Text.byteLength (c :: more)⟩⟩ :: ts) :=
  @Scans.token _ after start [] more text c kind ts nofun hblank hbrace hfirst hrest

/-- A stretch that begins with a single sign. -/
theorem Scans.sign {sign : Char} {kind : TokenKind} (hblank : ¬ Text.isBlank sign)
    (hbrace : sign ≠ '}') (hfirst : Lexeme.first sign (text ++ after) = .ok (kind, 0))
    (hrest : Scans after (start + Text.byteLength [sign]) text ts) :
    Scans after start (sign :: text)
      (⟨kind, [sign], ⟨start, start + Text.byteLength [sign]⟩⟩ :: ts) :=
  @Scans.lexeme _ start text after ts sign kind [] hblank hbrace hfirst hrest

/-- A stretch that is one token. -/
theorem Scans.single {c : Char} {kind : TokenKind} {more : List Char} (hblank : ¬ Text.isBlank c)
    (hbrace : c ≠ '}') (hfirst : Lexeme.first c (more ++ after) = .ok (kind, more.length)) :
    Scans after start (c :: more)
      [⟨kind, c :: more, ⟨start, start + Text.byteLength (c :: more)⟩⟩] := by
  have hlexeme := @Scans.lexeme _ start [] after [] c kind more hblank hbrace hfirst .nil
  rwa [List.append_nil] at hlexeme

/-! ## Stretches and scanning -/

theorem scan_blanks {blanks : List Char} (hblanks : ∀ b ∈ blanks, Text.isBlank b) :
    scan start (blanks ++ text) =
      ⟨(scan (start + Text.byteLength blanks) text).tokens,
        blanks ++ (scan (start + Text.byteLength blanks) text).body,
        (scan (start + Text.byteLength blanks) text).rest⟩ := by
  induction blanks generalizing start with
  | nil => rfl
  | cons b blanks ih =>
    obtain ⟨hb, hblanks⟩ := List.forall_mem_cons.1 hblanks
    have hplace : start + Text.byteLength (b :: blanks) =
        start + b.utf8Size + Text.byteLength blanks := (Nat.add_assoc _ _ _).symm
    rw [List.cons_append, scan_blank start hb, ih hblanks, hplace]
    rfl

/-- A text that begins with a stretch is scanned as the tokens of the stretch, and then what stands
behind it is. -/
theorem Scans.scan_eq (h : Scans after start text ts) :
    scan start (text ++ after) =
      let next := scan (start + Text.byteLength text) after
      ⟨next.tokens.prepend ts, text ++ next.body, next.rest⟩ := by
  induction h with
  | nil => rfl
  | @token start blanks more text c kind ts hblanks hblank hbrace hfirst _ ih =>
    have hplace : start + Text.byteLength (blanks ++ c :: (more ++ text)) =
        start + Text.byteLength blanks + Text.byteLength (c :: more) + Text.byteLength text := by
      simp only [Text.byteLength_append, Text.byteLength_cons]
      omega
    have htake : (more ++ (text ++ after)).take more.length = more := List.take_left' rfl
    have hdrop : (more ++ (text ++ after)).drop more.length = text ++ after := List.drop_left' rfl
    rw [List.append_assoc, scan_blanks hblanks, List.cons_append, List.cons_append,
      List.append_assoc, scan_lexeme _ hblank hbrace hfirst]
    dsimp only
    rw [htake, hdrop, ih, hplace]
    simp only [TokenStream.prepend_cons, List.append_assoc, List.cons_append]

/-- A blank character in front of a stretch belongs to it, if there is a token in the stretch. -/
theorem Scans.cons_blank {c : Char} (hblank : Text.isBlank c) (hts : ts ≠ [])
    (h : Scans after (start + c.utf8Size) text ts) : Scans after start (c :: text) ts := by
  cases h with
  | nil => exact absurd rfl hts
  | @token _ blanks more text d kind ts hblanks hd hbrace hfirst hrest =>
    have hplace : start + c.utf8Size + Text.byteLength blanks =
        start + Text.byteLength (c :: blanks) := Nat.add_assoc _ _ _
    rw [hplace] at hrest ⊢
    exact .token (List.forall_mem_cons.2 ⟨hblank, hblanks⟩) hd hbrace hfirst hrest

/-- The first tokens of a text are read from a stretch that it begins with, and the others from
what stands behind the stretch. -/
theorem exists_scans {tail : TokenStream} (h : (scan start text).tokens = tail.prepend ts) :
    ∃ front after, text = front ++ after ∧ Scans after start front ts ∧
      (scan (start + Text.byteLength front) after).tokens = tail := by
  by_cases hts : ts = []
  · subst hts
    exact ⟨[], text, rfl, .nil, h⟩
  obtain ⟨t, ts, rfl⟩ := List.exists_cons_of_ne_nil hts
  fun_induction scan start text generalizing t ts with
  | case1 => cases h
  | case2 start c rest hblank next ih =>
    -- Blank characters belong to the token behind them, and there is one.
    obtain ⟨front, after, rfl, hfront, htail⟩ := ih t ts h hts
    refine ⟨c :: front, after, rfl, hfront.cons_blank hblank hts, ?_⟩
    rw [Text.byteLength_cons, ← Nat.add_assoc]
    exact htail
  | case3 => cases h
  | case4 => cases h
  | case5 start c rest hblank hbrace kind more hfirst lexeme stop next ih =>
    obtain ⟨rfl, htokens⟩ := TokenStream.token.inj h
    have hmore : (rest.take more).length = more :=
      List.length_take_of_le (Lexeme.more_le_of_first hfirst)
    have hrest : ∃ front after, rest.drop more = front ++ after ∧ Scans after stop front ts ∧
        (scan (stop + Text.byteLength front) after).tokens = tail := by
      cases ts with
      | nil => exact ⟨[], rest.drop more, rfl, .nil, htokens⟩
      | cons u ts => exact ih u ts htokens (List.cons_ne_nil u ts)
    obtain ⟨front, after, hsplit, hfront, htail⟩ := hrest
    have hfirst' : Lexeme.first c (rest.take more ++ (front ++ after)) =
        .ok (kind, (rest.take more).length) := by
      rw [← hsplit, List.take_append_drop, hmore]
      exact hfirst
    refine ⟨lexeme ++ front, after, ?_, .lexeme hblank hbrace hfirst' hfront, ?_⟩
    · rw [List.append_assoc, ← hsplit]
      exact congrArg (c :: ·) (List.take_append_drop more rest).symm
    · rw [Text.byteLength_append, ← Nat.add_assoc]
      exact htail

/-- A stretch with the tokens of two lists in a row is a stretch for each of them. -/
theorem scans_append_iff : Scans after start text (ts ++ us) ↔ ∃ front back,
    text = front ++ back ∧ Scans (back ++ after) start front ts ∧
      Scans after (start + Text.byteLength front) back us := by
  constructor
  · intro h
    induction ts generalizing start text with
    | nil => exact ⟨[], text, rfl, .nil, h⟩
    | cons t ts ih =>
      cases h with
      | @token _ blanks more text c kind _ hblanks hblank hbrace hfirst hrest =>
      obtain ⟨front, back, rfl, hfront, hback⟩ := ih hrest
      rw [List.append_assoc] at hfirst
      refine ⟨_, back, ?_, .token hblanks hblank hbrace hfirst hfront, ?_⟩
      · simp only [List.append_assoc]
      · simp only [Text.byteLength_append, ← Nat.add_assoc] at hback ⊢
        exact hback
  · intro h
    obtain ⟨front, back, rfl, hfront, hback⟩ := h
    induction hfront with
    | nil => exact hback
    | @token start blanks more text c kind ts hblanks hblank hbrace hfirst hrest ih =>
      have hplace : start + Text.byteLength (blanks ++ (c :: more ++ text)) =
          start + Text.byteLength blanks + Text.byteLength (c :: more) + Text.byteLength text := by
        simp only [Text.byteLength_append]
        omega
      rw [hplace] at hback
      have hfirst' : Lexeme.first c (more ++ ((text ++ back) ++ after)) =
          .ok (kind, more.length) := by
        rw [List.append_assoc]
        exact hfirst
      have hwhole := Scans.token hblanks hblank hbrace hfirst' (ih hback)
      rw [List.append_assoc, List.append_assoc]
      exact hwhole

/-- At another place a stretch is read as the same tokens, moved. -/
theorem Scans.relocate {φ : Nat → Nat} (h : Scans after start text ts) (hφ : Shifts φ start) :
    Scans after (φ start) text (ts.map (Token.relocate φ)) := by
  induction h with
  | nil => exact .nil
  | @token start blanks more text c kind ts hblanks hblank hbrace hfirst _ ih =>
    have hnext := hφ.add (Text.byteLength blanks)
    have hrest := ih (hnext.add (Text.byteLength (c :: more)))
    rw [hnext, hφ] at hrest
    have hmoved := Scans.token hblanks hblank hbrace hfirst hrest
    rw [List.map_cons, Token.relocate, Region.relocate, hnext, hφ]
    exact hmoved

/-- In front of its first token a stretch has blank characters only. -/
theorem Scans.exists_trim {t : Token} (h : Scans after start text (t :: ts)) :
    ∃ blanks core, text = blanks ++ core ∧ t.region.start = start + Text.byteLength blanks ∧
      Scans after t.region.start core (t :: ts) := by
  cases h with
  | @token _ blanks more text c kind _ hblanks hblank hbrace hfirst hrest =>
  exact ⟨blanks, c :: more ++ text, rfl, rfl, .lexeme hblank hbrace hfirst hrest⟩

/-! ## Where tokens lie -/

/-- The tokens of a stretch lie in it. -/
theorem Scans.within (h : Scans after start text ts) : ∀ t ∈ ts,
    start ≤ t.region.start ∧ t.region.start < t.region.stop ∧
      t.region.stop ≤ start + Text.byteLength text := by
  induction h with
  | nil => exact nofun
  | @token start blanks more text c kind ts _ _ _ _ _ ih =>
    have hpos := c.utf8Size_pos
    simp only [Text.byteLength_append, Text.byteLength_cons] at ih ⊢
    intro t ht
    rcases List.mem_cons.1 ht with rfl | ht
    · dsimp only
      omega
    · have := ih t ht
      omega

/-- The tokens of a stretch stand one after the other. -/
theorem Scans.laid (h : Scans after start text ts) : Laid ts := by
  refine ⟨?_, fun t ht => (h.within t ht).2.1⟩
  induction h with
  | nil => exact .nil
  | token _ _ _ _ hrest ih =>
    exact List.pairwise_cons.2 ⟨fun u hu => (hrest.within u hu).1, ih⟩

/-- A stretch ends with the text of its last token, and the token knows where that begins. -/
theorem Scans.exists_last {t : Token} (h : Scans after start text (ts ++ [t])) :
    ∃ front, text = front ++ t.text ∧ t.region = ⟨start + Text.byteLength front,
      start + Text.byteLength front + Text.byteLength t.text⟩ := by
  obtain ⟨front, back, rfl, -, hback⟩ := scans_append_iff.1 h
  cases hback with
  | @token _ blanks more text c kind _ _ _ _ _ hrest =>
    cases hrest
    refine ⟨front ++ blanks, by simp, ?_⟩
    rw [Text.byteLength_append, ← Nat.add_assoc]

theorem Scans.stop_eq {t : Token} (h : Scans after start text (ts ++ [t])) :
    t.region.stop = start + Text.byteLength text := by
  obtain ⟨front, rfl, hregion⟩ := h.exists_last
  rw [hregion, Text.byteLength_append, Nat.add_assoc]

/-! ## Stretches in front of what stops them -/

theorem Lexeme.first_question_of_startsWithDigit {digits : List Char}
    (h : startsWithDigit digits) : first '?' ('.' :: digits) = .ok (.question, 0) := by
  have hsign : operator? '?' ('.' :: digits) = some (.question, 0) := by
    simp [operator?, signs, begins, h]
  exact first_of_operator? rfl hsign

/-- No stretch ends between the point of an optional link and a digit, since a number begins with
the point. -/
theorem Scans.not_splitsLink {c : Char} {kind : TokenKind} {more : List Char}
    (hfirst : Lexeme.first c (more ++ (text ++ after)) = .ok (kind, more.length))
    (h : Scans after start text ts) : ¬ Lexeme.SplitsLink c (more ++ text) after := by
  rintro ⟨rfl, htext, hdigit⟩
  have hquestion := Lexeme.first_question_of_startsWithDigit hdigit
  rw [← List.append_assoc, htext, List.singleton_append, hquestion] at hfirst
  obtain ⟨-, hmore⟩ := Prod.mk.inj (Except.ok.inj hfirst)
  obtain rfl := List.eq_nil_of_length_eq_zero hmore.symm
  rw [List.nil_append] at htext
  subst htext
  -- What is left of the stretch is the point, and the token that begins with it is longer.
  generalize hpoint : ['.'] = point at h
  cases h with
  | nil => cases hpoint
  | @token _ blanks more text c _ ts hblanks _ _ hfirst _ =>
    have hblanks : blanks = [] := by
      cases blanks with
      | nil => rfl
      | cons b blanks =>
        obtain ⟨rfl, -⟩ := List.cons.inj hpoint
        exact absurd (hblanks '.' List.mem_cons_self) (by decide)
    subst hblanks
    obtain ⟨rfl, hnil⟩ := List.cons.inj hpoint
    obtain ⟨rfl, rfl⟩ := List.append_eq_nil_iff.1 hnil.symm
    have htwo := Lexeme.two_le_length_of_point hdigit
    rw [List.nil_append, List.nil_append, Lexeme.first, hdigit] at hfirst
    obtain ⟨-, hlength⟩ := Prod.mk.inj (Except.ok.inj hfirst)
    rw [List.length_nil] at hlength
    omega

/-- A stretch is read as the same tokens in front of a character that none of them goes on with. -/
theorem Scans.delimited {b : Char} (hb : Lexeme.Delimits b) (h : Scans after start text ts)
    (rest : List Char) : Scans (b :: rest) start text ts := by
  induction h with
  | nil => exact .nil
  | @token start blanks more text c kind ts hblanks hblank hbrace hfirst hrest ih =>
    have hcut := Scans.not_splitsLink hfirst hrest
    rw [← List.append_assoc] at hfirst
    -- The token is read in the stretch alone, and then in front of what stops it.
    have hlength : more.length ≤ (more ++ text).length := by
      rw [List.length_append]
      exact Nat.le_add_right _ _
    have hinside := Lexeme.first_of_first_append hfirst hlength hcut
    have hstopped : Lexeme.first c (more ++ text ++ b :: rest) = .ok (kind, more.length) :=
      ((Lexeme.first_append_iff_of_delimits hb).2 hinside).1
    rw [List.append_assoc] at hstopped
    exact .token hblanks hblank hbrace hstopped ih

theorem Scans.stopped {b : Char} (hb : Lexeme.Stops b) (h : Scans after start text ts)
    (rest : List Char) : Scans (b :: rest) start text ts :=
  h.delimited hb.delimits rest

/-- A stretch and a closing brace are the inside of a marker. -/
theorem Scans.encloses (h : Scans after start text ts) :
    Encloses start (text ++ ['}']) (TokenStream.prepend ts (.close
      ⟨start + Text.byteLength text, start + Text.byteLength text + 1⟩)) := by
  refine ⟨(TokenStream.closes_prepend _ _).2 trivial, fun rest => ?_⟩
  have hclosed := h.stopped Lexeme.stops_closingBrace rest
  rw [List.append_assoc, List.singleton_append, hclosed.scan_eq, scan_closingBrace]

end Scanning

end TemplateLiteral
