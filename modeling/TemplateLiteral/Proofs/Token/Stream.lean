import TemplateLiteral.Proofs.Expr.Grammar
import TemplateLiteral.Proofs.Token.Lexeme
import TemplateLiteral.Token.Stream

/-!
# What a marker is made of

A marker that is closed is read by its own text alone. Whatever stands after its closing brace, the
same tokens are read and the same brace closes it. A brace inside a string is part of the token, so
this holds of markers with any strings in them.

## Main definitions

* `TokenStream.Closes`: the stream ends with the brace that closes its marker
* `Encloses`: the tokens of a closed marker, in front of any text

## Main results

* `encloses_of_closes`: a closed marker does not depend on what stands after it
* `read?_isSome_of_mem_scan`: a number is read from every numeral in a marker
-/

namespace TemplateLiteral

namespace TokenStream

/-- The marker is closed after the tokens of the stream. -/
def Closes : TokenStream → Prop
  | token _ rest => rest.Closes
  | close _ => True
  | endOfText _ => False
  | fault _ => False

instance decidableCloses : (tokens : TokenStream) → Decidable tokens.Closes
  | token _ rest => decidableCloses rest
  | close _ => .isTrue trivial
  | endOfText _ => .isFalse id
  | fault _ => .isFalse id

@[simp] theorem closes_prepend (ts : List Token) (rest : TokenStream) :
    (prepend ts rest).Closes ↔ rest.Closes := by
  induction ts with
  | nil => rfl
  | cons t ts ih => exact ih

/-- The tokens of a stream. -/
def toList : TokenStream → List Token
  | token t rest => t :: rest.toList
  | close _ | endOfText _ | fault _ => []

theorem toList_prepend (ts : List Token) (rest : TokenStream) :
    (prepend ts rest).toList = ts ++ rest.toList := by
  induction ts with
  | nil => rfl
  | cons t ts ih => exact congrArg (t :: ·) ih

end TokenStream

/-! ## Scanning step by step -/

section Steps

variable [Text.Alphabet] {c : Char} {rest : List Char} (start : Nat)

theorem scan_nil : scan start [] = ⟨.endOfText start, [], []⟩ := by
  rw [scan.eq_def]

theorem scan_blank (hblank : Text.isBlank c) :
    scan start (c :: rest) =
      ⟨(scan (start + c.utf8Size) rest).tokens, c :: (scan (start + c.utf8Size) rest).body,
        (scan (start + c.utf8Size) rest).rest⟩ := by
  rw [scan, if_pos hblank]

theorem scan_closingBrace :
    scan start ('}' :: rest) = ⟨.close ⟨start, start + 1⟩, ['}'], rest⟩ := by
  rw [scan.eq_def]
  rfl

theorem scan_lexeme {kind : TokenKind} {more : Nat} (hblank : ¬ Text.isBlank c) (hbrace : c ≠ '}')
    (hfirst : Lexeme.first c rest = .ok (kind, more)) :
    scan start (c :: rest) =
      let lexeme := c :: rest.take more
      let stop := start + Text.byteLength lexeme
      let next := scan stop (rest.drop more)
      ⟨.token ⟨kind, lexeme, ⟨start, stop⟩⟩ next.tokens, lexeme ++ next.body, next.rest⟩ := by
  rw [scan.eq_def]
  dsimp only
  rw [if_neg hblank, if_neg hbrace, hfirst]

theorem scan_fault {cause : SyntaxFault.Cause} {more : Nat} (hblank : ¬ Text.isBlank c)
    (hbrace : c ≠ '}') (hfirst : Lexeme.first c rest = .error (cause, more)) :
    scan start (c :: rest) =
      ⟨.fault ⟨cause, ⟨start, start + Text.byteLength (c :: rest.take more)⟩⟩, c :: rest, []⟩ := by
  rw [scan.eq_def]
  dsimp only
  rw [if_neg hblank, if_neg hbrace, hfirst]

end Steps

/-! ## Closed markers -/

/-- In front of any text, the text is the inside of a marker with the given tokens, up to its
closing brace. -/
def Encloses [Text.Alphabet] (start : Nat) (body : List Char) (tokens : TokenStream) : Prop :=
  tokens.Closes ∧ ∀ rest, scan start (body ++ rest) = ⟨tokens, body, rest⟩

/-- The inside of a closed marker ends with its closing brace. -/
theorem body_eq_append_of_closes [Text.Alphabet] {start : Nat} {text : List Char}
    (h : (scan start text).tokens.Closes) : ∃ inner, (scan start text).body = inner ++ ['}'] := by
  -- A stream that ends with the text or with a fault does not close.
  fun_induction scan start text with
  | case1 => cases h
  | case2 start c rest _ next ih =>
    obtain ⟨inner, hinner⟩ := ih h
    exact ⟨c :: inner, congrArg (c :: ·) hinner⟩
  | case3 => exact ⟨[], rfl⟩
  | case4 => cases h
  | case5 start c rest _ _ kind more _ lexeme stop next ih =>
    obtain ⟨inner, hinner⟩ := ih h
    exact ⟨lexeme ++ inner, by rw [hinner, List.append_assoc]⟩

/-- A closed marker does not depend on what stands after it. -/
theorem encloses_of_closes [Text.Alphabet] {start : Nat} {text : List Char}
    (h : (scan start text).tokens.Closes) :
    Encloses start (scan start text).body (scan start text).tokens := by
  refine ⟨h, fun after => ?_⟩
  fun_induction scan start text with
  | case1 => cases h
  | case2 start c rest hblank next ih =>
    rw [List.cons_append, scan_blank start hblank, ih h]
  | case3 start rest => exact scan_closingBrace start
  | case4 => cases h
  | case5 start c rest hblank hbrace kind more hfirst lexeme stop next ih =>
    -- The rest of the marker ends with a brace, since no other end is a closing.
    obtain ⟨inner, hinner⟩ := body_eq_append_of_closes h
    have hmore := Lexeme.more_le_of_first hfirst
    have htake : (rest.take more).length = more := List.length_take_of_le hmore
    -- The token lies before the closing brace, and so does all of the text that it depends on.
    have hsplit : rest = (rest.take more ++ inner) ++ '}' :: next.rest := by
      have hrest := scan_body_append_rest stop (rest.drop more)
      rw [hinner, List.append_assoc] at hrest
      rw [List.append_assoc]
      exact (List.take_append_drop more rest).symm.trans (congrArg (rest.take more ++ ·) hrest.symm)
    have hwhole : Lexeme.first c ((rest.take more ++ inner) ++ '}' :: next.rest) =
        .ok (kind, more) := by
      rw [← hsplit]
      exact hfirst
    have hlies : more ≤ (rest.take more ++ inner).length := by
      rw [List.length_append, htake]
      exact Nat.le_add_right more _
    have hinside := (Lexeme.first_append_iff Lexeme.stops_closingBrace).1 ⟨hwhole, hlies⟩
    have hafter : rest.take more ++ (next.body ++ after) =
        (rest.take more ++ inner) ++ '}' :: after := by
      rw [hinner]
      simp only [List.append_assoc, List.singleton_append]
    have hagain : Lexeme.first c (rest.take more ++ (next.body ++ after)) = .ok (kind, more) := by
      rw [hafter]
      exact ((Lexeme.first_append_iff Lexeme.stops_closingBrace).2 hinside).1
    -- So the same token comes first, and the same text is left after it.
    have htakeAgain : (rest.take more ++ (next.body ++ after)).take more = rest.take more :=
      List.take_left' htake
    have hdropAgain : (rest.take more ++ (next.body ++ after)).drop more = next.body ++ after :=
      List.drop_left' htake
    rw [List.append_assoc, List.cons_append, scan_lexeme start hblank hbrace hagain]
    dsimp only
    rw [htakeAgain, hdropAgain, ih h]

theorem Encloses.body_eq_append [Text.Alphabet] {start : Nat} {body : List Char}
    {tokens : TokenStream} (h : Encloses start body tokens) : ∃ inner, body = inner ++ ['}'] := by
  have hscan := h.2 []
  have hcloses : (scan start (body ++ [])).tokens.Closes := by
    rw [hscan]
    exact h.1
  obtain ⟨inner, hinner⟩ := body_eq_append_of_closes hcloses
  rw [hscan] at hinner
  exact ⟨inner, hinner⟩

/-! ## The tokens of a text -/

section Tokens

variable {start : Nat} {text : List Char} {t : Token}

/-- A token of a text is the first one of what stands at its place. -/
theorem exists_first_of_mem_scan [Text.Alphabet] (ht : t ∈ (scan start text).tokens.toList) :
    ∃ front c rest more, text = front ++ c :: rest ∧ Lexeme.first c rest = .ok (t.kind, more) ∧
      t.text = c :: rest.take more ∧
      t.region = ⟨start + Text.byteLength front,
        start + Text.byteLength front + Text.byteLength t.text⟩ := by
  fun_induction scan start text with
  | case1 => cases ht
  | case2 start c rest _ next ih =>
    obtain ⟨front, d, behind, more, rfl, hfirst, htext, hregion⟩ := ih ht
    refine ⟨c :: front, d, behind, more, rfl, hfirst, htext, ?_⟩
    rw [hregion, Text.byteLength_cons, Nat.add_assoc]
  | case3 => cases ht
  | case4 => cases ht
  | case5 start c rest _ _ kind more hfirst lexeme stop next ih =>
    rcases List.mem_cons.1 ht with rfl | ht
    · exact ⟨[], c, rest, more, rfl, hfirst, rfl, rfl⟩
    · obtain ⟨front, d, behind, more', hrest, hfirst', htext, hregion⟩ := ih ht
      refine ⟨lexeme ++ front, d, behind, more', ?_, hfirst', htext, ?_⟩
      · rw [List.append_assoc, ← hrest]
        exact congrArg (c :: ·) (List.take_append_drop more rest).symm
      · rw [hregion, Text.byteLength_append, Nat.add_assoc]

/-- A number is read from every numeral in a marker. -/
theorem read?_isSome_of_mem_scan [Text.Alphabet] (ht : t ∈ (scan start text).tokens.toList)
    (hkind : t.kind = .number) : (Number.Numeral.read? t.text).isSome := by
  obtain ⟨front, c, rest, more, -, hfirst, htext, -⟩ := exists_first_of_mem_scan ht
  rw [hkind] at hfirst
  obtain ⟨hbegins, htake⟩ := Lexeme.begins_of_first_number hfirst
  rw [htext, htake]
  exact Number.Numeral.read?_take_length hbegins

end Tokens

end TemplateLiteral
