import TemplateLiteral.Token.Lexeme

/-!
# The tokens of a marker

The tokens between the opening and the closing of a marker, with blank characters dropped.
Reading may stop before the marker is closed, since the text ends or no token can be read.
The fault is then not raised at once: it stands at the end of the stream, and arises when a
reader gets there.

## Main definitions

* `TokenStream`: tokens, and what stands after the last
* `Scan`, `scan`: the tokens of the marker that a text begins inside, and where it ends

## Main results

* `scan_body_append_rest`: scanning neither loses nor adds characters
-/

namespace TemplateLiteral

/-- Tokens in order, and what stands after them. -/
inductive TokenStream where
  /-- A token before others. -/
  | token (token : Token) (rest : TokenStream)
  /-- The brace that closes the marker. -/
  | close (region : Region)
  /-- The text ends. -/
  | endOfText (place : Nat)
  /-- No token can be read. -/
  | fault (fault : SyntaxFault)
deriving DecidableEq, Repr

/-- A text that begins inside a marker, cut at the end of the marker. -/
structure Scan where
  /-- The tokens of the marker. -/
  tokens : TokenStream
  /-- The text up to the end of the marker. -/
  body : List Char
  /-- The text after the marker. -/
  rest : List Char

variable [Text.Alphabet]

/-- The scan of a text that begins inside a marker, at the byte offset `start`. -/
def scan (start : Nat) (text : List Char) : Scan :=
  match text with
  | [] => ⟨.endOfText start, [], []⟩
  | c :: rest =>
    if Text.isBlank c then
      let next := scan (start + c.utf8Size) rest
      ⟨next.tokens, c :: next.body, next.rest⟩
    else if c = '}' then
      ⟨.close ⟨start, start + c.utf8Size⟩, [c], rest⟩
    else
      match Lexeme.first c rest with
      | .error (cause, more) =>
        ⟨.fault ⟨cause, ⟨start, start + Text.byteLength (c :: rest.take more)⟩⟩, c :: rest, []⟩
      | .ok (kind, more) =>
        let lexeme := c :: rest.take more
        let stop := start + Text.byteLength lexeme
        let next := scan stop (rest.drop more)
        ⟨.token ⟨kind, lexeme, ⟨start, stop⟩⟩ next.tokens, lexeme ++ next.body, next.rest⟩
termination_by text.length

/-- Scanning neither loses nor adds characters. -/
theorem scan_body_append_rest (start : Nat) (text : List Char) :
    (scan start text).body ++ (scan start text).rest = text := by
  fun_induction scan start text with
  | case1 => rfl
  | case2 start c rest _ next ih => simpa using ih
  | case3 => rfl
  | case4 => simp
  | case5 start c rest _ _ kind more _ lexeme stop next ih =>
    simp only [lexeme, List.append_assoc, List.cons_append]
    rw [ih, List.take_append_drop]

/-- What follows a marker is no longer than what follows its opening. -/
theorem scan_rest_length_le (start : Nat) (text : List Char) :
    (scan start text).rest.length ≤ text.length := by
  have h := congrArg List.length (scan_body_append_rest start text)
  rw [List.length_append] at h
  omega

end TemplateLiteral
