import TemplateLiteral.Token.Stream

/-!
# The pieces of a template

A template is literal text with markers in it. `$` and a brace open a marker, unless an odd
number of backslashes stands before them: then the last of these is dropped and the two signs
are literal. All other backslashes stay. Where the marker ends is decided by the tokens in it,
so that a brace in a string does not close it.

Literal text is read from the left: a backslash before `$` and a brace escapes them, two
backslashes are taken together, so that the second escapes nothing, and everything else is
taken character by character.

## Main definitions

* `LiteralEnd`, `takeLiteral`: the literal text at the beginning of a template
* `Piece`, `Piece.ofText`: the pieces of a template in order

## Main results

* `takeLiteral_append`: nothing is lost of the text
-/

namespace TemplateLiteral

/-! ## Literal text -/

/-- What ends literal text. -/
inductive LiteralEnd where
  /-- The end of the template. -/
  | endOfText
  /-- The opening of a marker that a backslash makes literal. -/
  | escape (rest : List Char)
  /-- The opening of a marker. -/
  | opening (rest : List Char)
deriving DecidableEq, Repr

/-- The text that a literal text ends with. -/
def LiteralEnd.text : LiteralEnd → List Char
  | .endOfText => []
  | .escape rest => '\\' :: '$' :: '{' :: rest
  | .opening rest => '$' :: '{' :: rest

/-- The literal text at the beginning of a template, and what ends it. -/
def takeLiteral : List Char → List Char × LiteralEnd
  | [] => ([], .endOfText)
  | '\\' :: '$' :: '{' :: rest => ([], .escape rest)
  | '\\' :: '\\' :: rest =>
    let (text, ending) := takeLiteral rest
    ('\\' :: '\\' :: text, ending)
  | '$' :: '{' :: rest => ([], .opening rest)
  | c :: rest =>
    let (text, ending) := takeLiteral rest
    (c :: text, ending)

/-- Nothing is lost of the text. -/
theorem takeLiteral_append (text : List Char) :
    (takeLiteral text).1 ++ (takeLiteral text).2.text = text := by
  fun_induction takeLiteral text with
  | case1 => rfl
  | case2 rest => rfl
  | case3 rest literal ending h ih => simpa [h] using ih
  | case4 rest => rfl
  | case5 c rest _ _ _ literal ending h ih => simpa [h] using ih

/-! ## Pieces -/

/-- A piece of a template. -/
inductive Piece where
  /-- Literal text. -/
  | literal (text : List Char) (region : Region)
  /-- A marker: its tokens, and all of its text from the opening to the closing. -/
  | marker (tokens : TokenStream) (text : List Char) (region : Region)
deriving DecidableEq, Repr

namespace Piece

/-- Literal text as a piece, if there is any. -/
def literals (start : Nat) (text : List Char) : List Piece :=
  if text.isEmpty then [] else [.literal text ⟨start, start + Text.byteLength text⟩]

/-- The pieces of a text at the byte offset `start`. -/
def ofTextAt [Text.Alphabet] (start : Nat) (text : List Char) : List Piece :=
  match _h : takeLiteral text with
  | (before, .endOfText) => literals start before
  | (before, .escape rest) =>
    -- The backslash lies between the two literals, and belongs to neither.
    let place := start + Text.byteLength before + 1
    literals start before ++
      .literal ['$', '{'] ⟨place, place + 2⟩ :: ofTextAt (place + 2) rest
  | (before, .opening rest) =>
    let place := start + Text.byteLength before
    let inside := scan (place + 2) rest
    let marker := '$' :: '{' :: inside.body
    let stop := place + Text.byteLength marker
    literals start before ++ .marker inside.tokens marker ⟨place, stop⟩ ::
      ofTextAt stop inside.rest
termination_by text.length
decreasing_by
  all_goals
    have h := congrArg List.length (takeLiteral_append text)
    rw [_h] at h
    simp only [LiteralEnd.text, List.length_append, List.length_cons] at h
  · omega
  · have := scan_rest_length_le (start + Text.byteLength before + 2) rest
    omega

/-- The pieces of a template. -/
def ofText [Text.Alphabet] (text : List Char) : List Piece :=
  ofTextAt 0 text

end Piece

end TemplateLiteral
