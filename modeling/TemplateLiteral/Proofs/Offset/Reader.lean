import TemplateLiteral.Expr.Parser
import TemplateLiteral.Proofs.Offset.Stream

/-!
# Reading expressions by byte offsets

Expressions that know where their names stand, but not what they are called, and a reader of them
that takes slices of the source: of a numeral and what follows the sign of its radix, of a string
and what stands between its quotes, and of a word that it reports. Every slice succeeds, and the
reader does what the reader of tokens with texts does. What it reports is at a region that fits.

## Main definitions

* `Offset.Tree`, `Offset.Denotes`: expressions by regions, and the expression that one is
* `Offset.Reader.expression`, and below it one function to a level of the grammar
* `Offset.Tree.ofTokens`: the expression of a marker

## Main results

* `Offset.Reader.expression_agrees`, `Offset.Tree.ofTokens_agrees`
-/

namespace TemplateLiteral.Offset

/-! ## Expressions without names -/

/-- An expression whose names are the regions that they stand at. -/
inductive Tree where
  | literal (value : Literal) (region : Region)
  | name (region : Region)
  | member (receiver : Tree) (name : Region) (optional : Bool) (region : Region)
  | index (receiver : Tree) (index : Tree) (optional : Bool) (region : Region)
  | unary (operator : UnaryOperator) (operand : Tree) (region : Region)
  | binary (operator : BinaryOperator) (left right : Tree) (region : Region)
  | conditional (test yes no : Tree) (region : Region)
  | group (inner : Tree) (region : Region)

namespace Tree

/-- The region that an expression was read from. -/
def region : Tree → Region
  | .literal _ r | .name r | .member _ _ _ r | .index _ _ _ r | .unary _ _ r
  | .binary _ _ _ r | .conditional _ _ _ r | .group _ r => r

/-- The operator at the top of an expression that is not in parentheses. -/
def operator? : Tree → Option BinaryOperator
  | .binary operator _ _ _ => some operator
  | _ => none

/-- The operator may not have the expression as an operand without parentheses. -/
def clashesWith (operand : Tree) (operator : BinaryOperator) : Bool :=
  operand.operator?.any operator.clashes

end Tree

/-- The tree is the expression, with the texts of its regions for names. -/
inductive Denotes (source : List Char) : Tree → Expr → Prop where
  | literal {value : Literal} {r : Region} : Fits source r →
      Denotes source (.literal value r) (.literal value r)
  | name {text : List Char} {r : Region} : Fits source r → r.slice? source = some text →
      Denotes source (.name r) (.name (String.ofList text) r)
  | member {receiver : Tree} {receiver' : Expr} {text : List Char} {name r : Region}
      {optional : Bool} : Fits source r → Denotes source receiver receiver' →
      name.slice? source = some text →
      Denotes source (.member receiver name optional r)
        (.member receiver' (String.ofList text) name optional r)
  | index {receiver index : Tree} {receiver' index' : Expr} {r : Region} {optional : Bool} :
      Fits source r → Denotes source receiver receiver' → Denotes source index index' →
      Denotes source (.index receiver index optional r) (.index receiver' index' optional r)
  | unary {operator : UnaryOperator} {operand : Tree} {operand' : Expr} {r : Region} :
      Fits source r → Denotes source operand operand' →
      Denotes source (.unary operator operand r) (.unary operator operand' r)
  | binary {operator : BinaryOperator} {left right : Tree} {left' right' : Expr} {r : Region} :
      Fits source r → Denotes source left left' → Denotes source right right' →
      Denotes source (.binary operator left right r) (.binary operator left' right' r)
  | conditional {test yes no : Tree} {test' yes' no' : Expr} {r : Region} : Fits source r →
      Denotes source test test' → Denotes source yes yes' → Denotes source no no' →
      Denotes source (.conditional test yes no r) (.conditional test' yes' no' r)
  | group {inner : Tree} {inner' : Expr} {r : Region} : Fits source r →
      Denotes source inner inner' → Denotes source (.group inner r) (.group inner' r)

section Denotes

variable {source : List Char} {tree : Tree} {e : Expr}

theorem Denotes.region_eq (h : Denotes source tree e) : tree.region = e.region := by
  cases h <;> rfl

theorem Denotes.fits (h : Denotes source tree e) : Fits source e.region := by
  cases h <;> assumption

theorem Denotes.clashesWith_eq (h : Denotes source tree e) (op : BinaryOperator) :
    tree.clashesWith op = e.clashesWith op := by
  cases h <;> rfl

end Denotes

/-! ## Literals -/

/-- The double of a numeral, with a slice behind the sign of its radix. -/
def number? (window : List Char) : Option (Option Float) :=
  match Region.slice? ⟨0, 2⟩ window with
  | some ['0', 'x'] | some ['0', 'X'] =>
    (from? window 2).map Number.Numeral.readHexadecimal?
  | _ => some (Number.readNumeral? window)

/-- What stands between the first and the last byte of a text. -/
def between? (window : List Char) : Option (List Char) := do
  Region.slice? ⟨1, ← sub? (Text.byteLength window) 1⟩ window

/-- A slice from the beginning is what the text begins with. -/
theorem exists_append_of_slice?_zero {n : Nat} {text xs : List Char}
    (h : Region.slice? ⟨0, n⟩ text = some xs) : ∃ ys, text = xs ++ ys := by
  have hzero : Text.splitAtByte? 0 text = some ([], text) := by rw [Text.splitAtByte?]
  rw [Region.slice?, if_pos (Nat.zero_le n)] at h
  obtain ⟨⟨before, after⟩, hbefore, hafter⟩ := Option.bind_eq_some_iff.1 h
  obtain ⟨⟨inside, ys⟩, hinside, hxs⟩ := Option.bind_eq_some_iff.1 hafter
  obtain ⟨-, rfl⟩ := Prod.mk.inj (Option.some.inj (hzero.symm.trans hbefore))
  obtain rfl := Option.some.inj hxs
  exact ⟨ys, (splitAtByte?_eq_some hinside).1⟩

theorem number?_eq (window : List Char) :
    number? window = some (Number.Numeral.read? window) := by
  by_cases hradix : ∃ x digits, window = '0' :: x :: digits ∧ (x = 'x' ∨ x = 'X')
  · obtain ⟨x, digits, rfl, hx⟩ := hradix
    have hstands : Stands ('0' :: x :: digits) 2 digits := by
      rcases hx with rfl | rfl <;> exact ((stands_zero _).next rfl).next rfl
    have hsign : Region.slice? ⟨0, 2⟩ ('0' :: x :: digits) = some ['0', x] := by
      rcases hx with rfl | rfl <;> exact Region.slice?_append [] ['0', _] digits
    have hread : Number.Numeral.read? ('0' :: x :: digits) =
        Number.Numeral.readHexadecimal? digits := if_pos hx
    rw [number?, hsign, hstands.from?_eq, hread]
    rcases hx with rfl | rfl <;> rfl
  · have hread : Number.Numeral.read? window = Number.readNumeral? window := by
      unfold Number.Numeral.read?
      split
      next x digits => exact if_neg fun hx => hradix ⟨x, digits, rfl, hx⟩
      · rfl
    rw [hread]
    unfold number?
    -- What is sliced as the sign of a radix is what the numeral begins with.
    split
    next heq =>
      obtain ⟨digits, rfl⟩ := exists_append_of_slice?_zero heq
      exact absurd ⟨'x', digits, rfl, .inl rfl⟩ hradix
    next heq =>
      obtain ⟨digits, rfl⟩ := exists_append_of_slice?_zero heq
      exact absurd ⟨'X', digits, rfl, .inr rfl⟩ hradix
    · rfl

theorem between?_eq {window : List Char} (h : Enquoted window) :
    between? window = some window.tail.dropLast := by
  obtain ⟨quote, inside, hquote, rfl⟩ := h
  have hwindow : Stands (quote :: (inside ++ [quote])) 1 (inside ++ [quote]) :=
    (stands_zero _).next hquote
  have hlength : Text.byteLength (quote :: (inside ++ [quote])) =
      1 + (1 + Text.byteLength inside) := by
    simp [hquote]
    omega
  rw [between?, hlength, sub?_add]
  simpa using hwindow.slice?_eq

/-- The fault of a stream that does not go on as it should, given the fault for a wrong token. -/
def Stream.unexpected (cause : TokenKind → SyntaxFault.Cause) : Stream → SyntaxFault
  | .token kind region _ => ⟨cause kind, region⟩
  | .close region => ⟨cause .close, region⟩
  | .endOfText place => ⟨.endOfText, ⟨place, place⟩⟩
  | .fault f => f

namespace Reader

/-! ## Single tokens -/

/-- Takes the token that has to come next. -/
def expect (wanted : TokenKind) (tokens : Stream) : Checked SyntaxFault (Region × Stream) :=
  match tokens with
  | .token kind region rest =>
    if kind = wanted then return (region, rest) else throw ⟨.expected wanted kind, region⟩
  | tokens => throw (tokens.unexpected (.expected wanted))

/-- Takes the name of a property, which may be any word. -/
def propertyName (tokens : Stream) : Checked SyntaxFault (Region × Stream) :=
  match tokens with
  | .token kind region rest =>
    match kind with
    | .name | .reserved | .keyword _ => return (region, rest)
    | _ => throw ⟨.expectedProperty, region⟩
  | tokens => throw (tokens.unexpected fun _ => .expectedProperty)

variable (source : List Char)

/-- The value of a token that is written out. -/
def literal? (kind : TokenKind) (region : Region) : Option (Checked SyntaxFault Literal) :=
  match kind with
  | .number => some do
    match ← number? (← region.slice? source) with
    | some x => return .number x
    | none => throw ⟨.unreadableNumber, region⟩
  | .string => some do
    match Quoted.decode? (← between? (← region.slice? source)) with
    | some text => return .string (String.ofList text)
    | none => throw ⟨.badEscape, region⟩
  | .keyword .true => some (return .boolean true)
  | .keyword .false => some (return .boolean false)
  | .keyword .null => some (return .null)
  | _ => none

/-! ## Expressions -/

mutual

/-- An expression of its own, which takes one level of room. -/
def expression (room : Nat) (tokens : Stream) : Checked SyntaxFault (Tree × Stream) :=
  match tokens, room with
  | .endOfText place, _ => throw ⟨.endOfText, ⟨place, place⟩⟩
  | .fault f, _ => throw f
  | tokens, 0 => throw (tokens.unexpected fun _ => .tooDeep)
  | tokens, room + 1 => conditional room tokens
termination_by (room, 0)

/-- A choice, or what would be its test. -/
def conditional (room : Nat) (tokens : Stream) : Checked SyntaxFault (Tree × Stream) := do
  let (test, tokens) ← binary room 1 tokens
  match tokens with
  | .token .question _ tokens =>
    let (yes, tokens) ← expression room tokens
    let (_, tokens) ← expect .colon tokens
    let (no, tokens) ← expression room tokens
    return (.conditional test yes no (test.region.cover no.region), tokens)
  | .fault f => throw f
  | tokens => return (test, tokens)
termination_by (room, 5)

/-- Operands with operators between them that bind at least as tightly as `least`. -/
def binary (room least : Nat) (tokens : Stream) : Checked SyntaxFault (Tree × Stream) := do
  let (left, tokens) ← unary room tokens
  operators room least left tokens
termination_by (room, 4)

/-- The operators after an operand that bind at least as tightly as `least`. -/
def operators (room least : Nat) (left : Tree) (tokens : Stream) :
    Checked SyntaxFault (Tree × Stream) :=
  match tokens with
  | .token (.operator op) region rest =>
    if least ≤ op.precedence then
      match room with
      | 0 => throw ⟨.tooDeep, region⟩
      | room + 1 => do
        let (right, rest) ← binary room (op.precedence + 1) rest
        if left.clashesWith op || right.clashesWith op then
          throw ⟨.clash, region⟩
        else
          operators room least (.binary op left right (left.region.cover right.region)) rest
    else
      return (left, tokens)
  | .fault f => throw f
  | tokens => return (left, tokens)
termination_by (room, 0)

/-- Operators before an operand. -/
def unary (room : Nat) (tokens : Stream) : Checked SyntaxFault (Tree × Stream) :=
  match tokens with
  | .token kind region rest =>
    match Parser.unaryOperator? kind with
    | some op =>
      match room with
      | 0 => throw ⟨.tooDeep, region⟩
      | room + 1 => do
        let (operand, rest) ← unary room rest
        return (.unary op operand (region.cover operand.region), rest)
    | none => member room tokens
  | tokens => member room tokens
termination_by (room, 3)

/-- A value and the properties read from it. -/
def member (room : Nat) (tokens : Stream) : Checked SyntaxFault (Tree × Stream) := do
  let (receiver, tokens) ← primary room tokens
  links room receiver tokens
termination_by (room, 2)

/-- The properties after a receiver. -/
def links (room : Nat) (receiver : Tree) (tokens : Stream) :
    Checked SyntaxFault (Tree × Stream) :=
  match tokens with
  | .token .period region rest =>
    match room with
    | 0 => throw ⟨.tooDeep, region⟩
    | room + 1 => do
      let (name, rest) ← propertyName rest
      links room (.member receiver name false (receiver.region.cover name)) rest
  | .token .optionalPeriod region rest =>
    match room with
    | 0 => throw ⟨.tooDeep, region⟩
    | room + 1 =>
      match rest with
      | .token .openBracket _ rest => do
        let (index, rest) ← expression room rest
        let (close, rest) ← expect .closeBracket rest
        links room (.index receiver index true (receiver.region.cover close)) rest
      | .token .openParen region _ => throw ⟨.call, region⟩
      | rest => do
        let (name, rest) ← propertyName rest
        links room (.member receiver name true (receiver.region.cover name)) rest
  | .token .openBracket region rest =>
    match room with
    | 0 => throw ⟨.tooDeep, region⟩
    | room + 1 => do
      let (index, rest) ← expression room rest
      let (close, rest) ← expect .closeBracket rest
      links room (.index receiver index false (receiver.region.cover close)) rest
  | .token .openParen region _ => throw ⟨.call, region⟩
  | .fault f => throw f
  | tokens => return (receiver, tokens)
termination_by (room, 0)

/-- A value written out, a name, or an expression in parentheses. -/
def primary (room : Nat) (tokens : Stream) : Checked SyntaxFault (Tree × Stream) :=
  match tokens with
  | .token kind region rest =>
    match literal? source kind region with
    | some value => do return (.literal (← value) region, rest)
    | none =>
      match kind with
      | .name => return (.name region, rest)
      | .openParen => do
        let (inner, rest) ← expression room rest
        let (close, rest) ← expect .closeParen rest
        return (.group inner (region.cover close), rest)
      | .reserved => do throw ⟨.reservedWord (String.ofList (← region.slice? source)), region⟩
      | found => throw ⟨.expectedExpression found, region⟩
  | tokens => throw (tokens.unexpected .expectedExpression)
termination_by (room, 1)

end

end Reader

/-- The expression of a marker, which is all that stands before the closing brace. -/
def Tree.ofTokens (source : List Char) (tokens : Stream) : Checked SyntaxFault Tree := do
  let (tree, rest) ← Reader.expression source maxNesting tokens
  match rest with
  | .close _ => return tree
  | rest => throw (rest.unexpected (.expected .close))

/-! ## What is read with slices -/

/-- The two do the same, and a fault is at a region that fits. -/
abbrev Follows {α β : Type} (source : List Char) (r : α → β → Prop) :
    Checked SyntaxFault α → Except SyntaxFault β → Prop :=
  Agrees (fun fault => Fits source fault.region) r

/-- A tree and what is left of the tokens are an expression and what is left of its tokens. -/
inductive Read (source : List Char) : Tree × Stream → Expr × TokenStream → Prop where
  | mk {tree : Tree} {e : Expr} {rest : Stream} {rest' : TokenStream} : Denotes source tree e →
      Matches source rest rest' → Read source (tree, rest) (e, rest')

/-- A region and what is left of the tokens are a token and what is left after it. -/
inductive Taken (source : List Char) : Region × Stream → Token × TokenStream → Prop where
  | mk {kind : TokenKind} {region : Region} {text : List Char} {rest : Stream}
      {rest' : TokenStream} : Spelled source kind region text → Matches source rest rest' →
      Taken source (region, rest) (⟨kind, text, region⟩, rest')

namespace Reader

section Tokens

variable {source : List Char} {tokens : Stream} {tokens' : TokenStream} {kind : TokenKind}
  {region : Region} {text : List Char}

theorem expect_agrees (h : Matches source tokens tokens') (wanted : TokenKind) :
    Follows source (Taken source) (expect wanted tokens) (Parser.expect wanted tokens') := by
  cases h with
  | token hspelled hrest =>
    unfold expect Parser.expect
    dsimp only
    split
    · exact .ok (.mk hspelled hrest)
    · exact .error hspelled.fits
  | close h => exact .error h
  | endOfText h => exact .error ⟨Nat.le_refl _, h, h⟩
  | fault h => exact .error h

theorem propertyName_agrees (h : Matches source tokens tokens') :
    Follows source (Taken source) (propertyName tokens) (Parser.propertyName tokens') := by
  cases h with
  | token hspelled hrest =>
    rename_i kind _ _ _ _
    cases kind with
    | name | reserved | keyword => exact .ok (.mk hspelled hrest)
    | _ => exact .error hspelled.fits
  | close h => exact .error h
  | endOfText h => exact .error ⟨Nat.le_refl _, h, h⟩
  | fault h => exact .error h

/-- A token that is written out has the value that its slices say. -/
theorem literal?_agrees (h : Spelled source kind region text) :
    Option.Rel (Follows source Eq) (literal? source kind region)
      (Parser.literal? ⟨kind, text, region⟩) := by
  cases kind with
  | number =>
    unfold literal? Parser.literal?
    dsimp only
    rw [lift_bind h.slice, lift_bind (number?_eq text)]
    cases Number.Numeral.read? text with
    | some x => exact .some (.ok rfl)
    | none => exact .some (.error h.fits)
  | string =>
    unfold literal? Parser.literal?
    dsimp only
    rw [lift_bind h.slice, lift_bind (between?_eq (h.enquoted rfl))]
    cases Quoted.decode? text.tail.dropLast with
    | some inside => exact .some (.ok rfl)
    | none => exact .some (.error h.fits)
  | keyword keyword =>
    cases keyword with
    | typeof => exact .none
    | _ => exact .some (.ok rfl)
  | _ => exact .none

end Tokens

/-! ## Expressions -/

-- One lemma to a function. In each the tokens of both readers are taken apart side by side, and the
-- lemmas recur on the room and then on the level, as the readers do.
mutual

theorem expression_agrees {source : List Char} {room : Nat} {tokens : Stream}
    {tokens' : TokenStream} (h : Matches source tokens tokens') :
    Follows source (Read source) (expression source room tokens)
      (Parser.expression room tokens') := by
  unfold expression Parser.expression
  -- The end of the text and a fault are reported whatever room is left.
  cases h with
  | endOfText h => exact .error ⟨Nat.le_refl _, h, h⟩
  | fault h => exact .error h
  | token hspelled hrest =>
    cases room with
    | zero => exact .error hspelled.fits
    | succ room => exact conditional_agrees (.token hspelled hrest)
  | close h =>
    cases room with
    | zero => exact .error h
    | succ room => exact conditional_agrees (.close h)
termination_by (room, 0)

theorem conditional_agrees {source : List Char} {room : Nat} {tokens : Stream}
    {tokens' : TokenStream} (h : Matches source tokens tokens') :
    Follows source (Read source) (conditional source room tokens)
      (Parser.conditional room tokens') := by
  unfold conditional Parser.conditional
  refine (binary_agrees h).bind ?_
  rintro _ _ ⟨htest, hrest⟩
  cases hrest with
  | fault h => exact .error h
  | endOfText h => exact .ok (.mk htest (.endOfText h))
  | close h => exact .ok (.mk htest (.close h))
  | @token kind _ _ _ _ hspelled hrest =>
    cases kind with
    | question =>
      refine (expression_agrees hrest).bind ?_
      rintro _ _ ⟨hyes, hrest⟩
      refine (expect_agrees hrest .colon).bind ?_
      rintro _ _ ⟨_, hrest⟩
      refine (expression_agrees hrest).bind ?_
      rintro _ _ ⟨hno, hrest⟩
      dsimp only
      rw [htest.region_eq, hno.region_eq]
      exact .ok (.mk (.conditional (htest.fits.cover hno.fits) htest hyes hno) hrest)
    | _ => exact .ok (.mk htest (.token hspelled hrest))
termination_by (room, 5)

theorem binary_agrees {source : List Char} {room least : Nat} {tokens : Stream}
    {tokens' : TokenStream} (h : Matches source tokens tokens') :
    Follows source (Read source) (binary source room least tokens)
      (Parser.binary room least tokens') := by
  unfold binary Parser.binary
  refine (unary_agrees h).bind ?_
  rintro _ _ ⟨hleft, hrest⟩
  exact operators_agrees hleft hrest
termination_by (room, 4)

theorem operators_agrees {source : List Char} {room least : Nat} {tokens : Stream}
    {tokens' : TokenStream} {left : Tree} {left' : Expr}
    (hleft : Denotes source left left') (h : Matches source tokens tokens') :
    Follows source (Read source) (operators source room least left tokens)
      (Parser.operators room least left' tokens') := by
  unfold operators Parser.operators
  cases h with
  | fault h => exact .error h
  | endOfText h => exact .ok (.mk hleft (.endOfText h))
  | close h => exact .ok (.mk hleft (.close h))
  | @token kind _ _ _ _ hspelled hrest =>
    cases kind with
    | operator op =>
      dsimp only
      split
      · cases room with
        | zero => exact .error hspelled.fits
        | succ room =>
          refine (binary_agrees hrest).bind ?_
          rintro _ _ ⟨hright, hrest⟩
          dsimp only
          -- A clash is seen in the operators at the top of the operands, which are the same.
          rw [hleft.clashesWith_eq, hright.clashesWith_eq, hleft.region_eq, hright.region_eq]
          split
          · exact .error hspelled.fits
          · exact operators_agrees (.binary (hleft.fits.cover hright.fits) hleft hright) hrest
      · exact .ok (.mk hleft (.token hspelled hrest))
    | _ => exact .ok (.mk hleft (.token hspelled hrest))
termination_by (room, 0)

theorem unary_agrees {source : List Char} {room : Nat} {tokens : Stream}
    {tokens' : TokenStream} (h : Matches source tokens tokens') :
    Follows source (Read source) (unary source room tokens) (Parser.unary room tokens') := by
  unfold unary Parser.unary
  cases h with
  | fault h => exact member_agrees (.fault h)
  | endOfText h => exact member_agrees (.endOfText h)
  | close h => exact member_agrees (.close h)
  | @token kind _ _ _ _ hspelled hrest =>
    dsimp only
    cases Parser.unaryOperator? kind with
    | none => exact member_agrees (.token hspelled hrest)
    | some op =>
      cases room with
      | zero => exact .error hspelled.fits
      | succ room =>
        refine (unary_agrees hrest).bind ?_
        rintro _ _ ⟨hop, hrest⟩
        rw [hop.region_eq]
        exact .ok (.mk (.unary (hspelled.fits.cover hop.fits) hop) hrest)
termination_by (room, 3)

theorem member_agrees {source : List Char} {room : Nat} {tokens : Stream}
    {tokens' : TokenStream} (h : Matches source tokens tokens') :
    Follows source (Read source) (member source room tokens) (Parser.member room tokens') := by
  unfold member Parser.member
  refine (primary_agrees h).bind ?_
  rintro _ _ ⟨hreceiver, hrest⟩
  exact links_agrees hreceiver hrest
termination_by (room, 2)

theorem links_agrees {source : List Char} {room : Nat} {tokens : Stream}
    {tokens' : TokenStream} {receiver : Tree} {receiver' : Expr}
    (hreceiver : Denotes source receiver receiver') (h : Matches source tokens tokens') :
    Follows source (Read source) (links source room receiver tokens)
      (Parser.links room receiver' tokens') := by
  unfold links Parser.links
  cases h with
  | fault h => exact .error h
  | endOfText h => exact .ok (.mk hreceiver (.endOfText h))
  | close h => exact .ok (.mk hreceiver (.close h))
  | @token kind _ _ _ _ hspelled hrest =>
    -- Links take a level of room, which is asked for before the link is read.
    cases kind with
    | period =>
      cases room with
      | zero => exact .error hspelled.fits
      | succ room => exact property_agrees false hreceiver hrest
    | optionalPeriod =>
      cases room with
      | zero => exact .error hspelled.fits
      | succ room =>
        have hproperty := @property_agrees source room _ _ _ _ true hreceiver hrest
        cases hrest with
        | @token kind _ _ _ _ hspelled hrest =>
          cases kind with
          | openBracket => exact index_agrees true hreceiver hrest
          | openParen => exact .error hspelled.fits
          | _ => exact hproperty
        | _ => exact hproperty
    | openBracket =>
      cases room with
      | zero => exact .error hspelled.fits
      | succ room => exact index_agrees false hreceiver hrest
    | openParen => exact .error hspelled.fits
    | _ => exact .ok (.mk hreceiver (.token hspelled hrest))
termination_by (room, 0)

/-- A property that is named, and the links after it. -/
theorem property_agrees {source : List Char} {room : Nat} {tokens : Stream}
    {tokens' : TokenStream} {receiver : Tree} {receiver' : Expr} (optional : Bool)
    (hreceiver : Denotes source receiver receiver') (h : Matches source tokens tokens') :
    Follows source (Read source)
      (do
        let (name, rest) ← propertyName tokens
        links source room (.member receiver name optional (receiver.region.cover name)) rest)
      (do
        let (name, rest) ← Parser.propertyName tokens'
        Parser.links room (.member receiver' (String.ofList name.text) name.region optional
          (receiver'.region.cover name.region)) rest) := by
  refine (propertyName_agrees h).bind ?_
  rintro _ _ ⟨hname, hrest⟩
  dsimp only
  rw [hreceiver.region_eq]
  exact links_agrees (.member (hreceiver.fits.cover hname.fits) hreceiver hname.slice) hrest
termination_by (room, 1)

/-- A property whose name is computed, and the links after it. -/
theorem index_agrees {source : List Char} {room : Nat} {tokens : Stream}
    {tokens' : TokenStream} {receiver : Tree} {receiver' : Expr} (optional : Bool)
    (hreceiver : Denotes source receiver receiver') (h : Matches source tokens tokens') :
    Follows source (Read source)
      (do
        let (index, rest) ← expression source room tokens
        let (close, rest) ← expect .closeBracket rest
        links source room (.index receiver index optional (receiver.region.cover close)) rest)
      (do
        let (index, rest) ← Parser.expression room tokens'
        let (close, rest) ← Parser.expect .closeBracket rest
        Parser.links room (.index receiver' index optional
          (receiver'.region.cover close.region)) rest) := by
  refine (expression_agrees h).bind ?_
  rintro _ _ ⟨hindex, hrest⟩
  refine (expect_agrees hrest .closeBracket).bind ?_
  rintro _ _ ⟨hclose, hrest⟩
  dsimp only
  rw [hreceiver.region_eq]
  exact links_agrees (.index (hreceiver.fits.cover hclose.fits) hreceiver hindex) hrest
termination_by (room, 1)

theorem primary_agrees {source : List Char} {room : Nat} {tokens : Stream}
    {tokens' : TokenStream} (h : Matches source tokens tokens') :
    Follows source (Read source) (primary source room tokens) (Parser.primary room tokens') := by
  unfold primary Parser.primary
  cases h with
  | fault h => exact .error h
  | endOfText h => exact .error ⟨Nat.le_refl _, h, h⟩
  | close h => exact .error h
  | @token kind region text rest rest' hspelled hrest =>
    -- A token that is written out is a value, and its kind is not looked at any further.
    have hliteral := literal?_agrees hspelled
    dsimp only
    generalize literal? source kind region = value at hliteral ⊢
    generalize Parser.literal? ⟨kind, text, region⟩ = value' at hliteral ⊢
    cases hliteral with
    | some hvalue =>
      refine hvalue.bind ?_
      rintro _ _ rfl
      exact .ok (.mk (.literal hspelled.fits) hrest)
    | none =>
      cases kind with
      | name => exact .ok (.mk (.name hspelled.fits hspelled.slice) hrest)
      | openParen =>
        refine (expression_agrees hrest).bind ?_
        rintro _ _ ⟨hinner, hrest⟩
        refine (expect_agrees hrest .closeParen).bind ?_
        rintro _ _ ⟨hclose, hrest⟩
        exact .ok (.mk (.group (hspelled.fits.cover hclose.fits) hinner) hrest)
      | reserved =>
        dsimp only
        rw [lift_bind hspelled.slice]
        exact .error hspelled.fits
      | _ => exact .error hspelled.fits
termination_by (room, 1)

end

end Reader

/-- The expression of a marker by slices is the expression of its tokens. -/
theorem Tree.ofTokens_agrees {source : List Char} {tokens : Stream} {tokens' : TokenStream}
    (h : Matches source tokens tokens') :
    Follows source (Denotes source) (Tree.ofTokens source tokens) (Expr.ofTokens tokens') := by
  refine (Reader.expression_agrees h).bind ?_
  rintro _ _ ⟨htree, hrest⟩
  cases hrest with
  | close => exact .ok htree
  | token hspelled => exact .error hspelled.fits
  | endOfText h => exact .error ⟨Nat.le_refl _, h, h⟩
  | fault h => exact .error h

end TemplateLiteral.Offset
