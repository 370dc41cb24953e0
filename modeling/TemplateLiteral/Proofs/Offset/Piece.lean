import TemplateLiteral.Proofs.Offset.Reader
import TemplateLiteral.Proofs.Template.Reading

/-!
# The pieces of a template by byte offsets

A template cut into literal text and markers by looking for the next opening, counting the
backslashes in front of it, and going back by one byte if they escape it. The pieces know where they
stand, but not how they are written. Every slice and every difference succeeds, and the regions
have the texts of the pieces of the template.

## Main definitions

* `Offset.Piece`, `Offset.pieces`: the pieces of a text at a place
* `Offset.Segment`, `Offset.segments`: the segments of a text

## Main results

* `Offset.exists_pieces_eq`, `Offset.segments_agrees`
-/

namespace TemplateLiteral.Offset

/-! ## Pieces without texts -/

/-- A piece of a template by its region. -/
inductive Piece where
  /-- Literal text. -/
  | literal (region : Region)
  /-- A marker, from the opening to the closing. -/
  | marker (tokens : Stream) (region : Region)

/-- Where the first opening of a marker begins, if there is one. -/
def findOpening? : List Char → Option Nat
  | '$' :: '{' :: _ => some 0
  | c :: rest => (findOpening? rest).map (c.utf8Size + ·)
  | [] => none

/-- Literal text between two places as a piece, if there is any. -/
def Piece.literals (start stop : Nat) : List Piece :=
  if start = stop then [] else [.literal ⟨start, stop⟩]

/-- The pieces of a source from a place on. The place has to move on, and to stay in the source. -/
def pieces [Text.Alphabet] (source : List Char) (start : Nat) : Option (List Piece) := do
  let text ← from? source start
  if text.isEmpty then
    return []
  match findOpening? text with
  | none => return [.literal ⟨start, Text.byteLength source⟩]
  | some more =>
    let place := start + more
    let before ← Region.slice? ⟨start, place⟩ source
    -- An odd number of backslashes escapes the opening, and the last of them is in no piece.
    if backslashRun before % 2 = 1 then
      let stop ← sub? place 1
      if start < place + 2 ∧ place + 2 ≤ Text.byteLength source then
        let after ← pieces source (place + 2)
        return Piece.literals start stop ++ .literal ⟨place, place + 2⟩ :: after
      else none
    else
      let (tokens, stop) ← stream source (place + 2)
      if start < stop ∧ stop ≤ Text.byteLength source then
        let after ← pieces source stop
        return Piece.literals start place ++ .marker tokens ⟨place, stop⟩ :: after
      else none
termination_by Text.byteLength source - start

/-- A segment of a template by its region. -/
inductive Segment where
  /-- Literal text. -/
  | literal (region : Region)
  /-- A marker: its expression, and where it stands from the opening to the closing. -/
  | marker (tree : Tree) (region : Region)

/-- The segment that a piece of a source is. -/
def Segment.ofPiece (source : List Char) : Piece → Checked SyntaxFault Segment
  | .literal region => return .literal region
  | .marker tokens region => (.marker · region) <$> Tree.ofTokens source tokens

/-- The segments of a source, or the first fault in it. -/
def segments [Text.Alphabet] (source : List Char) : Checked SyntaxFault (List Segment) := do
  (← pieces source 0).mapM (Segment.ofPiece source)

/-! ## Pieces with their texts -/

/-- The region has the text of the piece, and the tokens of a marker are its tokens. -/
inductive IsPiece (source : List Char) : Piece → TemplateLiteral.Piece → Prop where
  | literal {region : Region} {text : List Char} : region.slice? source = some text →
      IsPiece source (.literal region) (.literal text region)
  | marker {tokens : Stream} {tokens' : TokenStream} {region : Region} {text : List Char} :
      region.slice? source = some text → Matches source tokens tokens' →
      IsPiece source (.marker tokens region) (.marker tokens' text region)

/-- The region has the text of the segment, and the tree of a marker is its expression. -/
inductive IsSegment (source : List Char) : Segment → TemplateLiteral.Segment → Prop where
  | literal {region : Region} {text : List Char} : region.slice? source = some text →
      IsSegment source (.literal region) (.literal text region)
  | marker {tree : Tree} {e : Expr} {region : Region} {text : List Char} :
      region.slice? source = some text → Denotes source tree e →
      IsSegment source (.marker tree region) (.marker e text region)

/-! ## Openings -/

section Openings

variable {c : Char} {lit rest : List Char}

theorem findOpening?_cons (h : c = '$' → rest.head? ≠ some '{') :
    findOpening? (c :: rest) = (findOpening? rest).map (c.utf8Size + ·) := by
  rw [findOpening?]
  rintro after rfl rfl
  exact h rfl rfl

/-- An opening behind literal text is the first one. -/
theorem findOpening?_append (h : Bare lit) :
    findOpening? (lit ++ '$' :: '{' :: rest) = some (Text.byteLength lit) := by
  induction lit with
  | nil => rfl
  | cons c lit ih =>
    have hhead : c = '$' → (lit ++ '$' :: '{' :: rest).head? ≠ some '{' := by
      rintro rfl hbrace
      cases lit with
      | nil => cases hbrace
      | cons d lit =>
        obtain rfl := Option.some.inj hbrace
        exact h ⟨[], lit, rfl⟩
    rw [List.cons_append, findOpening?_cons hhead, ih (@Bare.right [c] lit h)]
    rfl

theorem findOpening?_of_bare (h : Bare lit) : findOpening? lit = none := by
  induction lit with
  | nil => rfl
  | cons c lit ih =>
    have hhead : c = '$' → lit.head? ≠ some '{' := by
      rintro rfl hbrace
      obtain ⟨after, rfl⟩ := List.head?_eq_some_iff.1 hbrace
      exact h ⟨[], after, rfl⟩
    rw [findOpening?_cons hhead, ih (@Bare.right [c] lit h)]
    rfl

/-- A backslash opens nothing. -/
theorem bare_append_backslash (h : Bare lit) : Bare (lit ++ ['\\']) := by
  intro hoccurs
  obtain ⟨before, after, hbefore⟩ := hoccurs
  rw [List.append_assoc] at hbefore
  obtain ⟨inner, -, hinner⟩ := h.opening_in_append (by simp) hbefore.symm
  have hlength := congrArg List.length hinner
  simp only [List.length_append, List.length_cons, List.length_nil] at hlength
  omega

end Openings

section Pieces

variable {source text before after : List Char} {start : Nat}

theorem Stands.opening (h : Stands source start ('$' :: '{' :: after)) :
    Stands source (start + 2) after :=
  (h.next rfl).next rfl

theorem forall₂_literals {lit : List Char} (h : Stands source start (lit ++ text)) :
    List.Forall₂ (IsPiece source) (Piece.literals start (start + Text.byteLength lit))
      (TemplateLiteral.Piece.literals start lit) := by
  unfold Piece.literals TemplateLiteral.Piece.literals
  cases lit with
  | nil =>
    rw [Text.byteLength_nil, Nat.add_zero, if_pos rfl]
    exact .nil
  | cons c lit =>
    have hmoves := h.moves (List.cons_ne_nil c lit)
    rw [if_neg (Nat.ne_of_lt hmoves.1)]
    exact .cons (.literal h.slice?_eq) .nil

/-- In front of an opening the backslashes decide whether a marker begins. -/
theorem pieces_of_opening [Text.Alphabet] (h : Stands source start (before ++ '$' :: '{' :: after))
    (hbare : Bare before) : pieces source start =
      let place := start + Text.byteLength before
      if backslashRun before % 2 = 1 then
        (sub? place 1).bind fun stop => (pieces source (place + 2)).map fun more =>
          Piece.literals start stop ++ .literal ⟨place, place + 2⟩ :: more
      else
        (stream source (place + 2)).bind fun found =>
          if start < found.2 ∧ found.2 ≤ Text.byteLength source then
            (pieces source found.2).map fun more =>
              Piece.literals start place ++ .marker found.1 ⟨place, found.2⟩ :: more
          else none := by
  have hempty : (before ++ '$' :: '{' :: after).isEmpty = false := by simp
  have hmoves : start < start + Text.byteLength before + 2 ∧
      start + Text.byteLength before + 2 ≤ Text.byteLength source := by
    rw [h.byteLength_eq, Text.byteLength_append, byteLength_opening]
    omega
  rw [pieces, h.from?_eq]
  simp only [Option.bind_eq_bind, Option.bind_some, hempty, findOpening?_append hbare, h.slice?_eq,
    Bool.false_eq_true, if_false, if_pos hmoves, Option.map_eq_bind]
  rfl

/-- The pieces from a place on are those of the text that stands there. -/
theorem exists_pieces_eq [Text.Alphabet] (h : Stands source start text) :
    ∃ ps, pieces source start = some ps ∧
    List.Forall₂ (IsPiece source) ps (TemplateLiteral.Piece.ofTextAt start text) := by
  -- By induction on the length, since what follows a marker is not a part of its pattern.
  induction hlength : text.length using Nat.strongRecOn generalizing start text with
  | ind n ih =>
  subst hlength
  have htext := takeLiteral_append text
  have hbare := bare_takeLiteral text
  have heven := even_backslashRun_takeLiteral text
  cases hliteral : takeLiteral text with
  | mk lit ending =>
  rw [hliteral] at htext hbare heven
  cases ending with
  | endOfText =>
    obtain rfl : lit = text := (List.append_nil lit).symm.trans htext
    rw [TemplateLiteral.Piece.ofTextAt_of_endOfText hliteral, pieces, h.from?_eq]
    simp only [Option.bind_eq_bind, Option.bind_some, findOpening?_of_bare hbare]
    cases lit with
    | nil => exact ⟨[], rfl, .nil⟩
    | cons c lit =>
      refine ⟨_, rfl, ?_⟩
      rw [← List.append_nil (c :: lit)] at h
      rw [h.byteLength_eq, List.append_nil]
      exact .cons (.literal h.slice?_eq) .nil
  | escape rest =>
    have hlit : lit ++ '\\' :: '$' :: '{' :: rest = text := htext
    subst hlit
    have hescape : lit ++ '\\' :: '$' :: '{' :: rest = (lit ++ ['\\']) ++ '$' :: '{' :: rest := by
      simp
    have hopening : Stands source start ((lit ++ ['\\']) ++ '$' :: '{' :: rest) := hescape ▸ h
    have hplace : start + Text.byteLength (lit ++ ['\\']) = start + Text.byteLength lit + 1 := by
      rw [Text.byteLength_append]
      exact (Nat.add_assoc ..).symm
    have hodd : backslashRun (lit ++ ['\\']) % 2 = 1 := by
      rw [backslashRun_append_backslash, ← Nat.odd_iff]
      exact (heven (by simp)).add_one
    -- Back over the backslash, which belongs to no piece.
    have hback : sub? (start + Text.byteLength lit + 1) 1 = some (start + Text.byteLength lit) := by
      rw [Nat.add_comm]
      exact sub?_add 1 _
    have hsigns := hopening.append
    rw [hplace] at hsigns
    have hslice := @Stands.slice?_eq source ['$', '{'] rest _ hsigns
    have hrest := hsigns.opening
    obtain ⟨ps, hps, hpieces⟩ := ih rest.length (by simp; omega) hrest rfl
    rw [TemplateLiteral.Piece.ofTextAt_of_escape hliteral,
      pieces_of_opening hopening (bare_append_backslash hbare)]
    simp only [hplace, if_pos hodd, hback, hps, Option.bind_some, Option.map_some]
    exact ⟨_, rfl, List.rel_append (forall₂_literals h) (.cons (.literal hslice) hpieces)⟩
  | opening rest =>
    have hlit : lit ++ '$' :: '{' :: rest = text := htext
    subst hlit
    -- The backslashes in front come in pairs, so the opening is not escaped.
    have hrun : ¬ backslashRun lit % 2 = 1 := by
      rw [← Nat.odd_iff, Nat.not_odd_iff_even]
      exact heven (by simp)
    have hinside := h.append.opening
    obtain ⟨tokens, hstream, hmatches⟩ := exists_stream_eq hinside
    have hshorter := scan_rest_length_le (start + Text.byteLength lit + 2) rest
    have hsplit := scan_body_append_rest (start + Text.byteLength lit + 2) rest
    generalize hscan : scan (start + Text.byteLength lit + 2) rest = inside at *
    have hmarker : Stands source (start + Text.byteLength lit)
        (('$' :: '{' :: inside.body) ++ inside.rest) := by
      rw [List.cons_append, List.cons_append, hsplit]
      exact h.append
    have hstop : start + Text.byteLength lit + 2 + Text.byteLength inside.body =
        start + Text.byteLength lit + Text.byteLength ('$' :: '{' :: inside.body) := by
      rw [byteLength_opening]
      omega
    have hmoves := hmarker.moves (List.cons_ne_nil _ _)
    obtain ⟨ps, hps, hpieces⟩ := ih inside.rest.length (by simp; omega) hmarker.append rfl
    rw [TemplateLiteral.Piece.ofTextAt_of_opening hliteral, pieces_of_opening h hbare]
    simp only [if_neg hrun, hstream, hscan, hstop, hps, Option.bind_some, Option.map_some,
      if_pos (And.intro (Nat.lt_of_le_of_lt (Nat.le_add_right start _) hmoves.1) hmoves.2)]
    exact ⟨_, rfl, List.rel_append (forall₂_literals h)
      (.cons (.marker hmarker.slice?_eq hmatches) hpieces)⟩

end Pieces

theorem segments_agrees [Text.Alphabet] (source : List Char) :
    Follows source (List.Forall₂ (IsSegment source)) (segments source)
      (TemplateLiteral.Segment.ofText source) := by
  obtain ⟨ps, hps, hpieces⟩ := exists_pieces_eq (stands_zero source)
  rw [segments, lift_bind hps]
  refine Agrees.mapM hpieces ?_
  rintro _ _ (⟨hslice⟩ | ⟨hslice, htokens⟩)
  · exact .ok (.literal hslice)
  · exact (Tree.ofTokens_agrees htokens).map fun _ _ htree => .marker hslice htree

end TemplateLiteral.Offset
