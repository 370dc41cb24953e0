import TemplateLiteral.Proofs.Expr.Completeness
import TemplateLiteral.Proofs.Template.Literal
import TemplateLiteral.Template.Basic

/-!
# How a text is read as segments

A text is literal text without openings, and then nothing more, or an opening that a backslash
makes literal and the rest, or a closed marker and the rest. `Reads` has one rule for each of the
three, and a text has segments only by these rules. What is said of the segments of any text is
shown by induction on the rules.

## Main definitions

* `Reads`: the segments of a text at a byte offset
* `Segment.chars`, `Segment.isMarker`

## Main results

* `Template.compile_eq_ok_iff`: when a template compiles, and what it then is
* `Template.reads_of_compile`: the segments of a template are read by the rules
* `Reads.within`, `Reads.ordered`, `Reads.slices`: where the segments lie in the text
-/

namespace TemplateLiteral

/-- Literal text as a segment, if there is any. -/
def Segment.literals (start : Nat) (text : List Char) : List Segment :=
  if text.isEmpty then [] else [.literal text ⟨start, start + Text.byteLength text⟩]

/-- The segments of a text at a byte offset. -/
inductive Reads [Text.Alphabet] : Nat → List Char → List Segment → Prop where
  /-- Literal text is all that is left. -/
  | plain {start : Nat} {lit : List Char} :
      Bare lit → Reads start lit (Segment.literals start lit)
  /-- An opening that a backslash makes literal; the backslash is no part of a segment. -/
  | escape {start : Nat} {lit rest : List Char} {segments : List Segment} :
      Bare lit → Even (backslashRun lit) →
      Reads (start + Text.byteLength lit + 3) rest segments →
      Reads start (lit ++ '\\' :: '$' :: '{' :: rest)
        (Segment.literals start lit ++ .literal ['$', '{']
          ⟨start + Text.byteLength lit + 1, start + Text.byteLength lit + 3⟩ :: segments)
  /-- A marker up to its closing brace, with an expression in it. -/
  | marker {start : Nat} {lit body rest : List Char} {tokens : TokenStream} {e : Expr}
      {segments : List Segment} :
      Bare lit → Even (backslashRun lit) →
      Encloses (start + Text.byteLength lit + 2) body tokens → Expr.ofTokens tokens = .ok e →
      Reads (start + Text.byteLength lit + Text.byteLength ('$' :: '{' :: body)) rest segments →
      Reads start (lit ++ '$' :: '{' :: (body ++ rest))
        (Segment.literals start lit ++ .marker e ('$' :: '{' :: body)
          ⟨start + Text.byteLength lit,
            start + Text.byteLength lit + Text.byteLength ('$' :: '{' :: body)⟩ :: segments)

/-! ## The pieces of a text -/

theorem Piece.marker_not_mem_literals {tokens : TokenStream} {chars : List Char} {region : Region}
    (start : Nat) (text : List Char) : .marker tokens chars region ∉ literals start text := by
  unfold literals
  split
  · exact List.not_mem_nil
  · intro h
    cases List.mem_singleton.1 h

theorem Segment.mapM_ofPiece_literals (start : Nat) (text : List Char) :
    (Piece.literals start text).mapM Segment.ofPiece = .ok (Segment.literals start text) := by
  unfold Piece.literals Segment.literals
  split <;> rfl

section Pieces

variable [Text.Alphabet] {start : Nat} {text lit rest : List Char}

theorem Piece.ofTextAt_of_endOfText (h : takeLiteral text = (lit, .endOfText)) :
    Piece.ofTextAt start text = Piece.literals start lit := by
  rw [Piece.ofTextAt]
  split
  next heq =>
    rw [h] at heq
    cases heq
    rfl
  next heq => cases h.symm.trans heq
  next heq => cases h.symm.trans heq

theorem Piece.ofTextAt_of_escape (h : takeLiteral text = (lit, .escape rest)) :
    Piece.ofTextAt start text = Piece.literals start lit ++
      .literal ['$', '{'] ⟨start + Text.byteLength lit + 1, start + Text.byteLength lit + 3⟩ ::
        Piece.ofTextAt (start + Text.byteLength lit + 3) rest := by
  rw [Piece.ofTextAt]
  split
  next heq => cases h.symm.trans heq
  next heq =>
    rw [h] at heq
    cases heq
    rfl
  next heq => cases h.symm.trans heq

theorem Piece.ofTextAt_of_opening (h : takeLiteral text = (lit, .opening rest)) :
    Piece.ofTextAt start text =
      let place := start + Text.byteLength lit
      let inside := scan (place + 2) rest
      let marker := '$' :: '{' :: inside.body
      Piece.literals start lit ++
        .marker inside.tokens marker ⟨place, place + Text.byteLength marker⟩ ::
          Piece.ofTextAt (place + Text.byteLength marker) inside.rest := by
  rw [Piece.ofTextAt]
  split
  next heq => cases h.symm.trans heq
  next heq => cases h.symm.trans heq
  next heq =>
    rw [h] at heq
    cases heq
    rfl

end Pieces

/-! ## The segments of a text -/

section Segments

variable {start : Nat} {lit : List Char} {piece : Piece} {pieces : List Piece}
  {segments : List Segment}

/-- The segments of literal text and what stands after it. -/
theorem Segment.mapM_ofPiece_literals_append :
    (Piece.literals start lit ++ piece :: pieces).mapM Segment.ofPiece = .ok segments ↔
      ∃ s rest, Segment.ofPiece piece = .ok s ∧ pieces.mapM Segment.ofPiece = .ok rest ∧
        segments = Segment.literals start lit ++ s :: rest := by
  rw [mapM_append_cons_eq_ok_iff]
  constructor
  · intro h
    obtain ⟨before, s, rest, hbefore, hs, hrest, rfl⟩ := h
    rw [mapM_ofPiece_literals] at hbefore
    cases hbefore
    exact ⟨s, rest, hs, hrest, rfl⟩
  · intro h
    obtain ⟨s, rest, hs, hrest, rfl⟩ := h
    exact ⟨_, s, rest, mapM_ofPiece_literals start lit, hs, hrest, rfl⟩

end Segments

/-- The segments of a text are read by the rules. -/
theorem reads_of_mapM_ofTextAt [Text.Alphabet] {start : Nat} {text : List Char}
    {segments : List Segment}
    (h : (Piece.ofTextAt start text).mapM Segment.ofPiece = .ok segments) :
    Reads start text segments := by
  -- By induction on the length, since what follows a marker is not a part of its pattern.
  induction hlength : text.length using Nat.strongRecOn generalizing start text segments with
  | ind n ih =>
  subst hlength
  have happend := takeLiteral_append text
  have hbare := bare_takeLiteral text
  have heven := even_backslashRun_takeLiteral text
  match hliteral : takeLiteral text with
  | (lit, .endOfText) =>
    rw [Piece.ofTextAt_of_endOfText hliteral, Segment.mapM_ofPiece_literals] at h
    rw [hliteral, LiteralEnd.text, List.append_nil] at happend
    subst happend
    cases h
    rw [hliteral] at hbare
    exact .plain hbare
  | (lit, .escape rest) =>
    rw [hliteral] at happend hbare heven
    subst happend
    rw [Piece.ofTextAt_of_escape hliteral, Segment.mapM_ofPiece_literals_append] at h
    obtain ⟨s, segments, hs, hsegments, rfl⟩ := h
    cases hs
    refine .escape hbare (heven (by rintro ⟨⟩)) (ih _ ?_ hsegments rfl)
    simp [LiteralEnd.text]
    omega
  | (lit, .opening rest) =>
    rw [hliteral] at happend hbare heven
    subst happend
    rw [Piece.ofTextAt_of_opening hliteral, Segment.mapM_ofPiece_literals_append] at h
    obtain ⟨s, segments, hs, hsegments, rfl⟩ := h
    obtain ⟨e, he, rfl⟩ := map_eq_ok_iff.1 hs
    have hbody := encloses_of_closes (Expr.closes_of_ofTokens_eq_ok he)
    have hsegments := ih _ ?_ hsegments rfl
    · have hmarker := Reads.marker hbare (heven (by rintro ⟨⟩)) hbody he hsegments
      rw [scan_body_append_rest] at hmarker
      exact hmarker
    · -- The opening has been read before the marker is scanned.
      have := scan_rest_length_le (start + Text.byteLength lit + 2) rest
      simp [LiteralEnd.text]
      omega

/-! ## Templates that compile -/

/-- A template compiles if its parameters can be declared and its text has segments. -/
theorem Template.compile_eq_ok_iff [Text.Alphabet] {source : String} {parameters : Parameters}
    {name : Option String} {t : Template} :
    Template.compile source parameters name = .ok t ↔ parameters.fault? = none ∧
      ∃ segments, Segment.ofText source.toList = .ok segments ∧
        t = ⟨source, name, parameters, segments⟩ := by
  unfold Template.compile
  cases parameters.fault? with
  | some fault =>
    constructor
    · intro h
      cases h
    · intro h
      obtain ⟨⟨⟩, -⟩ := h
  | none =>
    cases Segment.ofText source.toList with
    | error fault =>
      constructor
      · intro h
        cases h
      · intro h
        obtain ⟨-, segments, ⟨⟩, -⟩ := h
    | ok segments =>
      constructor
      · rintro ⟨⟩
        exact ⟨rfl, segments, rfl, rfl⟩
      · intro h
        obtain ⟨-, segments, ⟨⟩, rfl⟩ := h
        rfl

/-- The segments of a template are read by the rules. -/
theorem Template.reads_of_compile [Text.Alphabet] {source : String} {parameters : Parameters}
    {name : Option String} {t : Template}
    (h : Template.compile source parameters name = .ok t) : Reads 0 source.toList t.segments := by
  obtain ⟨-, segments, hsegments, rfl⟩ := Template.compile_eq_ok_iff.1 h
  exact reads_of_mapM_ofTextAt hsegments

/-! ## Characters and regions of segments -/

namespace Segment

/-- The characters that a segment has in the text of its template. -/
def chars : Segment → List Char
  | .literal text _ | .marker _ text _ => text

/-- The segment is a marker. -/
def isMarker : Segment → Bool
  | .literal .. => false
  | .marker .. => true

@[simp] theorem region_literal (text : List Char) (region : Region) :
    (literal text region).region = region := rfl

@[simp] theorem region_marker (e : Expr) (text : List Char) (region : Region) :
    (marker e text region).region = region := rfl

theorem pairwise_literals {r : Segment → Segment → Prop} (start : Nat) (text : List Char) :
    (literals start text).Pairwise r := by
  unfold literals
  split
  · exact .nil
  · exact List.pairwise_singleton r _

theorem mem_literals {s : Segment} {start : Nat} {text : List Char} :
    s ∈ literals start text ↔
      text ≠ [] ∧ s = .literal text ⟨start, start + Text.byteLength text⟩ := by
  unfold literals
  cases text with
  | nil => simp
  | cons c text => simp

theorem mem_literals_append {s piece : Segment} {start : Nat} {text : List Char}
    {segments : List Segment} : s ∈ literals start text ++ piece :: segments ↔
      (text ≠ [] ∧ s = .literal text ⟨start, start + Text.byteLength text⟩) ∨ s = piece ∨
        s ∈ segments := by
  rw [List.mem_append, mem_literals, List.mem_cons]

end Segment

theorem byteLength_opening (body : List Char) :
    Text.byteLength ('$' :: '{' :: body) = Text.byteLength body + 2 :=
  show 1 + (1 + Text.byteLength body) = Text.byteLength body + 2 by omega

theorem byteLength_escape (rest : List Char) :
    Text.byteLength ('\\' :: '$' :: '{' :: rest) = Text.byteLength rest + 3 :=
  show 1 + (1 + (1 + Text.byteLength rest)) = Text.byteLength rest + 3 by omega

namespace Reads

variable [Text.Alphabet] {start : Nat} {text : List Char} {segments : List Segment}

/-! ## Where segments lie -/

/-- Segments lie in their text, and none is empty. -/
theorem within (h : Reads start text segments) : ∀ s ∈ segments,
    start ≤ s.region.start ∧ s.region.start < s.region.stop ∧
      s.region.stop ≤ start + Text.byteLength text := by
  induction h with
  | plain =>
    intro s hs
    obtain ⟨hne, rfl⟩ := Segment.mem_literals.1 hs
    have := Text.byteLength_pos hne
    simp only [Segment.region_literal]
    omega
  | @escape start lit rest segments _ _ _ ih =>
    intro s hs
    rw [Text.byteLength_append, byteLength_escape]
    rcases Segment.mem_literals_append.1 hs with ⟨hne, rfl⟩ | rfl | hs
    · have := Text.byteLength_pos hne
      simp only [Segment.region_literal]
      omega
    · simp only [Segment.region]
      omega
    · have := ih s hs
      omega
  | @marker start lit body rest tokens e segments _ _ _ _ _ ih =>
    intro s hs
    rw [← List.cons_append, ← List.cons_append, Text.byteLength_append, Text.byteLength_append]
    rcases Segment.mem_literals_append.1 hs with ⟨hne, rfl⟩ | rfl | hs
    · have := Text.byteLength_pos hne
      simp only [Segment.region_literal]
      omega
    · have := byteLength_opening body
      simp only [Segment.region_marker]
      omega
    · have := ih s hs
      omega

/-- Segments stand in the order of their text, and no two overlap. -/
theorem ordered (h : Reads start text segments) :
    segments.Pairwise fun a b => a.region.stop ≤ b.region.start := by
  -- Literal text ends where the next segment begins, or at the backslash in front of it.
  induction h with
  | @plain start lit => exact Segment.pairwise_literals start lit
  | @escape start lit rest segments _ _ hrest ih =>
    refine List.pairwise_append.2 ⟨?_, List.pairwise_cons.2 ⟨?_, ih⟩, ?_⟩
    · exact Segment.pairwise_literals start lit
    · intro s hs
      exact (hrest.within s hs).1
    · intro a ha b hb
      obtain ⟨-, rfl⟩ := Segment.mem_literals.1 ha
      rcases List.mem_cons.1 hb with rfl | hb
      · exact Nat.le_succ _
      · have := (hrest.within b hb).1
        simp only [Segment.region_literal]
        omega
  | @marker start lit body rest tokens e segments _ _ _ _ hrest ih =>
    refine List.pairwise_append.2 ⟨?_, List.pairwise_cons.2 ⟨?_, ih⟩, ?_⟩
    · exact Segment.pairwise_literals start lit
    · intro s hs
      exact (hrest.within s hs).1
    · intro a ha b hb
      obtain ⟨-, rfl⟩ := Segment.mem_literals.1 ha
      rcases List.mem_cons.1 hb with rfl | hb
      · exact Nat.le_refl _
      · have := (hrest.within b hb).1
        simp only [Segment.region_literal]
        omega

/-- The characters of a segment stand where its region is. -/
theorem slices (h : Reads start text segments) : ∀ s ∈ segments, ∃ before after,
    text = before ++ (s.chars ++ after) ∧
      s.region = ⟨start + Text.byteLength before,
        start + Text.byteLength before + Text.byteLength s.chars⟩ := by
  induction h with
  | @plain start lit =>
    intro s hs
    obtain ⟨-, rfl⟩ := Segment.mem_literals.1 hs
    exact ⟨[], [], (List.append_nil lit).symm, rfl⟩
  | @escape start lit rest segments _ _ _ ih =>
    intro s hs
    rcases Segment.mem_literals_append.1 hs with ⟨-, rfl⟩ | rfl | hs
    · exact ⟨[], _, rfl, rfl⟩
    · refine ⟨lit ++ ['\\'], rest, by simp [Segment.chars], ?_⟩
      rw [Text.byteLength_append]
      rfl
    · obtain ⟨before, after, rfl, hregion⟩ := ih s hs
      refine ⟨lit ++ '\\' :: '$' :: '{' :: before, after, by simp, ?_⟩
      rw [hregion, Text.byteLength_append, byteLength_escape, Region.mk.injEq]
      omega
  | @marker start lit body rest tokens e segments _ _ _ _ _ ih =>
    intro s hs
    rcases Segment.mem_literals_append.1 hs with ⟨-, rfl⟩ | rfl | hs
    · exact ⟨[], _, rfl, rfl⟩
    · exact ⟨lit, rest, rfl, rfl⟩
    · obtain ⟨before, after, rfl, hregion⟩ := ih s hs
      refine ⟨lit ++ ('$' :: '{' :: body) ++ before, after, by simp, ?_⟩
      rw [hregion, Text.byteLength_append, Text.byteLength_append, Region.mk.injEq]
      omega

/-- The region of a segment of a whole text has the characters of the segment. -/
theorem slice?_region (h : Reads 0 text segments) :
    ∀ s ∈ segments, s.region.slice? text = some s.chars := by
  intro s hs
  obtain ⟨before, after, htext, hregion⟩ := h.slices s hs
  rw [htext, hregion, Nat.zero_add]
  exact Region.slice?_append before s.chars after

end Reads

end TemplateLiteral
