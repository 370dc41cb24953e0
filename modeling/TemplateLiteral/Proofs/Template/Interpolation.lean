import Mathlib
import TemplateLiteral.Proofs.Template.Reading
import TemplateLiteral.Rendering

/-!
# What becomes of every byte of a template

The segments of a template lie in its text one after the other, and what they leave out is only
the backslash in front of an opening that it makes literal. Whether an opening is literal is
decided by the parity of the backslashes in front of it: their run is broken by the brace that
ends an earlier opening or marker, so that each opening has a run of its own.

## Main definitions

* `Uncovered`, `Outside`: bytes that belong to no segment, and places inside no marker
* `Interpolates`: how the segments of a template lie in its text
* `Segment.Shows`: what a segment adds to the output

## Main results

* `Template.compile_interpolates`: the segments of a template that compiles lie in its text as they
  should, and its output shows each of them; a text without openings compiles to itself
-/

namespace TemplateLiteral

/-! ## Bytes and segments -/

/-- No segment has the byte. -/
def Uncovered (segments : List Segment) (k : Nat) : Prop :=
  ∀ s ∈ segments, ¬ (s.region.start ≤ k ∧ k < s.region.stop)

/-- The place is in literal text: a marker may begin there, but none has begun and not ended. -/
def Outside (segments : List Segment) (place : Nat) : Prop :=
  ∀ s ∈ segments, s.isMarker → ¬ (s.region.start < place ∧ place < s.region.stop)

/-- The segments lie in the text as those of a template do. -/
structure Interpolates [Text.Alphabet] (text : List Char) (segments : List Segment) : Prop where
  /-- No region is empty. -/
  nonempty : ∀ s ∈ segments, s.region.start < s.region.stop
  /-- The regions are in the order of the text, and no two overlap. -/
  ordered : segments.Pairwise fun a b => a.region.stop ≤ b.region.start
  /-- A region begins and ends between characters, and its text is that of the segment. -/
  slices : ∀ s ∈ segments, s.region.slice? text = some s.chars
  /-- What is left out is a backslash in front of an opening in literal text, the last of an odd
  number; and each of these is left out. -/
  uncovered : ∀ k < Text.byteLength text, Uncovered segments k ↔
    ∃ before after, text = before ++ '\\' :: '$' :: '{' :: after ∧ k = Text.byteLength before ∧
      Odd (backslashRun (before ++ ['\\'])) ∧ Outside segments (k + 1)
  /-- An opening in literal text opens a marker if the number of backslashes in front is even. -/
  opens : ∀ before after, text = before ++ '$' :: '{' :: after →
    Outside segments (Text.byteLength before) →
      (Even (backslashRun before) ↔
        ∃ s ∈ segments, s.isMarker ∧ s.region.start = Text.byteLength before)
  /-- A marker goes from its opening to the brace that closes it. -/
  closes : ∀ e chars region, .marker e chars region ∈ segments →
    ∃ before inner after tokens, text = before ++ '$' :: '{' :: (inner ++ '}' :: after) ∧
      chars = '$' :: '{' :: (inner ++ ['}']) ∧
      region = ⟨Text.byteLength before, Text.byteLength before + Text.byteLength chars⟩ ∧
      scan (region.start + 2) (inner ++ '}' :: after) = ⟨tokens, inner ++ ['}'], after⟩ ∧
      tokens.Closes ∧ Expr.ofTokens tokens = .ok e

theorem byteLength_pos_of_odd {text : List Char} (h : Odd (backslashRun text)) :
    0 < Text.byteLength text := by
  apply Text.byteLength_pos
  rintro rfl
  exact absurd h (by decide)

/-- A byte that is left out does not lie in literal text. -/
theorem start_add_le_of_uncovered {start k : Nat} {lit : List Char} {s : Segment}
    {segments : List Segment} (hstart : start ≤ k)
    (hk : Uncovered (Segment.literals start lit ++ s :: segments) k) :
    start + Text.byteLength lit ≤ k := by
  cases lit with
  | nil => exact hstart
  | cons c lit =>
    have hmem : .literal (c :: lit) ⟨start, start + Text.byteLength (c :: lit)⟩ ∈
        Segment.literals start (c :: lit) ++ s :: segments :=
      Segment.mem_literals_append.2 (.inl ⟨List.cons_ne_nil c lit, rfl⟩)
    exact Nat.not_lt.1 fun hlt => hk _ hmem ⟨hstart, hlt⟩

/-- The brace that closes a marker ends the run in front of it. -/
theorem Encloses.backslashRun_append [Text.Alphabet] {start : Nat} {body : List Char}
    {tokens : TokenStream} (h : Encloses start body tokens) (lit xs : List Char) :
    backslashRun (lit ++ '$' :: '{' :: (body ++ xs)) = backslashRun xs := by
  obtain ⟨last, rfl⟩ := h.body_eq_append
  have hrun : backslashRun ((lit ++ '$' :: '{' :: last) ++ '}' :: xs) = backslashRun xs :=
    backslashRun_append_cons (by decide) _ xs
  simp only [List.append_assoc, List.cons_append, List.nil_append] at hrun ⊢
  exact hrun

namespace Reads

variable [Text.Alphabet] {start : Nat} {text : List Char} {segments : List Segment}

/-! ## Markers -/

/-- A marker goes from its opening to the brace that closes it. -/
theorem closes (h : Reads start text segments) : ∀ e chars region,
    Segment.marker e chars region ∈ segments → ∃ before body after tokens,
      text = before ++ '$' :: '{' :: (body ++ after) ∧ chars = '$' :: '{' :: body ∧
      region = ⟨start + Text.byteLength before,
        start + Text.byteLength before + Text.byteLength chars⟩ ∧
      Encloses (region.start + 2) body tokens ∧ Expr.ofTokens tokens = .ok e := by
  induction h with
  | plain =>
    intro e chars region hs
    cases (Segment.mem_literals.1 hs).2
  | @escape start lit rest segments _ _ _ ih =>
    intro e chars region hs
    rcases Segment.mem_literals_append.1 hs with ⟨-, ⟨⟩⟩ | ⟨⟨⟩⟩ | hs
    obtain ⟨before, body, after, tokens, rfl, rfl, rfl, hbody, he⟩ := ih e chars region hs
    refine ⟨lit ++ '\\' :: '$' :: '{' :: before, body, after, tokens, by simp, rfl, ?_, hbody, he⟩
    rw [Text.byteLength_append, byteLength_escape, Region.mk.injEq]
    omega
  | @marker start lit body rest tokens e segments _ _ hbody he _ ih =>
    intro e' chars region hs
    rcases Segment.mem_literals_append.1 hs with ⟨-, ⟨⟩⟩ | hs | hs
    · cases hs
      exact ⟨lit, body, rest, tokens, rfl, rfl, rfl, hbody, he⟩
    · obtain ⟨before, body', after, tokens', rfl, rfl, rfl, hbody', he'⟩ := ih e' chars region hs
      refine ⟨lit ++ ('$' :: '{' :: body) ++ before, body', after, tokens', by simp, rfl, ?_,
        hbody', he'⟩
      rw [Text.byteLength_append, Text.byteLength_append, Region.mk.injEq]
      omega

/-! ## Openings in literal text -/

/-- An opening in literal text opens a marker, or it is literal and the byte in front of it is left
out. It is the parity of the backslashes in front that decides. -/
theorem opening_cases (h : Reads start text segments) {before after : List Char}
    (htext : text = before ++ '$' :: '{' :: after)
    (hout : Outside segments (start + Text.byteLength before)) :
    (Even (backslashRun before) ∧
      ∃ s ∈ segments, s.isMarker ∧ s.region.start = start + Text.byteLength before) ∨
    (Odd (backslashRun before) ∧
      ∀ s ∈ segments, s.region.stop < start + Text.byteLength before ∨
        start + Text.byteLength before ≤ s.region.start ∧
          (s.isMarker → start + Text.byteLength before < s.region.start)) := by
  -- An opening stands where a rule has one, or in what the rule leaves, or inside a marker.
  induction h generalizing before with
  | plain hlit => exact absurd ⟨before, after, by rw [htext]; simp⟩ hlit
  | @escape start lit rest segments hlit heven hrest ih =>
    rcases hlit.opening_in_escape htext with rfl | ⟨inner, rfl, hinner⟩
    · right
      rw [backslashRun_append_backslash, Text.byteLength_append]
      refine ⟨heven.add_one, fun s hs => ?_⟩
      rcases Segment.mem_literals_append.1 hs with ⟨-, rfl⟩ | rfl | hs
      · exact .inl (Nat.lt_succ_self _)
      · exact .inr ⟨Nat.le_refl _, by rintro ⟨⟩⟩
      · have hplace := (hrest.within s hs).1
        exact .inr ⟨Nat.le_of_succ_le (Nat.le_of_succ_le hplace), fun _ => Nat.lt_of_succ_lt hplace⟩
    · have hplace : start + Text.byteLength (lit ++ '\\' :: '$' :: '{' :: inner) =
          start + Text.byteLength lit + 3 + Text.byteLength inner := by
        rw [Text.byteLength_append, byteLength_escape]
        omega
      rw [hplace] at hout ⊢
      rw [backslashRun_append_escape]
      have hrestOut : Outside segments (start + Text.byteLength lit + 3 + Text.byteLength inner) :=
        fun s hs => hout s (Segment.mem_literals_append.2 (.inr (.inr hs)))
      rcases ih hinner hrestOut with ⟨hrun, s, hs, hmarker⟩ | ⟨hrun, hall⟩
      · exact .inl ⟨hrun, s, Segment.mem_literals_append.2 (.inr (.inr hs)), hmarker⟩
      · -- The run in front of the opening is not empty, so the segments before it end earlier.
        have hpos := byteLength_pos_of_odd hrun
        refine .inr ⟨hrun, fun s hs => ?_⟩
        rcases Segment.mem_literals_append.1 hs with ⟨-, rfl⟩ | rfl | hs
        · left
          simp only [Segment.region_literal]
          omega
        · left
          simp only [Segment.region_literal]
          omega
        · exact hall s hs
  | @marker start lit body rest tokens e segments hlit heven hbody _ hrest ih =>
    rcases hlit.opening_in_marker htext with rfl | ⟨inner, more, rfl, rfl, hmore⟩ |
      ⟨inner, rfl, hinner⟩
    · exact .inl ⟨heven, _, Segment.mem_literals_append.2 (.inr (.inl rfl)), rfl, rfl⟩
    · -- The marker has begun before the opening and is not closed yet.
      refine absurd ?_ (hout _ (Segment.mem_literals_append.2 (.inr (.inl rfl))) rfl)
      have hpos := Text.byteLength_pos hmore
      simp only [Segment.region_marker, Text.byteLength_append, byteLength_opening]
      omega
    · have hplace : start + Text.byteLength (lit ++ '$' :: '{' :: (body ++ inner)) =
          start + Text.byteLength lit + Text.byteLength ('$' :: '{' :: body) +
            Text.byteLength inner := by
        rw [← List.cons_append, ← List.cons_append, Text.byteLength_append, Text.byteLength_append]
        omega
      rw [hplace] at hout ⊢
      rw [hbody.backslashRun_append]
      have hrestOut : Outside segments (start + Text.byteLength lit +
          Text.byteLength ('$' :: '{' :: body) + Text.byteLength inner) :=
        fun s hs => hout s (Segment.mem_literals_append.2 (.inr (.inr hs)))
      rcases ih hinner hrestOut with ⟨hrun, s, hs, hmarker⟩ | ⟨hrun, hall⟩
      · exact .inl ⟨hrun, s, Segment.mem_literals_append.2 (.inr (.inr hs)), hmarker⟩
      · have hpos := byteLength_pos_of_odd hrun
        refine .inr ⟨hrun, fun s hs => ?_⟩
        rcases Segment.mem_literals_append.1 hs with ⟨-, rfl⟩ | rfl | hs
        · left
          simp only [Segment.region_literal]
          omega
        · left
          simp only [Segment.region_marker]
          omega
        · exact hall s hs

/-! ## Bytes that are left out -/

/-- A byte that is left out is a backslash in front of an opening in literal text. -/
theorem exists_escape_of_uncovered (h : Reads start text segments) {k : Nat} (hstart : start ≤ k)
    (hstop : k < start + Text.byteLength text) (hk : Uncovered segments k) :
    ∃ before after, text = before ++ '\\' :: '$' :: '{' :: after ∧
      k = start + Text.byteLength before ∧ Odd (backslashRun (before ++ ['\\'])) ∧
      Outside segments (k + 1) := by
  -- The byte is not in literal text or a marker, so it is the escape or lies in what is left.
  induction h with
  | @plain start lit =>
    have hne : lit ≠ [] := by
      rintro rfl
      exact absurd hstop (Nat.not_lt.2 hstart)
    exact absurd ⟨hstart, hstop⟩ (hk _ (Segment.mem_literals.2 ⟨hne, rfl⟩))
  | @escape start lit rest segments _ heven hrest ih =>
    have hlit := start_add_le_of_uncovered hstart hk
    have hopening := hk _ (Segment.mem_literals_append.2 (.inr (.inl rfl)))
    rw [Text.byteLength_append, byteLength_escape] at hstop
    simp only [Segment.region_literal] at hopening
    -- Of the three bytes behind the literal text only the first belongs to no segment.
    by_cases hbackslash : k = start + Text.byteLength lit
    · refine ⟨lit, rest, rfl, hbackslash, ?_, fun s hs hmarker => ?_⟩
      · rw [backslashRun_append_backslash]
        exact heven.add_one
      · rcases Segment.mem_literals_append.1 hs with ⟨-, rfl⟩ | rfl | hs
        · cases hmarker
        · cases hmarker
        · have := (hrest.within s hs).1
          omega
    · obtain ⟨before, after, rfl, rfl, hrun, hout⟩ := ih (by omega) (by omega)
        fun s hs => hk s (Segment.mem_literals_append.2 (.inr (.inr hs)))
      refine ⟨lit ++ '\\' :: '$' :: '{' :: before, after, by simp, ?_, ?_, fun s hs hmarker => ?_⟩
      · rw [Text.byteLength_append, byteLength_escape]
        omega
      · rw [List.append_assoc]
        exact (backslashRun_append_escape lit (before ++ ['\\'])).symm ▸ hrun
      · rcases Segment.mem_literals_append.1 hs with ⟨-, rfl⟩ | rfl | hs
        · cases hmarker
        · cases hmarker
        · exact hout s hs hmarker
  | @marker start lit body rest tokens e segments _ _ hbody _ hrest ih =>
    have hlit := start_add_le_of_uncovered hstart hk
    have hinside := hk _ (Segment.mem_literals_append.2 (.inr (.inl rfl)))
    rw [← List.cons_append, ← List.cons_append, Text.byteLength_append, Text.byteLength_append]
      at hstop
    simp only [Segment.region_marker] at hinside
    obtain ⟨before, after, rfl, rfl, hrun, hout⟩ := ih (by omega) (by omega)
      fun s hs => hk s (Segment.mem_literals_append.2 (.inr (.inr hs)))
    refine ⟨lit ++ '$' :: '{' :: (body ++ before), after, by simp, ?_, ?_, fun s hs hmarker => ?_⟩
    · rw [← List.cons_append, ← List.cons_append, Text.byteLength_append, Text.byteLength_append]
      omega
    · have hrunEq := hbody.backslashRun_append lit (before ++ ['\\'])
      rw [← hrunEq] at hrun
      simpa using hrun
    · rcases Segment.mem_literals_append.1 hs with ⟨-, rfl⟩ | rfl | hs
      · cases hmarker
      · simp only [Segment.region_marker]
        omega
      · exact hout s hs hmarker

/-- The segments of a whole text lie in it as those of a template do. -/
theorem interpolates (h : Reads 0 text segments) : Interpolates text segments where
  nonempty s hs := (h.within s hs).2.1
  ordered := h.ordered
  slices := h.slice?_region
  uncovered k hk := by
    constructor
    · intro huncovered
      have hlength : k < 0 + Text.byteLength text := by rwa [Nat.zero_add]
      obtain ⟨before, after, htext, hplace, hodd, hout⟩ :=
        h.exists_escape_of_uncovered (Nat.zero_le k) hlength huncovered
      exact ⟨before, after, htext, hplace.trans (Nat.zero_add _), hodd, hout⟩
    · rintro ⟨before, after, htext, rfl, hodd, hout⟩ s hs hbyte
      have hplace : 0 + Text.byteLength (before ++ ['\\']) = Text.byteLength before + 1 := by
        rw [Nat.zero_add, Text.byteLength_append]
        rfl
      -- Behind an odd run no segment begins in front of the opening or reaches up to it.
      have hsplit : text = (before ++ ['\\']) ++ '$' :: '{' :: after := by simp [htext]
      rcases h.opening_cases hsplit (hplace ▸ hout) with ⟨heven, -⟩ | ⟨-, hall⟩
      · exact Nat.not_even_iff_odd.2 hodd heven
      · have := hall s hs
        omega
  opens before after htext hout := by
    rw [← Nat.zero_add (Text.byteLength before)] at hout ⊢
    rcases h.opening_cases htext hout with ⟨heven, hmarker⟩ | ⟨hodd, hall⟩
    · exact iff_of_true heven hmarker
    · apply iff_of_false (Nat.not_even_iff_odd.2 hodd)
      intro hsome
      obtain ⟨s, hs, hmarker, hplace⟩ := hsome
      rcases hall s hs with hlt | ⟨-, hlt⟩
      · have := (h.within s hs).2.1
        omega
      · exact Nat.ne_of_gt (hlt hmarker) hplace
  closes e chars region hs := by
    obtain ⟨before, body, after, tokens, htext, hchars, hregion, hbody, he⟩ :=
      h.closes e chars region hs
    -- The last character of the marker is its own closing brace.
    obtain ⟨inner, rfl⟩ := hbody.body_eq_append
    rw [Nat.zero_add] at hregion
    have hscan := hbody.2 after
    rw [List.append_assoc] at htext hscan
    exact ⟨before, inner, after, tokens, htext, hchars, hregion, hscan, hbody.1, he⟩

end Reads

/-! ## Output -/

/-- What a segment of a text adds to the output: literal text adds the characters of its region,
and a marker the text of its value. -/
def Segment.Shows (scope : Scope) (source : List Char) : Segment → List Char → Prop
  | .literal _ region, shown => region.slice? source = some shown
  | .marker e _ _, shown => ∃ value, scope.evaluate e = .ok value ∧ shown = value.text.toList

theorem Segment.text_eq_ok_iff_shows {scope : Scope} {source shown : List Char} {s : Segment}
    (h : s.region.slice? source = some s.chars) :
    s.text scope = .ok shown ↔ s.Shows scope source shown := by
  cases s with
  | literal text region =>
    rw [Segment.region_literal] at h
    rw [Segment.Shows, h, Segment.chars, Segment.text]
    constructor
    · intro h
      exact congrArg some (Except.ok.inj h)
    · intro h
      exact congrArg Except.ok (Option.some.inj h)
  | marker e text region =>
    constructor
    · intro h
      obtain ⟨value, hvalue, hshown⟩ := bind_eq_ok_iff.1 h
      exact ⟨value, hvalue, (Except.ok.inj hshown).symm⟩
    · intro h
      obtain ⟨value, hvalue, rfl⟩ := h
      rw [Segment.text, hvalue]
      rfl

namespace Template

variable {t : Template} {store : Store} {out : String}

/-- The output of a template is what its segments show, in their order. -/
theorem render_eq_ok_iff : t.render store = .ok out ↔
    ∃ texts, t.segments.mapM (Segment.text (t.scope store)) = .ok texts ∧
      out = String.ofList texts.flatten := by
  unfold render output
  cases t.segments.mapM (Segment.text (t.scope store)) with
  | error fault =>
    constructor
    · intro h
      cases h
    · intro h
      obtain ⟨texts, ⟨⟩, -⟩ := h
  | ok texts =>
    constructor
    · intro h
      exact ⟨texts, rfl, (Except.ok.inj h).symm⟩
    · intro h
      obtain ⟨_, ⟨⟩, rfl⟩ := h
      rfl

end Template

/-- The segments of a template that compiles lie in its text as they should, and what is output
for them is what they show, in their order. A text without openings compiles, and is output as it
is. -/
theorem Template.compile_interpolates [Text.Alphabet] (source : String) (parameters : Parameters)
    (name : Option String) :
    (∀ t, Template.compile source parameters name = .ok t →
      Interpolates source.toList t.segments ∧
      ∀ store out, t.render store = .ok out ↔ ∃ texts,
        List.Forall₂ (Segment.Shows ⟨parameters, store⟩ source.toList) t.segments texts ∧
        out = String.ofList texts.flatten) ∧
    (parameters.fault? = none → Bare source.toList →
      ∃ t, Template.compile source parameters name = .ok t ∧
        ∀ store, t.render store = .ok source) := by
  constructor
  · intro t ht
    have hinterpolates := (Template.reads_of_compile ht).interpolates
    refine ⟨hinterpolates, fun store out => ?_⟩
    obtain ⟨-, segments, -, rfl⟩ := Template.compile_eq_ok_iff.1 ht
    rw [Template.render_eq_ok_iff]
    refine exists_congr fun texts => and_congr_left fun _ => mapM_eq_ok_iff fun s hs shown => ?_
    exact Segment.text_eq_ok_iff_shows (hinterpolates.slices s hs)
  · intro hparameters hbare
    -- The literal text is the whole text, so there is one segment, or none if there is no text.
    have hsegments : Segment.ofText source.toList = .ok (Segment.literals 0 source.toList) := by
      have hliteral := takeLiteral_of_bare hbare
      rw [Segment.ofText, Piece.ofText, Piece.ofTextAt_of_endOfText hliteral,
        Segment.mapM_ofPiece_literals]
    refine ⟨_, Template.compile_eq_ok_iff.2 ⟨hparameters, _, hsegments, rfl⟩, fun store => ?_⟩
    rw [Template.render_eq_ok_iff]
    cases htext : source.toList with
    | nil => exact ⟨[], rfl, String.toList_injective htext⟩
    | cons c text =>
      refine ⟨[c :: text], rfl, String.toList_injective ?_⟩
      rw [htext, List.flatten_singleton, String.toList_ofList]

/-- An escaped opening, a marker behind two backslashes, and a marker with a brace in a string. -/
theorem Template.compile_interpolates_escaped :
    (∃ t, Template.compile "\\$\x7b\\\\$\x7ba\x7d$$\x7b'\x7d'\x7d" (.each ["a"]) none = .ok t ∧
      Interpolates "\\$\x7b\\\\$\x7ba\x7d$$\x7b'\x7d'\x7d".toList t.segments) ∧
    ∃ t, Template.compile "$ \x7b" (.each ["a"]) none = .ok t ∧
      ∀ store, t.render store = .ok "$ \x7b" := by
  constructor
  · have hcompile : ∃ t, Template.compile "\\$\x7b\\\\$\x7ba\x7d$$\x7b'\x7d'\x7d" (.each ["a"])
        none = .ok t := ⟨_, by cbv⟩
    obtain ⟨t, ht⟩ := hcompile
    exact ⟨t, ht, ((Template.compile_interpolates _ _ _).1 t ht).1⟩
  · have hbare : Bare "$ \x7b".toList := by
      unfold Bare
      decide
    exact (Template.compile_interpolates _ _ _).2 (by cbv) hbare

end TemplateLiteral
