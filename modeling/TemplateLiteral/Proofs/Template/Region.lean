import TemplateLiteral.Proofs.Expr.Parts
import TemplateLiteral.Proofs.Expr.Relocation
import TemplateLiteral.Proofs.Template.Interpolation

/-!
# What regions mean

The region of an expression is the stretch of the text that the expression was read from. This holds
of every expression in a marker, however deep it stands: alone in a marker of its own, the text of
the region is read as the same expression. So whatever points at a region of a template, or takes
the text of one, points at an expression as a whole and takes an expression as a whole.

A name that is looked up and the name of a property have a region of their own, and its text is the
name.

## Main results

* `Encloses.exists_stretch`: the stretch of an expression in a marker
* `Scans.exists_ownName`: where an expression writes its name
* `Template.compile_marker`, `Template.compile_phrase`: a text that is one marker
* `Template.compile_region`: where the expressions of a template stand, and what their texts mean
-/

namespace TemplateLiteral

open Grammar

section Markers

variable [Text.Alphabet] {start : Nat} {body : List Char} {tokens : TokenStream} {e s : Expr}

/-- An expression in a marker is read from the stretch of its region, and the marker goes on behind
the stretch. -/
theorem Encloses.exists_stretch (h : Encloses start body tokens)
    (he : Expr.ofTokens tokens = .ok e) (hs : s.Within e) :
    ∃ front inside back us, body = front ++ (inside ++ back) ∧ back ≠ [] ∧
      s.region = ⟨start + Text.byteLength front,
        start + Text.byteLength front + Text.byteLength inside⟩ ∧
      Scans back s.region.start inside us ∧ Derives .expression us s := by
  obtain ⟨ts, closing, rfl, hderives, -, -⟩ := Expr.ofTokens_eq_ok_iff.1 he
  have hscan : (scan start body).tokens = TokenStream.prepend ts (.close closing) := by
    have hbody := h.2 []
    rw [List.append_nil] at hbody
    rw [hbody]
  obtain ⟨text, last, rfl, htext, hclosing⟩ := exists_scans hscan
  have hlast : last ≠ [] := by
    rintro rfl
    rw [scan_nil] at hclosing
    cases hclosing
  -- The tokens of the expression are some of the tokens of the marker in a row.
  obtain ⟨before, us, after, rfl, hus⟩ := hderives.within hs
  obtain ⟨front, text, rfl, -, htext⟩ := scans_append_iff.1 htext
  obtain ⟨text, back, rfl, htext, -⟩ := scans_append_iff.1 htext
  obtain ⟨t, us, rfl⟩ := hus.exists_cons
  obtain ⟨blanks, inside, rfl, hstart, hinside⟩ := htext.exists_trim
  have hspans := hus.spans hinside.laid
  have hregion : s.region = ⟨t.region.start, t.region.start + Text.byteLength inside⟩ := by
    obtain ⟨u, vs, hfirst, hregionStart⟩ := hspans.first
    obtain ⟨vs, u, hlast, hregionStop⟩ := hspans.last
    obtain ⟨rfl, -⟩ := List.cons.inj hfirst
    rw [hlast] at hinside
    rw [hinside.stop_eq] at hregionStop
    rw [← hregionStop, ← hregionStart]
  refine ⟨front ++ blanks, inside, back ++ last, t :: us, by simp, by simp [hlast], ?_, ?_, hus⟩
  · rw [hregion, hstart, Text.byteLength_append, ← Nat.add_assoc]
  · rw [hregion]
    exact hinside

/-- A stretch that is read as an expression ends with the name that the expression writes itself,
and the parts of the expression stand in front of the name. -/
theorem Scans.exists_ownName {after text : List Char} {ts : List Token}
    (h : Scans after start text ts) (hs : Derives .expression ts s) {x : String} {place : Region}
    (hname : s.ownName? = some (x, place)) :
    (∀ p ∈ s.parts, p.region.stop ≤ place.start) ∧ place.start < place.stop ∧
      ∃ front, text = front ++ x.toList ∧ place = ⟨start + Text.byteLength front,
        start + Text.byteLength front + Text.byteLength x.toList⟩ := by
  have hlaid := h.laid
  obtain ⟨us, t, rfl, rfl, rfl, hsplits⟩ := hs.exists_ownName hname
  obtain ⟨front, rfl, hregion⟩ := h.exists_last
  rw [String.toList_ofList]
  exact ⟨fun p hp => hsplits.stop_le_start hlaid hp,
    hlaid.2 t (List.mem_append_right us List.mem_cons_self), front, rfl, hregion⟩

/-- A marker that stands further on is the same marker here, moved. -/
theorem Encloses.exists_relocate {d : Nat} (h : Encloses (start + d) body tokens)
    (he : Expr.ofTokens tokens = .ok e) :
    ∃ tokens' e', Encloses start body tokens' ∧ Expr.ofTokens tokens' = .ok e' ∧
      e = e'.relocate (· + d) := by
  have hshifts : Shifts (· - d) (start + d) := by
    intro n
    dsimp only
    omega
  have hback := h.relocate hshifts
  have heback : Expr.ofTokens (tokens.relocate (· - d)) = .ok (e.relocate (· - d)) :=
    Expr.ofTokens_relocate (fun _ _ hle => Nat.sub_le_sub_right hle d) he
  rw [Nat.add_sub_cancel] at hback
  refine ⟨_, _, hback, heback, ?_⟩
  -- Moved forth again, the marker is the one that was moved back.
  have hforth := hback.relocate (shifts_add d start)
  have heforth : Expr.ofTokens ((tokens.relocate (· - d)).relocate (· + d)) =
      .ok ((e.relocate (· - d)).relocate (· + d)) :=
    Expr.ofTokens_relocate (fun _ _ hle => Nat.add_le_add_right hle d) heback
  have hsame : (tokens.relocate (· - d)).relocate (· + d) = tokens :=
    congrArg Scan.tokens ((hforth.2 []).symm.trans (h.2 []))
  rw [hsame, he] at heforth
  exact Except.ok.inj heforth

theorem Piece.ofText_opening (text : List Char) : Piece.ofText ('$' :: '{' :: text) =
    .marker (scan 2 text).tokens ('$' :: '{' :: (scan 2 text).body)
      ⟨0, Text.byteLength ('$' :: '{' :: (scan 2 text).body)⟩ ::
        Piece.ofTextAt (Text.byteLength ('$' :: '{' :: (scan 2 text).body)) (scan 2 text).rest := by
  have hliteral : takeLiteral ('$' :: '{' :: text) = ([], .opening text) := rfl
  rw [Piece.ofText, Piece.ofTextAt_of_opening hliteral]
  simp only [Text.byteLength_nil, Nat.add_zero, Nat.zero_add]
  rfl

/-- A text that is a marker and nothing else is one piece. -/
theorem Piece.ofText_marker {body : List Char} {tokens : TokenStream}
    (h : scan 2 body = ⟨tokens, body, []⟩) : Piece.ofText ('$' :: '{' :: body) =
      [.marker tokens ('$' :: '{' :: body) ⟨0, Text.byteLength ('$' :: '{' :: body)⟩] := by
  have hnothing : takeLiteral [] = ([], .endOfText) := rfl
  rw [Piece.ofText_opening, h, Piece.ofTextAt_of_endOfText hnothing]
  rfl

end Markers

namespace Template

theorem marker_source (body : List Char) :
    "$\x7b" ++ String.ofList body ++ "\x7d" = "$\x7b" ++ String.ofList (body ++ ['}']) := by
  have hbrace : "\x7d" = String.ofList ['}'] := rfl
  rw [hbrace, String.append_assoc, ← String.ofList_append]

theorem toList_marker (x : String) :
    ("$\x7b" ++ x ++ "\x7d").toList = '$' :: '{' :: (x.toList ++ ['}']) := by
  simp

/-- A text that is a marker and nothing else has one segment. -/
theorem compile_marker [Text.Alphabet] {parameters : Parameters} {name : Option String}
    {body : List Char} {tokens : TokenStream} {e : Expr} (hparameters : parameters.fault? = none)
    (hbody : Encloses 2 body tokens) (he : Expr.ofTokens tokens = .ok e) :
    compile ("$\x7b" ++ String.ofList body) parameters name =
      .ok ⟨"$\x7b" ++ String.ofList body, name, parameters, [.marker e ('$' :: '{' :: body)
        ⟨0, Text.byteLength ('$' :: '{' :: body)⟩]⟩ := by
  have hsource : ("$\x7b" ++ String.ofList body).toList = '$' :: '{' :: body := by
    rw [String.toList_append]
    exact congrArg ('$' :: '{' :: ·) String.toList_ofList
  have hscan : scan 2 body = ⟨tokens, body, []⟩ := by
    have hscan := hbody.2 []
    rwa [List.append_nil] at hscan
  refine compile_eq_ok_iff.2 ⟨hparameters, _, ?_, rfl⟩
  rw [hsource, Segment.ofText, Piece.ofText_marker hscan]
  exact mapM_cons_eq_ok_iff.2 ⟨_, [], map_eq_ok_iff.2 ⟨e, he, rfl⟩, rfl, rfl⟩

/-- A text that is a marker around a phrase has the tree of the phrase. -/
theorem compile_phrase [Text.Alphabet] {parameters : Parameters} {name : Option String}
    {body after : List Char} {ts : List Token} {e : Expr} (hparameters : parameters.fault? = none)
    (hscans : Scans after 2 body ts) (hderives : Grammar.Derives .expression ts e)
    (hmix : e.Unmixed) (hnesting : e.nesting ≤ maxNesting) :
    compile ("$\x7b" ++ String.ofList (body ++ ['}'])) parameters name =
      .ok ⟨"$\x7b" ++ String.ofList (body ++ ['}']), name, parameters,
        [.marker e ('$' :: '{' :: (body ++ ['}']))
          ⟨0, Text.byteLength ('$' :: '{' :: (body ++ ['}']))⟩]⟩ :=
  compile_marker hparameters hscans.encloses
    (Expr.ofTokens_eq_ok_iff.2 ⟨ts, _, rfl, hderives, hmix, hnesting⟩)

variable {source : String} {parameters : Parameters} {name : Option String} {t : Template}

/-- An expression of a template lies inside its marker; what it is put together from lies inside it,
in the order of the text and without overlaps, and a name that it writes itself is the text that it
ends with. The text of its region, alone in a marker, is read as the same expression, moved. -/
theorem compile_region [Text.Alphabet] (h : compile source parameters name = .ok t) {e s : Expr}
    {chars : List Char} {region : Region} (hmarker : .marker e chars region ∈ t.segments)
    (hs : s.Within e) :
    (region.start < s.region.start ∧ s.region.start < s.region.stop ∧
      s.region.stop < region.stop) ∧
    (∀ p ∈ s.parts, s.region.start ≤ p.region.start ∧ p.region.stop ≤ s.region.stop) ∧
    (s.parts.Pairwise fun a b => a.region.stop ≤ b.region.start) ∧
    (∀ x place, s.ownName? = some (x, place) →
      (∀ p ∈ s.parts, p.region.stop ≤ place.start) ∧
      (s.region.start ≤ place.start ∧ place.start < place.stop ∧ place.stop = s.region.stop) ∧
      place.slice? source.toList = some x.toList) ∧
    ∃ text, s.region.slice? source.toList = some text ∧ ∃ t' e' chars' region' d,
      compile ("$\x7b" ++ String.ofList text ++ "\x7d") parameters name = .ok t' ∧
      t'.segments = [.marker e' chars' region'] ∧ s = e'.relocate (· + d) := by
  have hparameters := (compile_eq_ok_iff.1 h).1
  obtain ⟨before, body, after, tokens, hsource, rfl, rfl, hbody, he⟩ :=
    (reads_of_compile h).closes e chars region hmarker
  obtain ⟨ts, _, rfl, -, hunmixed, hnesting⟩ := Expr.ofTokens_eq_ok_iff.1 he
  obtain ⟨front, inside, back, us, rfl, hback, hregion, hinside, hus⟩ :=
    hbody.exists_stretch he hs
  simp only [Nat.zero_add] at hregion hbody ⊢
  have hlaid := hinside.laid
  have hpos := (hus.spans hlaid).start_lt_stop hlaid
  have hplace : Text.byteLength before + 2 + Text.byteLength front =
      Text.byteLength (before ++ '$' :: '{' :: front) := by
    rw [Text.byteLength_append, byteLength_opening]
    omega
  have hsplit : source.toList = (before ++ '$' :: '{' :: front) ++ (inside ++ (back ++ after)) := by
    simp [hsource]
  refine ⟨?_, fun p hp => hus.parts_inside hlaid hp, hus.parts_ordered hlaid, ?_, inside, ?_, ?_⟩
  · have := Text.byteLength_pos hback
    rw [hregion] at hpos ⊢
    simp only [byteLength_opening, Text.byteLength_append] at hpos ⊢
    omega
  · intro x place hname
    obtain ⟨hparts, hplacePos, lead, rfl, rfl⟩ := hinside.exists_ownName hus hname
    rw [hregion, Text.byteLength_append] at hparts hplacePos ⊢
    refine ⟨hparts, ⟨Nat.le_add_right _ _, hplacePos, Nat.add_assoc _ _ _⟩, ?_⟩
    -- In front of the name stands what is in front of the expression, and the rest of it.
    have hname : source.toList = (before ++ '$' :: '{' :: front ++ lead) ++
        (x.toList ++ (back ++ after)) := by
      rw [hsplit]
      simp only [List.append_assoc]
    rw [hplace, ← Text.byteLength_append, hname]
    exact Region.slice?_append _ x.toList _
  · rw [hregion, hplace, hsplit]
    exact Region.slice?_append _ inside _
  · -- The expression stands at least behind the opening, and a marker of its own begins there.
    have hstart : s.region.start = 2 + (s.region.start - 2) := by
      rw [hregion]
      dsimp only
      omega
    have hclosed := hinside.encloses
    rw [hstart] at hclosed
    have hs' : ∀ closing, Expr.ofTokens (.prepend us (.close closing)) = .ok s := fun closing =>
      Expr.ofTokens_eq_ok_iff.2 ⟨us, closing, rfl, hus, hs.unmixed hunmixed,
        Nat.le_trans (Nat.succ_le_succ hs.charge_le) hnesting⟩
    obtain ⟨tokens', e', hbody', he', hsame⟩ := hclosed.exists_relocate (hs' _)
    have hcompiled := @compile_marker _ parameters name _ _ _ hparameters hbody' he'
    rw [String.ofList_append, ← String.append_assoc] at hcompiled
    exact ⟨_, e', _, _, s.region.start - 2, hcompiled, rfl, hsame⟩

/-- A chain that is an operand, with a closing brace in the string of its index. The name at the end
of it stands behind the index. -/
theorem compile_region_chain :
    ∃ t e chars region, ∃ s : Expr,
      compile "é$\x7ba ?? b ['\x7d'].c\x7d" (.each ["a", "b"]) none = .ok t ∧
      .marker e chars region ∈ t.segments ∧ s.Within e ∧ s.ownName? = some ("c", ⟨17, 18⟩) ∧
      Region.slice? ⟨17, 18⟩ "é$\x7ba ?? b ['\x7d'].c\x7d".toList = some "c".toList ∧
      s.region.slice? "é$\x7ba ?? b ['\x7d'].c\x7d".toList = some "b ['\x7d'].c".toList ∧
      ∃ t' e' chars' region' d,
        compile ("$\x7b" ++ String.ofList "b ['\x7d'].c".toList ++ "\x7d") (.each ["a", "b"]) none =
          .ok t' ∧
        t'.segments = [.marker e' chars' region'] ∧ s = e'.relocate (· + d) := by
  let index : Expr :=
    .index (.name "b" ⟨9, 10⟩) (.literal (.string "\x7d") ⟨12, 15⟩) false ⟨9, 16⟩
  let s : Expr := .member index "c" ⟨17, 18⟩ false ⟨9, 18⟩
  let e : Expr := .binary .nullish (.name "a" ⟨4, 5⟩) s ⟨4, 18⟩
  have hcompile : compile "é$\x7ba ?? b ['\x7d'].c\x7d" (.each ["a", "b"]) none =
      .ok ⟨"é$\x7ba ?? b ['\x7d'].c\x7d", none, .each ["a", "b"], [.literal ['é'] ⟨0, 2⟩,
        .marker e "$\x7ba ?? b ['\x7d'].c\x7d".toList ⟨2, 19⟩]⟩ := by
    cbv
  have hmember : Segment.marker e "$\x7ba ?? b ['\x7d'].c\x7d".toList ⟨2, 19⟩ ∈
      [.literal ['é'] ⟨0, 2⟩, .marker e "$\x7ba ?? b ['\x7d'].c\x7d".toList ⟨2, 19⟩] :=
    List.mem_cons_of_mem _ List.mem_cons_self
  have hwithin : s.Within e := .part (List.mem_cons_of_mem _ List.mem_cons_self) (.refl s)
  obtain ⟨-, -, -, hname, text, htext, hmeans⟩ := compile_region hcompile hmember hwithin
  obtain ⟨-, -, hnameText⟩ := hname "c" ⟨17, 18⟩ rfl
  have hslice : Region.slice? ⟨9, 18⟩ "é$\x7ba ?? b ['\x7d'].c\x7d".toList =
      some "b ['\x7d'].c".toList := by decide
  obtain rfl := Option.some.inj (htext.symm.trans hslice)
  exact ⟨_, e, _, _, s, hcompile, hmember, hwithin, rfl, hnameText, hslice, hmeans⟩

end Template

end TemplateLiteral
