import TemplateLiteral.Proofs.Template.Unplaced
import TemplateLiteral.Proofs.Token.Spacing

/-!
# Blanks in markers

Blank characters may be put between the tokens of any marker of a template, and it still compiles
and does the same. The marker has the same tokens then, but for their places, and is closed by the
same brace; what stands in front of the marker is spelled as before, and what stands behind it is
only moved.

## Main definitions

* `Leads`: what a text spells in front of another

## Main results

* `Leads.append`: what two texts in a row spell in front of another
* `Piece.exists_leads_of_mem`: where a marker stands in a text
* `Spells.spaced`: what is spelled when blank characters are put into a marker
* `Template.compile_spaced`: a template with blank characters put into a marker
-/

namespace TemplateLiteral

/-! ## In front of another text -/

/-- In front of another text, the text spells the atoms, and then the other is spelled. -/
def Leads [Text.Alphabet] (start : Nat) (text : List Char) (atoms : List Atom) (after : List Char) :
    Prop :=
  ∀ all, Spells start (text ++ after) all ↔
    ∃ more, all = atoms ++ more ∧ Spells (start + Text.byteLength text) after more

section Leading

variable [Text.Alphabet] {start : Nat} {text front back after : List Char} {xs ys : List Atom}

theorem Leads.append (h : Leads start front xs (back ++ after))
    (hback : Leads (start + Text.byteLength front) back ys after) :
    Leads start (front ++ back) (xs ++ ys) after := by
  intro all
  rw [List.append_assoc, h, Text.byteLength_append, ← Nat.add_assoc, ← exists_append_append_iff]
  simp only [hback _]

/-- Literal text of a text, in front of any opening or of any backslash that makes one literal. -/
theorem leads_literal {lit : List Char} {ending ending' : LiteralEnd}
    (h : takeLiteral text = (lit, ending)) (hending : ending ≠ .endOfText)
    (hending' : ending' ≠ .endOfText) : Leads start lit (lit.map .char) ending'.text := by
  have hbare := bare_takeLiteral text
  have heven := even_backslashRun_takeLiteral text
  rw [h] at hbare heven
  intro all
  rw [spells_takeLiteral_iff, takeLiteral_append_text hbare (heven hending) hending']

theorem leads_escape : Leads start ['\\', '$', '{'] [.char '$', .char '{'] after :=
  fun _ => spells_escape_iff

theorem leads_marker {body : List Char} {tokens : TokenStream} {e : Expr}
    (h : Encloses (start + 2) body tokens) (he : Expr.ofTokens tokens = .ok e) :
    Leads start ('$' :: '{' :: body) [.value e] after := by
  intro all
  rw [List.cons_append, List.cons_append, spells_marker_iff, h.2, he]
  constructor
  · intro h
    obtain ⟨_, more, rfl, ⟨⟩, hmore⟩ := h
    exact ⟨more, rfl, hmore⟩
  · intro h
    obtain ⟨more, rfl, hmore⟩ := h
    exact ⟨e, more, rfl, rfl, hmore⟩

end Leading

/-! ## Where a marker stands -/

/-- A marker with the tokens stands in the region of the text, behind what spells the same whatever
stands in the marker. -/
def Opens [Text.Alphabet] (start : Nat) (text : List Char) (tokens : TokenStream)
    (region : Region) : Prop :=
  ∃ before inner xs, text = before ++ '$' :: '{' :: inner ∧
    region.start = start + Text.byteLength before ∧
    tokens = (scan (region.start + 2) inner).tokens ∧
    region.stop = region.start + 2 + Text.byteLength (scan (region.start + 2) inner).body ∧
    ∀ inner', Leads start before xs ('$' :: '{' :: inner')

section Opening

variable [Text.Alphabet] {start : Nat} {text front chars : List Char} {tokens : TokenStream}
  {region : Region} {atoms : List Atom}

theorem Opens.append (hfront : ∀ after, Leads start front atoms after)
    (h : Opens (start + Text.byteLength front) text tokens region) :
    Opens start (front ++ text) tokens region := by
  obtain ⟨before, inner, xs, rfl, hstart, htokens, hstop, hxs⟩ := h
  refine ⟨front ++ before, inner, atoms ++ xs, (List.append_assoc ..).symm, ?_, htokens, hstop,
    fun inner' => (hfront _).append (hxs inner')⟩
  rw [hstart, Text.byteLength_append, Nat.add_assoc]

/-- A marker among the pieces of a text stands in the text. -/
theorem Piece.opens_of_mem (h : .marker tokens chars region ∈ ofTextAt start text)
    (hspells : Spells start text atoms) : Opens start text tokens region := by
  -- By induction on the length, as the pieces are cut off, up to the marker.
  induction hlength : text.length using Nat.strongRecOn generalizing start text atoms with
  | ind n ih =>
  subst hlength
  have happend := takeLiteral_append text
  match hliteral : takeLiteral text with
  | (lit, .endOfText) =>
    rw [ofTextAt_of_endOfText hliteral] at h
    exact absurd h (marker_not_mem_literals _ _)
  | (lit, .escape rest) =>
    rw [hliteral] at happend
    -- The escaped opening is literal whatever stands behind it.
    have hfront : ∀ after, Leads start (lit ++ ['\\', '$', '{'])
        (lit.map .char ++ [.char '$', .char '{']) after := fun after =>
      Leads.append (@leads_literal _ start _ _ _ (.escape after) hliteral (by simp) (by simp))
        leads_escape
    have htext : text = (lit ++ ['\\', '$', '{']) ++ rest := by
      simpa [LiteralEnd.text] using happend.symm
    have hplace : start + Text.byteLength (lit ++ ['\\', '$', '{']) =
        start + Text.byteLength lit + 3 := by
      rw [Text.byteLength_append, ← Nat.add_assoc]
      rfl
    rw [ofTextAt_of_escape hliteral, List.mem_append, List.mem_cons, ← hplace] at h
    rcases h with h | ⟨⟨⟩⟩ | h
    · exact absurd h (marker_not_mem_literals _ _)
    subst htext
    obtain ⟨more, -, hrest⟩ := (hfront rest atoms).1 hspells
    have hshorter : rest.length < (lit ++ ['\\', '$', '{'] ++ rest).length := by
      simp
      omega
    exact .append hfront (ih _ hshorter h hrest rfl)
  | (lit, .opening rest) =>
    rw [hliteral] at happend
    have hlit := fun after =>
      @leads_literal _ start _ _ _ (.opening after) hliteral (by simp) (by simp)
    rw [ofTextAt_of_opening hliteral, List.mem_append, List.mem_cons] at h
    rcases h with h | h | h
    · exact absurd h (marker_not_mem_literals _ _)
    · cases h
      refine ⟨lit, rest, _, happend.symm, rfl, rfl, ?_, hlit⟩
      dsimp only
      rw [byteLength_opening]
      omega
    · -- The marker that is cut off is closed, so that its brace does not depend on what follows.
      rw [← happend] at hspells
      obtain ⟨_, -, hmarker⟩ := (hlit rest atoms).1 hspells
      obtain ⟨e, more, -, he, hrest⟩ := spells_marker_iff.1 hmarker
      have hsplit := scan_body_append_rest (start + Text.byteLength lit + 2) rest
      have hbody := encloses_of_closes (Expr.closes_of_ofTokens_eq_ok he)
      generalize scan (start + Text.byteLength lit + 2) rest = inside at *
      have hfront : ∀ after, Leads start (lit ++ '$' :: '{' :: inside.body)
          (lit.map .char ++ [.value e]) after :=
        fun after => (hlit _).append (leads_marker hbody he)
      have htext : text = (lit ++ '$' :: '{' :: inside.body) ++ inside.rest := by
        rw [← happend, ← hsplit]
        simp [LiteralEnd.text]
      have hshorter : inside.rest.length < text.length := by
        rw [htext]
        simp
        omega
      rw [htext]
      rw [Nat.add_assoc, ← Text.byteLength_append] at h hrest
      exact .append hfront (ih _ hshorter h hrest rfl)

end Opening

/-! ## Blanks in a marker -/

section Spaced

variable {start : Nat} {text front back blanks chars : List Char} {tokens : TokenStream}
  {region : Region} {atoms : List Atom}

/-- When blank characters are put into the marker that a text begins with, the same is spelled, but
for places. -/
theorem Spells.spaced_marker [Text.Alphabet]
    (h : Spells start ('$' :: '{' :: (front ++ back)) atoms)
    (hgap : (scan (start + 2) (front ++ back)).tokens.Gap (start + 2 + Text.byteLength front))
    (hinside : Text.byteLength front < Text.byteLength (scan (start + 2) (front ++ back)).body)
    (hblanks : ∀ b ∈ blanks, Text.isBlank b) :
    ∃ atoms', Spells start ('$' :: '{' :: (front ++ (blanks ++ back))) atoms' ∧
      atoms'.map (Atom.relocate nowhere) = atoms.map (Atom.relocate nowhere) := by
  obtain ⟨e, more, rfl, he, hrest⟩ := spells_marker_iff.1 h
  obtain ⟨tokens, body, hbody, hscan, hsame⟩ :=
    scan_append_blanks (Expr.closes_of_ofTokens_eq_ok he) hgap hinside hblanks
  obtain ⟨e', he', hexpr⟩ := Expr.exists_ofTokens_nowhere he hsame
  -- Behind the marker the text is the same, further on by the blank characters.
  have hmoved := hrest.relocate (shifts_add (Text.byteLength blanks) _)
    fun _ _ hle => Nat.add_le_add_right hle _
  have hstop : start + Text.byteLength ('$' :: '{' :: (front ++ (blanks ++ body))) =
      start + Text.byteLength ('$' :: '{' :: (front ++ body)) + Text.byteLength blanks := by
    simp only [byteLength_opening, Text.byteLength_append]
    omega
  refine ⟨.value e' :: more.map (Atom.relocate (· + Text.byteLength blanks)), .marker ?_ ?_, ?_⟩
  · rw [hscan]
    exact he'
  · rw [hscan, hstop, ← hbody]
    exact hmoved
  · rw [List.map_cons, List.map_cons, Atom.map_relocate_nowhere, Atom.relocate, Atom.relocate,
      hexpr]

/-- A text that takes no more bytes than the first of two lies in it, where they go on alike. -/
theorem exists_middle_of_byteLength_le {xs ys : List Char} (h : front ++ back = xs ++ ys)
    (hle : Text.byteLength xs ≤ Text.byteLength front) :
    ∃ middle, front = xs ++ middle ∧ ys = middle ++ back := by
  rcases List.append_eq_append_iff.1 h with ⟨more, rfl, hback⟩ | ⟨more, hfront, hys⟩
  · cases more with
    | nil => exact ⟨[], by simp, hback.symm⟩
    | cons c more =>
      have hpos := c.utf8Size_pos
      rw [Text.byteLength_append, Text.byteLength_cons] at hle
      omega
  · exact ⟨more, hfront, hys⟩

/-- When blank characters are put into a marker, the same is spelled, but for places. -/
theorem Spells.spaced [Text.Alphabet] (h : Spells start (front ++ back) atoms)
    (hopens : Opens start (front ++ back) tokens region)
    (hfrom : region.start + 2 ≤ start + Text.byteLength front)
    (hto : start + Text.byteLength front < region.stop)
    (hgap : tokens.Gap (start + Text.byteLength front))
    (hblanks : ∀ b ∈ blanks, Text.isBlank b) :
    ∃ atoms', Spells start (front ++ (blanks ++ back)) atoms' ∧
      atoms'.map (Atom.relocate nowhere) = atoms.map (Atom.relocate nowhere) := by
  obtain ⟨before, inner, xs, htext, hstart, rfl, hstop, hxs⟩ := hopens
  rw [htext, hxs inner, ← hstart] at h
  obtain ⟨ys, rfl, hmarker⟩ := h
  -- The place lies behind the opening, and what stands between them is the front of the marker.
  have hopening : front ++ back = (before ++ ['$', '{']) ++ inner := by
    rw [htext, List.append_assoc]
    rfl
  have hbehind : ∀ middle, Text.byteLength (before ++ ['$', '{'] ++ middle) =
      Text.byteLength before + 2 + Text.byteLength middle := by
    intro middle
    rw [Text.byteLength_append, Text.byteLength_append]
    rfl
  obtain ⟨middle, rfl, rfl⟩ := exists_middle_of_byteLength_le hopening (by
    rw [Text.byteLength_append]
    have hlength : Text.byteLength ['$', '{'] = 2 := rfl
    omega)
  have hplace : start + Text.byteLength (before ++ ['$', '{'] ++ middle) =
      region.start + 2 + Text.byteLength middle := by
    rw [hbehind, hstart]
    omega
  rw [hplace] at hgap hto
  obtain ⟨zs, hzs, hsame⟩ := hmarker.spaced_marker hgap (by omega) hblanks
  refine ⟨xs ++ zs, ?_, ?_⟩
  · have hwhole := (hxs _ _).2 ⟨zs, rfl, hstart ▸ hzs⟩
    simpa only [List.append_assoc, List.cons_append, List.nil_append] using hwhole
  · rw [List.map_append, List.map_append, hsame]

end Spaced

/-! ## Templates with blanks in markers -/

namespace Template

/-- Blank characters may be put between the tokens of a marker: the text still compiles, and shows
or reports the same. -/
theorem compile_spaced [Text.Alphabet] {source : String} {parameters : Parameters}
    {name : Option String} {t : Template} (h : compile source parameters name = .ok t)
    {tokens : TokenStream} {chars front back blanks : List Char} {region : Region}
    (hmarker : .marker tokens chars region ∈ Piece.ofText source.toList)
    (hsource : source.toList = front ++ back) (hfrom : region.start + 2 ≤ Text.byteLength front)
    (hto : Text.byteLength front < region.stop) (hgap : tokens.Gap (Text.byteLength front))
    (hblanks : ∀ b ∈ blanks, Text.isBlank b) :
    ∃ t', compile (String.ofList (front ++ (blanks ++ back))) parameters name = .ok t' ∧
      ∀ store, (∃ out, t.render store = .ok out ∧ t'.render store = .ok out) ∨
        ∃ d d', t.render store = .error d ∧ t'.render store = .error d' ∧
          d.kind = d'.kind ∧ d.reason = d'.reason := by
  have hspells := spells_of_compile h
  have hopens := Piece.opens_of_mem hmarker hspells
  rw [← Nat.zero_add (Text.byteLength front)] at hfrom hto hgap
  rw [hsource] at hspells hopens
  obtain ⟨atoms, hatoms, hsame⟩ := hspells.spaced hopens hfrom hto hgap hblanks
  have htoList : (String.ofList (front ++ (blanks ++ back))).toList = front ++ (blanks ++ back) :=
    String.toList_ofList
  rw [← htoList] at hatoms
  obtain ⟨hfault, _, -, ht⟩ := compile_eq_ok_iff.1 h
  obtain ⟨t', ht'⟩ := @exists_compile_of_spells _ _ _ name hfault _ hatoms
  refine ⟨t', ht', render_of_nowhere ?_ ?_⟩
  · obtain ⟨-, _, -, rfl⟩ := compile_eq_ok_iff.1 ht'
    rw [ht]
  · rw [(spells_of_compile ht').unique hatoms, hsame]

set_option maxRecDepth 4000 in
/-- Between a name and the sign behind it. -/
theorem compile_spaced_sign :
    ∃ t tokens chars region t', compile "é$\x7b!a!==b\x7d" (.each ["a"]) none = .ok t ∧
      .marker tokens chars region ∈ Piece.ofText "é$\x7b!a!==b\x7d".toList ∧
      region.start + 2 ≤ 6 ∧ 6 < region.stop ∧ tokens.Gap 6 ∧
      compile "é$\x7b!a\u00a0 !==b\x7d" (.each ["a"]) none = .ok t' ∧
      ∀ store, (∃ out, t.render store = .ok out ∧ t'.render store = .ok out) ∨
        ∃ d d', t.render store = .error d ∧ t'.render store = .error d' ∧
          d.kind = d'.kind ∧ d.reason = d'.reason := by
  let tokens : TokenStream := .token ⟨.exclamation, ['!'], ⟨4, 5⟩⟩ (.token ⟨.name, ['a'], ⟨5, 6⟩⟩
    (.token ⟨.operator .strictNotEqual, ['!', '=', '='], ⟨6, 9⟩⟩
      (.token ⟨.name, ['b'], ⟨9, 10⟩⟩ (.close ⟨10, 11⟩))))
  have hpieces : Piece.ofText "é$\x7b!a!==b\x7d".toList =
      [.literal ['é'] ⟨0, 2⟩, .marker tokens "$\x7b!a!==b\x7d".toList ⟨2, 11⟩] := by
    cbv
  have hmarker : .marker tokens "$\x7b!a!==b\x7d".toList ⟨2, 11⟩ ∈
      Piece.ofText "é$\x7b!a!==b\x7d".toList := by
    rw [hpieces]
    exact List.mem_cons_of_mem _ List.mem_cons_self
  have hcompile : ∃ t, compile "é$\x7b!a!==b\x7d" (.each ["a"]) none = .ok t := ⟨_, by cbv⟩
  have hgap : tokens.Gap 6 := by decide
  have hblanks : ∀ b ∈ ['\u00a0', ' '], Text.isBlank b := by
    simp [Text.isBlank]
  obtain ⟨t, ht⟩ := hcompile
  obtain ⟨t', ht', hrender⟩ := @compile_spaced _ _ _ _ t ht _ _ "é$\x7b!a".toList
    "!==b\x7d".toList ['\u00a0', ' '] _ hmarker rfl (by decide) (by decide) hgap hblanks
  exact ⟨t, tokens, _, _, t', ht, hmarker, by decide, by decide, hgap, ht', hrender⟩

end Template

end TemplateLiteral
