import TemplateLiteral.Proofs.Expr.Relocation
import TemplateLiteral.Proofs.Template.Reading

/-!
# What a text spells, character by character

Segments join what stands between two markers. For what is said of a place inside literal text they
are too coarse; here a text spells single characters and values, one after the other. Only two
characters have to be seen after one to know what it spells, so that a text spells the same in front
of any other, unless it ends inside an escape or an opening.

## Main definitions

* `Atom`, `Spells`: the characters and values that a text spells
* `Segment.atoms`: what a segment spells

## Main results

* `spells_iff`: a text spells what its segments do
* `Spells.append_iff`: what a text spells in front of another
* `Spells.relocate`: what a text spells at another place
-/

namespace TemplateLiteral

/-- What a template shows at once: a character, or the value of an expression. -/
inductive Atom where
  | char (c : Char)
  | value (e : Expr)

/-- The character is literal in front of the text, since neither an escape nor an opening begins
with it. -/
structure Plain (c : Char) (rest : List Char) : Prop where
  escape : ∀ tail, c = '\\' → rest ≠ '$' :: '{' :: tail
  pair : ∀ tail, c = '\\' → rest ≠ '\\' :: tail
  opening : ∀ tail, c = '$' → rest ≠ '{' :: tail

/-- What a text at a byte offset spells. -/
inductive Spells [Text.Alphabet] : Nat → List Char → List Atom → Prop where
  | nil {start : Nat} : Spells start [] []
  /-- The backslash in front of an opening spells nothing. -/
  | escape {start : Nat} {rest : List Char} {atoms : List Atom} :
      Spells (start + 3) rest atoms →
      Spells start ('\\' :: '$' :: '{' :: rest) (.char '$' :: .char '{' :: atoms)
  /-- The second of two backslashes does not escape what follows it. -/
  | pair {start : Nat} {rest : List Char} {atoms : List Atom} :
      Spells (start + 2) rest atoms →
      Spells start ('\\' :: '\\' :: rest) (.char '\\' :: .char '\\' :: atoms)
  | marker {start : Nat} {text : List Char} {e : Expr} {atoms : List Atom} :
      Expr.ofTokens (scan (start + 2) text).tokens = .ok e →
      Spells (start + Text.byteLength ('$' :: '{' :: (scan (start + 2) text).body))
        (scan (start + 2) text).rest atoms →
      Spells start ('$' :: '{' :: text) (.value e :: atoms)
  | char {start : Nat} {c : Char} {rest : List Char} {atoms : List Atom} :
      Plain c rest → Spells (start + c.utf8Size) rest atoms →
      Spells start (c :: rest) (.char c :: atoms)

/-! ## One step of spelling -/

section Steps

variable [Text.Alphabet] {start : Nat} {c : Char} {text rest : List Char} {atoms : List Atom}

theorem spells_nil_iff : Spells start [] atoms ↔ atoms = [] := by
  constructor
  · rintro ⟨⟩
    rfl
  · rintro rfl
    exact .nil

theorem spells_escape_iff : Spells start ('\\' :: '$' :: '{' :: rest) atoms ↔
    ∃ more, atoms = .char '$' :: .char '{' :: more ∧ Spells (start + 3) rest more := by
  constructor
  · intro h
    cases h with
    | escape h => exact ⟨_, rfl, h⟩
    | char hplain => exact absurd rfl (hplain.escape rest rfl)
  · intro h
    obtain ⟨more, rfl, h⟩ := h
    exact .escape h

theorem spells_pair_iff : Spells start ('\\' :: '\\' :: rest) atoms ↔
    ∃ more, atoms = .char '\\' :: .char '\\' :: more ∧ Spells (start + 2) rest more := by
  constructor
  · intro h
    cases h with
    | pair h => exact ⟨_, rfl, h⟩
    | char hplain => exact absurd rfl (hplain.pair rest rfl)
  · intro h
    obtain ⟨more, rfl, h⟩ := h
    exact .pair h

theorem spells_marker_iff : Spells start ('$' :: '{' :: text) atoms ↔
    ∃ e more, atoms = .value e :: more ∧
      Expr.ofTokens (scan (start + 2) text).tokens = .ok e ∧
      Spells (start + Text.byteLength ('$' :: '{' :: (scan (start + 2) text).body))
        (scan (start + 2) text).rest more := by
  constructor
  · intro h
    cases h with
    | marker he h => exact ⟨_, _, rfl, he, h⟩
    | char hplain => exact absurd rfl (hplain.opening text rfl)
  · intro h
    obtain ⟨e, more, rfl, he, h⟩ := h
    exact .marker he h

theorem spells_char_iff (hplain : Plain c rest) : Spells start (c :: rest) atoms ↔
    ∃ more, atoms = .char c :: more ∧ Spells (start + c.utf8Size) rest more := by
  constructor
  · intro h
    cases h with
    | escape => exact absurd rfl (hplain.escape _ rfl)
    | pair => exact absurd rfl (hplain.pair _ rfl)
    | marker => exact absurd rfl (hplain.opening _ rfl)
    | char _ h => exact ⟨_, rfl, h⟩
  · intro h
    obtain ⟨more, rfl, h⟩ := h
    exact .char hplain h

end Steps

/-! ## What segments spell -/

/-- What a segment spells. -/
def Segment.atoms : Segment → List Atom
  | .literal text _ => text.map .char
  | .marker e _ _ => [.value e]

theorem Segment.flatMap_atoms_literals (start : Nat) (text : List Char) :
    (Segment.literals start text).flatMap Segment.atoms = text.map .char := by
  cases text with
  | nil => rfl
  | cons c text => exact List.append_nil _

theorem exists_append_append_iff {α : Type} {all xs ys : List α} {p : List α → Prop} :
    (∃ zs, all = xs ++ zs ∧ ∃ more, zs = ys ++ more ∧ p more) ↔
      ∃ more, all = (xs ++ ys) ++ more ∧ p more := by
  constructor
  · intro h
    obtain ⟨_, rfl, more, rfl, h⟩ := h
    exact ⟨more, (List.append_assoc xs ys more).symm, h⟩
  · intro h
    obtain ⟨more, rfl, h⟩ := h
    exact ⟨ys ++ more, List.append_assoc xs ys more, more, rfl, h⟩

/-- A text spells its literal text, and then what the rest spells. -/
theorem spells_takeLiteral_iff [Text.Alphabet] {start : Nat} {text : List Char}
    {atoms : List Atom} :
    Spells start text atoms ↔ ∃ more, atoms = (takeLiteral text).1.map .char ++ more ∧
      Spells (start + Text.byteLength (takeLiteral text).1) (takeLiteral text).2.text more := by
  -- No text is literal where it ends or where an escape or an opening stands.
  have hempty : ∀ {start : Nat} {text : List Char} {atoms : List Atom},
      Spells start text atoms ↔ ∃ more, atoms = [] ++ more ∧ Spells start text more := by
    intro start text atoms
    exact ⟨fun h => ⟨atoms, rfl, h⟩, fun ⟨_, hmore, h⟩ => hmore ▸ h⟩
  fun_induction takeLiteral text generalizing start atoms with
  | case1 => exact hempty
  | case2 rest => exact hempty
  | case3 rest literal ending heq ih =>
    have hplace : start + Text.byteLength ('\\' :: '\\' :: literal) =
        start + 2 + Text.byteLength literal := by
      rw [Nat.add_assoc]
      exact congrArg (start + ·) (Nat.add_assoc 1 1 _).symm
    rw [heq] at ih
    dsimp only at ih ⊢
    simp only [spells_pair_iff, hplace, ih]
    exact @exists_append_append_iff _ atoms [.char '\\', .char '\\'] (literal.map .char) _
  | case4 rest => exact hempty
  | case5 c rest hescape hpair hopening literal ending heq ih =>
    have hplain : Plain c rest := ⟨hescape, hpair, hopening⟩
    have hplace : start + Text.byteLength (c :: literal) =
        start + c.utf8Size + Text.byteLength literal := (Nat.add_assoc _ _ _).symm
    rw [heq] at ih
    dsimp only at ih ⊢
    simp only [spells_char_iff hplain, hplace, ih]
    exact @exists_append_append_iff _ atoms [.char c] (literal.map .char) _

/-- A text spells what its segments spell, and it spells something only if it has segments. -/
theorem spells_iff [Text.Alphabet] {start : Nat} {text : List Char} {atoms : List Atom} :
    Spells start text atoms ↔ ∃ segments,
      (Piece.ofTextAt start text).mapM Segment.ofPiece = .ok segments ∧
      atoms = segments.flatMap Segment.atoms := by
  -- By induction on the length, as the pieces are cut off: literal text first, then what ends it.
  induction hlength : text.length using Nat.strongRecOn generalizing start text atoms with
  | ind n ih =>
  subst hlength
  have happend := takeLiteral_append text
  rw [spells_takeLiteral_iff]
  match hliteral : takeLiteral text with
  | (lit, .endOfText) =>
    rw [Piece.ofTextAt_of_endOfText hliteral, Segment.mapM_ofPiece_literals]
    simp only [LiteralEnd.text, spells_nil_iff]
    constructor
    · intro h
      obtain ⟨_, rfl, rfl⟩ := h
      exact ⟨_, rfl, by rw [Segment.flatMap_atoms_literals, List.append_nil]⟩
    · intro h
      obtain ⟨_, ⟨⟩, rfl⟩ := h
      exact ⟨[], by rw [Segment.flatMap_atoms_literals, List.append_nil], rfl⟩
  | (lit, .escape rest) =>
    rw [hliteral] at happend
    subst happend
    have hshorter : rest.length < (lit ++ (LiteralEnd.escape rest).text).length := by
      simp [LiteralEnd.text]
      omega
    rw [Piece.ofTextAt_of_escape hliteral]
    simp only [LiteralEnd.text, spells_escape_iff, Segment.mapM_ofPiece_literals_append,
      ih _ hshorter rfl]
    constructor
    · intro h
      obtain ⟨_, rfl, _, rfl, segments, hsegments, rfl⟩ := h
      refine ⟨_, ⟨_, segments, rfl, hsegments, rfl⟩, ?_⟩
      rw [List.flatMap_append, Segment.flatMap_atoms_literals]
      rfl
    · intro h
      obtain ⟨_, ⟨s, segments, hs, hsegments, rfl⟩, rfl⟩ := h
      cases hs
      refine ⟨_, ?_, _, rfl, segments, hsegments, rfl⟩
      rw [List.flatMap_append, Segment.flatMap_atoms_literals]
      rfl
  | (lit, .opening rest) =>
    rw [hliteral] at happend
    subst happend
    have hshorter : (scan (start + Text.byteLength lit + 2) rest).rest.length <
        (lit ++ (LiteralEnd.opening rest).text).length := by
      have := scan_rest_length_le (start + Text.byteLength lit + 2) rest
      simp [LiteralEnd.text]
      omega
    rw [Piece.ofTextAt_of_opening hliteral]
    simp only [LiteralEnd.text, spells_marker_iff, Segment.mapM_ofPiece_literals_append,
      ih _ hshorter rfl]
    constructor
    · intro h
      obtain ⟨_, rfl, e, _, rfl, he, segments, hsegments, rfl⟩ := h
      refine ⟨_, ⟨_, segments, map_eq_ok_iff.2 ⟨e, he, rfl⟩, hsegments, rfl⟩, ?_⟩
      rw [List.flatMap_append, Segment.flatMap_atoms_literals]
      rfl
    · intro h
      obtain ⟨_, ⟨s, segments, hs, hsegments, rfl⟩, rfl⟩ := h
      obtain ⟨e, he, rfl⟩ := map_eq_ok_iff.1 hs
      refine ⟨_, ?_, e, _, rfl, he, segments, hsegments, rfl⟩
      rw [List.flatMap_append, Segment.flatMap_atoms_literals]
      rfl

/-! ## Spelling in front of another text -/

/-- Neither an escape nor an opening begins with the last character of the text. -/
def EndsPlain (text : List Char) : Prop :=
  text.getLast? ≠ some '\\' ∧ text.getLast? ≠ some '$'

theorem EndsPlain.right {xs ys : List Char} (h : EndsPlain (xs ++ ys)) : EndsPlain ys := by
  rw [EndsPlain, List.getLast?_append] at h
  refine ⟨fun hys => h.1 ?_, fun hys => h.2 ?_⟩
  · rw [hys, Option.some_or]
  · rw [hys, Option.some_or]

theorem Plain.append {c : Char} {rest after : List Char} (h : Plain c rest)
    (hends : EndsPlain (c :: rest)) : Plain c (rest ++ after) where
  -- What makes a character special stands in the first text, or that text ends with a backslash
  -- or a dollar sign.
  escape := by
    rintro tail rfl heq
    match rest with
    | [] => exact hends.1 rfl
    | [d] =>
      obtain ⟨rfl, -⟩ := List.cons.inj heq
      exact hends.2 rfl
    | d :: d' :: rest =>
      simp only [List.cons_append, List.cons.injEq] at heq
      obtain ⟨rfl, rfl, -⟩ := heq
      exact h.escape rest rfl rfl
  pair := by
    rintro tail rfl heq
    match rest with
    | [] => exact hends.1 rfl
    | d :: rest =>
      obtain ⟨rfl, -⟩ := List.cons.inj heq
      exact h.pair rest rfl rfl
  opening := by
    rintro tail rfl heq
    match rest with
    | [] => exact hends.2 rfl
    | d :: rest =>
      obtain ⟨rfl, -⟩ := List.cons.inj heq
      exact h.opening rest rfl rfl

variable [Text.Alphabet]

/-- What is scanned up to the end of a marker is the same in front of another text. -/
theorem scan_append_of_ofTokens {start : Nat} {text after : List Char} {e : Expr}
    (h : Expr.ofTokens (scan start text).tokens = .ok e) :
    scan start (text ++ after) =
      ⟨(scan start text).tokens, (scan start text).body, (scan start text).rest ++ after⟩ := by
  have hbody := encloses_of_closes (Expr.closes_of_ofTokens_eq_ok h)
  have hscan := hbody.2 ((scan start text).rest ++ after)
  rw [← List.append_assoc, scan_body_append_rest] at hscan
  exact hscan

/-- In front of another text, a text spells what it spells alone, if it does not end with a
character that an escape or an opening may begin with. -/
theorem Spells.append_iff {start : Nat} {text after : List Char} {atoms all : List Atom}
    (h : Spells start text atoms) (hends : EndsPlain text) :
    Spells start (text ++ after) all ↔
      ∃ more, all = atoms ++ more ∧ Spells (start + Text.byteLength text) after more := by
  induction h generalizing all with
  | nil => exact ⟨fun h => ⟨all, rfl, h⟩, fun ⟨_, hmore, h⟩ => hmore ▸ h⟩
  | @escape start rest atoms _ ih =>
    have hrest : EndsPlain rest := @EndsPlain.right ['\\', '$', '{'] rest hends
    have hplace : start + Text.byteLength ('\\' :: '$' :: '{' :: rest) =
        start + 3 + Text.byteLength rest := by
      rw [byteLength_escape]
      omega
    simp only [List.cons_append, spells_escape_iff, ih hrest, hplace]
    exact @exists_append_append_iff _ all [.char '$', .char '{'] atoms _
  | @pair start rest atoms _ ih =>
    have hrest : EndsPlain rest := @EndsPlain.right ['\\', '\\'] rest hends
    have hplace : start + Text.byteLength ('\\' :: '\\' :: rest) =
        start + 2 + Text.byteLength rest := by
      rw [Nat.add_assoc]
      exact congrArg (start + ·) (Nat.add_assoc 1 1 _).symm
    simp only [List.cons_append, spells_pair_iff, ih hrest, hplace]
    exact @exists_append_append_iff _ all [.char '\\', .char '\\'] atoms _
  | @marker start text e atoms he _ ih =>
    have hsplit := scan_body_append_rest (start + 2) text
    have hrest : EndsPlain (scan (start + 2) text).rest := by
      have hbody : EndsPlain (['$', '{'] ++ (scan (start + 2) text).body ++
          (scan (start + 2) text).rest) := by
        rw [List.append_assoc, hsplit]
        exact hends
      exact hbody.right
    have hplace : start + Text.byteLength ('$' :: '{' :: text) =
        start + Text.byteLength ('$' :: '{' :: (scan (start + 2) text).body) +
          Text.byteLength (scan (start + 2) text).rest := by
      rw [Nat.add_assoc, ← Text.byteLength_append, List.cons_append, List.cons_append, hsplit]
    -- The marker is closed, so it is scanned and read as it is without the other text.
    simp only [List.cons_append, spells_marker_iff, scan_append_of_ofTokens he, ih hrest, hplace,
      he]
    constructor
    · intro h
      obtain ⟨_, _, rfl, ⟨⟩, more, rfl, h⟩ := h
      exact ⟨more, rfl, h⟩
    · intro h
      obtain ⟨more, rfl, h⟩ := h
      exact ⟨e, _, rfl, rfl, more, rfl, h⟩
  | @char start c rest atoms hplain _ ih =>
    -- The character is literal in front of the other text too, also if it is the last.
    have hrest : EndsPlain rest := @EndsPlain.right [c] rest hends
    have hplace : start + Text.byteLength (c :: rest) =
        start + c.utf8Size + Text.byteLength rest := (Nat.add_assoc _ _ _).symm
    simp only [List.cons_append, spells_char_iff (hplain.append hends), ih hrest, hplace]
    exact @exists_append_append_iff _ all [.char c] atoms _

/-! ## Spelling at another place -/

/-- The atom with the regions of its expression moved. -/
def Atom.relocate (φ : Nat → Nat) : Atom → Atom
  | char c => char c
  | value e => value (e.relocate φ)

/-- At another place a text spells the same, with all regions moved. -/
theorem Spells.relocate {φ : Nat → Nat} {start : Nat} {text : List Char} {atoms : List Atom}
    (h : Spells start text atoms) (hφ : Shifts φ start) (hmono : Monotone φ) :
    Spells (φ start) text (atoms.map (Atom.relocate φ)) := by
  induction h with
  | nil => exact .nil
  | escape _ ih => exact .escape (hφ 3 ▸ ih (hφ.add 3))
  | pair _ ih => exact .pair (hφ 2 ▸ ih (hφ.add 2))
  | @marker start text e atoms he _ ih =>
    have hscan : scan (φ start + 2) text = ⟨(scan (start + 2) text).tokens.relocate φ,
        (scan (start + 2) text).body, (scan (start + 2) text).rest⟩ := by
      rw [← hφ 2, scan_relocate (hφ.add 2)]
    have htokens : Expr.ofTokens (scan (φ start + 2) text).tokens = .ok (e.relocate φ) := by
      rw [hscan]
      exact Expr.ofTokens_relocate hmono he
    apply Spells.marker htokens
    rw [hscan, ← hφ]
    exact ih (hφ.add _)
  | char hplain _ ih => exact .char hplain (hφ _ ▸ ih (hφ.add _))

/-- A text spells one thing only. -/
theorem Spells.unique {start : Nat} {text : List Char} {xs ys : List Atom}
    (hxs : Spells start text xs) (hys : Spells start text ys) : xs = ys := by
  obtain ⟨segments, hsegments, rfl⟩ := spells_iff.1 hxs
  obtain ⟨_, hsegments', rfl⟩ := spells_iff.1 hys
  obtain rfl := Except.ok.inj (hsegments.symm.trans hsegments')
  rfl

/-- Behind another text, a whole text spells what it spells alone, moved by what stands before. -/
theorem Spells.append_iff_relocate {text after : List Char} {atoms all : List Atom}
    (h : Spells 0 text atoms) (hends : EndsPlain text) :
    Spells 0 (text ++ after) all ↔ ∃ more, Spells 0 after more ∧
      all = atoms ++ more.map (Atom.relocate (· + Text.byteLength text)) := by
  have hforth : ∀ {more}, Spells 0 after more → Spells (0 + Text.byteLength text) after
      (more.map (Atom.relocate (· + Text.byteLength text))) := fun hmore =>
    hmore.relocate (shifts_add _ 0) (fun _ _ hle => Nat.add_le_add_right hle _)
  rw [h.append_iff hends]
  constructor
  · intro h
    obtain ⟨moved, rfl, hmoved⟩ := h
    -- Moved back, it is what the text spells alone; moved forth again, it is what it was.
    have hback := hmoved.relocate (shifts_sub _) fun _ _ hle => Nat.sub_le_sub_right hle _
    rw [Nat.sub_self] at hback
    exact ⟨_, hback, congrArg (atoms ++ ·) (hmoved.unique (hforth hback))⟩
  · intro h
    obtain ⟨more, hmore, rfl⟩ := h
    exact ⟨_, rfl, hforth hmore⟩

end TemplateLiteral
