import TemplateLiteral.Proofs.Expr.Qualification
import TemplateLiteral.Proofs.Token.Stretch

/-!
# Bindings in front of names

A binding and a point are put into a text in front of some names. In a marker this changes the
tokens in front of which they are put, and no other token, since what follows a token is still a
name where it was one. The marker is closed by the same brace.

## Main definitions

* `Text.insertAt`: a text with another one put in at some places

## Main results

* `Scans.exists_qualified`: the tokens of a stretch with bindings in front of marked names
-/

namespace TemplateLiteral

namespace Text

/-- The text at the byte offset `start`, with another one put in at the given offsets. -/
def insertAt (places : List Nat) (inserted : List Char) (start : Nat) : List Char → List Char
  | [] => []
  | c :: rest =>
    if start ∈ places then inserted ++ c :: insertAt places inserted (start + c.utf8Size) rest
    else c :: insertAt places inserted (start + c.utf8Size) rest

variable {places : List Nat} {inserted : List Char} {start : Nat}

theorem insertAt_append (xs ys : List Char) :
    insertAt places inserted start (xs ++ ys) =
      insertAt places inserted start xs ++
        insertAt places inserted (start + byteLength xs) ys := by
  induction xs generalizing start with
  | nil => rfl
  | cons c xs ih =>
    rw [List.cons_append, insertAt, insertAt, ih, byteLength_cons, Nat.add_assoc]
    split <;> simp

theorem insertAt_eq_self {text : List Char}
    (h : ∀ p, start ≤ p → p < start + byteLength text → p ∉ places) :
    insertAt places inserted start text = text := by
  induction text generalizing start with
  | nil => rfl
  | cons c text ih =>
    have hpos := c.utf8Size_pos
    rw [byteLength_cons] at h
    rw [insertAt, if_neg (h start (Nat.le_refl _) (by omega)), ih]
    exact fun p hstart hstop => h p (by omega) (by omega)

theorem insertAt_append_of_free {xs : List Char} (ys : List Char)
    (h : ∀ p, start ≤ p → p < start + byteLength xs → p ∉ places) :
    insertAt places inserted start (xs ++ ys) =
      xs ++ insertAt places inserted (start + byteLength xs) ys := by
  rw [insertAt_append, insertAt_eq_self h]

theorem exists_cons_of_insertAt_eq_cons {text tail : List Char} {c : Char} (hstart : start ∉ places)
    (h : insertAt places inserted start text = c :: tail) :
    ∃ rest, text = c :: rest ∧ insertAt places inserted (start + c.utf8Size) rest = tail := by
  cases text with
  | nil => cases h
  | cons d rest =>
    rw [insertAt, if_neg hstart] at h
    obtain ⟨rfl, rfl⟩ := List.cons.inj h
    exact ⟨rest, rfl, rfl⟩

/-- A word in front of which the text is put in, with nothing put into it. -/
theorem insertAt_cons_of_mem {c : Char} {more : List Char} (hstart : start ∈ places)
    (h : ∀ p, start < p → p < start + byteLength (c :: more) → p ∉ places) :
    insertAt places inserted start (c :: more) = inserted ++ c :: more := by
  have hpos := c.utf8Size_pos
  rw [byteLength_cons] at h
  rw [insertAt, if_pos hstart, insertAt_eq_self]
  exact fun p hfrom hto => h p (by omega) (by omega)

end Text

namespace Grammar

theorem mem_markedPlaces {marks : List (Token × Bool)} {p : Nat} :
    p ∈ markedPlaces marks ↔ ∃ t, (t, true) ∈ marks ∧ t.region.start = p := by
  simp [markedPlaces]

theorem mem_markedPlaces_cons {t : Token} {marked : Bool} {marks : List (Token × Bool)} {p : Nat} :
    p ∈ markedPlaces ((t, marked) :: marks) ↔
      marked = true ∧ p = t.region.start ∨ p ∈ markedPlaces marks := by
  cases marked <;> simp [markedPlaces]

end Grammar

open Grammar

section Binding

variable {binding : String}

/-- A word is read as a name if it has no other meaning. -/
theorem TokenKind.ofWord_eq_name_iff : ofWord binding = .name ↔ isReserved binding = false := by
  unfold ofWord isReserved
  cases Keyword.ofWord? binding with
  | some k => simp
  | none => simp

variable [Text.Alphabet]

theorem exists_cons_of_isIdentifier (h : isIdentifier binding) : ∃ b more,
    binding.toList = b :: more ∧ Text.isNameStart b ∧ (∀ c ∈ more, Text.isNamePart c) ∧
      TokenKind.ofWord binding = .name := by
  unfold isIdentifier at h
  split at h
  · cases h
  next b more heq =>
    rw [Bool.and_eq_true, Bool.and_eq_true, List.all_eq_true, Bool.not_eq_true'] at h
    obtain ⟨⟨hstart, hpart⟩, hreserved⟩ := h
    exact ⟨b, more, heq, hstart, hpart, TokenKind.ofWord_eq_name_iff.2 hreserved⟩

/-- A word of letters that is not taken is a name. -/
theorem isIdentifier_of_isAlpha {b : Char} {more : List Char}
    (hletters : binding.toList = b :: more) (halpha : (b :: more).all Char.isAlpha)
    (hword : isReserved binding = false) :
    isIdentifier binding := by
  obtain ⟨hstart, hpart⟩ := Bool.and_eq_true_iff.1 halpha
  have hmore : more.all Text.isNamePart := List.all_eq_true.2 fun d hd =>
    Text.isNamePart_of_isNameStart (Text.isNameStart_of_isAlpha (List.all_eq_true.1 hpart d hd))
  unfold isIdentifier
  rw [hletters, hword]
  simp only [Text.isNameStart_of_isAlpha hstart, hmore]
  rfl

/-- A name is a word that ends in front of a character that is in no name. -/
theorem first_identifier {b d : Char} {more : List Char} (hbinding : isIdentifier binding)
    (hletters : binding.toList = b :: more) (hd : Text.isNamePart d = false) (rest : List Char) :
    Lexeme.first b (more ++ d :: rest) = .ok (.name, more.length) := by
  obtain ⟨_, _, heq, hstart, hpart, hword⟩ := exists_cons_of_isIdentifier hbinding
  obtain ⟨rfl, rfl⟩ := List.cons.inj (hletters.symm.trans heq)
  have htake : (more ++ d :: rest).takeWhile Text.isNamePart = more := by
    rw [Number.Numeral.takeWhile_append_cons_of_neg hd, List.takeWhile_eq_self_iff]
    exact hpart
  rw [Lexeme.first_of_isNameStart hstart, htake, ← hletters, String.ofList_toList, hword]

/-- No name begins with a blank character or the closing brace. -/
theorem not_blank_of_isNameStart {c : Char} (hc : Text.isNameStart c) :
    ¬ Text.isBlank c ∧ c ≠ '}' := by
  constructor
  · intro hblank
    rw [Text.isNameStart_eq_false_of_isNamePart (Text.isNamePart_eq_false_of_isBlank hblank)] at hc
    cases hc
  · rintro rfl
    rw [Text.isNameStart_eq_false_of_isPunctuation (by decide)] at hc
    cases hc

/-- A binding and a point in front of a stretch that begins with a name. -/
theorem Scans.put_binding {after text blanks : List Char} {c : Char} {ts : List Token}
    {start : Nat} (hbinding : isIdentifier binding) (hblanks : ∀ b ∈ blanks, Text.isBlank b)
    (hc : Text.isNameStart c)
    (h : Scans after (start + Text.byteLength blanks + Text.byteLength (binding.toList ++ ['.']))
      (c :: text) ts) :
    ∃ name period : Token, name.kind = .name ∧ name.text = binding.toList ∧
      period.kind = .period ∧
      Scans after start (blanks ++ (binding.toList ++ '.' :: c :: text))
        (name :: period :: ts) := by
  obtain ⟨b, more, hletters, hstart, -, -⟩ := exists_cons_of_isIdentifier hbinding
  obtain ⟨hblank, hbrace⟩ := not_blank_of_isNameStart hstart
  have hpoint := Text.isNamePart_eq_false_of_isPunctuation (c := '.') (by decide)
  rw [Text.byteLength_append, ← Nat.add_assoc] at h
  have hperiod : Scans after (start + Text.byteLength blanks + Text.byteLength binding.toList)
      ('.' :: c :: text) (⟨.period, ['.'], _⟩ :: ts) :=
    Scans.lexeme (by decide) (by decide) (Lexeme.first_point hc) h
  rw [hletters] at hperiod ⊢
  exact ⟨_, _, rfl, rfl, rfl,
    .token hblanks hblank hbrace (first_identifier hbinding hletters hpoint _) hperiod⟩

end Binding

/-! ## Stretches with bindings -/

section Stretches

variable {binding : String} {places : List Nat} {after after' : List Char}

/-- Where marks and places agree on a stretch, nothing is put between its tokens or into them. -/
theorem Scans.exists_qualified [Text.Alphabet] (hbinding : isIdentifier binding)
    (hfork : Forks after after')
    (hend : ∃ s rest rest', after = s :: rest ∧ after' = s :: rest' ∧ Number.Numeral.Ends s)
    {start : Nat} {text : List Char} {ts : List Token} (h : Scans after start text ts)
    {marks : List (Token × Bool)} (hmarks : marks.map Prod.fst = ts)
    (hchain : ts.IsChain SignAfterNumber) (hnames : OnNames marks)
    (hplaces : ∀ p, start ≤ p → p < start + Text.byteLength text →
      (p ∈ places ↔ p ∈ markedPlaces marks)) :
    Forks (text ++ after) (Text.insertAt places (binding.toList ++ ['.']) start text ++ after') ∧
    ((∀ t ∈ ts.head?, t.kind.isSign) → ∃ s rest rest', text ++ after = s :: rest ∧
      Text.insertAt places (binding.toList ++ ['.']) start text ++ after' = s :: rest' ∧
      Number.Numeral.Ends s) ∧
    ∀ start', ∃ us,
      Scans after' start' (Text.insertAt places (binding.toList ++ ['.']) start text) us ∧
      Qualifies binding marks us := by
  induction h generalizing marks with
  | nil =>
    obtain rfl := List.map_eq_nil_iff.1 hmarks
    exact ⟨hfork, fun _ => hend, fun start' => ⟨[], .nil, .nil⟩⟩
  | @token start blanks more text c kind ts hblanks hblank hbrace hfirst hrest ih =>
    obtain ⟨⟨t, marked⟩, marks, rfl, rfl, rfl⟩ := List.map_eq_cons_iff.1 hmarks
    obtain ⟨hbehind, hchain⟩ := List.isChain_cons.1 hchain
    have hpos := c.utf8Size_pos
    simp only [mem_markedPlaces_cons] at hplaces
    have hlater : ∀ p ∈ markedPlaces marks,
        start + Text.byteLength blanks + Text.byteLength (c :: more) ≤ p := by
      intro p hp
      obtain ⟨t, ht, rfl⟩ := mem_markedPlaces.1 hp
      exact (hrest.within t (List.mem_map_of_mem ht)).1
    simp only [Text.byteLength_append, Text.byteLength_cons] at hplaces hlater ih
    -- Behind the token the same marks are left, and none in front of it or inside it.
    obtain ⟨hforkRest, hheadRest, hscansRest⟩ := ih rfl hchain
      (fun mark hmark => hnames mark (List.mem_cons_of_mem _ hmark)) (by
        intro p hfrom hto
        rw [hplaces p (by omega) (by omega), or_iff_right]
        omega)
    have hblanksSame : Text.insertAt places (binding.toList ++ ['.']) start blanks = blanks := by
      apply Text.insertAt_eq_self
      intro p hfrom hto hp
      rcases (hplaces p hfrom (by omega)).1 hp with ⟨-, hp⟩ | hp
      · omega
      · have := hlater p hp
        omega
    have hinside : ∀ p, start + Text.byteLength blanks < p →
        p < start + Text.byteLength blanks + Text.byteLength (c :: more) → p ∉ places := by
      rw [Text.byteLength_cons]
      intro p hfrom hto hp
      rcases (hplaces p (by omega) (by omega)).1 hp with ⟨-, hp⟩ | hp
      · omega
      · have := hlater p hp
        omega
    have hstart : start + Text.byteLength blanks ∈ places ↔ marked = true := by
      rw [hplaces _ (by omega) (by omega)]
      constructor
      · rintro (⟨hmarked, -⟩ | hp)
        · exact hmarked
        · have := hlater _ hp
          omega
      · exact fun hmarked => .inl ⟨hmarked, rfl⟩
    have hfirst' := Lexeme.first_congr hfirst hforkRest fun hnumber =>
      hheadRest fun u hu => hbehind u hu hnumber
    rw [Text.insertAt_append, Text.insertAt_append, hblanksSame]
    cases marked with
    | false =>
      have hsame : Text.insertAt places (binding.toList ++ ['.']) (start + Text.byteLength blanks)
          (c :: more) = c :: more := by
        apply Text.insertAt_eq_self
        intro p hfrom hto hp
        rcases Nat.eq_or_lt_of_le hfrom with rfl | hfrom
        · cases hstart.1 hp
        · exact hinside p hfrom hto hp
      rw [hsame, Text.byteLength_cons]
      refine ⟨?_, fun hsign => ?_, fun start' => ?_⟩
      · simpa only [List.append_assoc] using hforkRest.append (blanks ++ c :: more)
      · have hends : Number.Numeral.Ends c := Lexeme.ends_of_first_isSign hfirst (hsign _ rfl)
        cases blanks with
        | nil => exact ⟨c, _, _, rfl, rfl, hends⟩
        | cons b blanks =>
          have hb : Number.Numeral.Ends b :=
            Number.Numeral.ends_of_isBlank (hblanks b List.mem_cons_self)
          exact ⟨b, _, _, rfl, rfl, hb⟩
      · obtain ⟨us, hus, hqualifies⟩ := hscansRest
          (start' + Text.byteLength blanks + Text.byteLength (c :: more))
        exact ⟨_, .token hblanks hblank hbrace hfirst' hus, .keep rfl rfl hqualifies⟩
    | true =>
      obtain rfl : kind = .name := hnames _ List.mem_cons_self rfl
      have hc := Lexeme.isNameStart_of_first_name hfirst
      rw [Text.insertAt_cons_of_mem (hstart.2 rfl) hinside, Text.byteLength_cons]
      refine ⟨?_, fun hsign => absurd (hsign _ rfl) (by rintro ⟨⟩), fun start' => ?_⟩
      · obtain ⟨b, letters, hletters, hb, -, -⟩ := exists_cons_of_isIdentifier hbinding
        rw [hletters]
        simp only [List.append_assoc, List.cons_append]
        exact (forks_name hc hb _ _).append blanks
      · obtain ⟨us, hus, hqualifies⟩ := hscansRest (start' + Text.byteLength blanks +
          Text.byteLength (binding.toList ++ ['.']) + Text.byteLength (c :: more))
        obtain ⟨name, period, hname, htext, hperiod, hscans⟩ :=
          Scans.put_binding hbinding hblanks hc (Scans.lexeme hblank hbrace hfirst' hus)
        simp only [List.append_assoc, List.cons_append, List.nil_append]
        exact ⟨_, hscans, .mark hname htext hperiod rfl rfl hqualifies⟩

end Stretches

end TemplateLiteral
