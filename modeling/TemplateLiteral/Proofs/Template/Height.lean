import TemplateLiteral.Proofs.Expr.Height
import TemplateLiteral.Proofs.Template.Region
import TemplateLiteral.Proofs.Token.Lookahead

/-!
# Templates with high trees

No path in a template that compiles has more steps than the bound on nesting says, except for steps
back along chains. Two of these are enough for a path that is longer. All the same there is a bound
for all paths, and a template that reaches it: in each of its parentheses, links and operators are
put after a group as long as there is room.

## Main definitions

* `Grammar.Deep`: a text that is a phrase with a long path in its tree
* `Grammar.tower`: a text with the longest
* `Template.Reaches`: the lengths of paths in templates that compile

## Main results

* `Grammar.deep_tower`: how long the longest path in a tower is
* `Template.compile_length_lt`: what the bound on nesting bounds in a template that compiles
* `Template.isGreatest_reaches`: no path in a template that compiles is longer than that of a tower
-/

namespace TemplateLiteral

namespace Grammar

/-- In front of what no name goes on with, the text is a phrase of the kind. It is charged `room` at
most for its nesting, has at most the given numbers of links and operators in the chain at its top,
and has a path of the given length in its tree. -/
def Deep [Text.Alphabet] (c : Phrase) (room links operators height : Nat) (text : List Char) :
    Prop :=
  ∀ start after, (∀ d ∈ after.head?, Text.isNamePart d = false) → ∃ ts e,
    Scans after start text ts ∧ Derives c ts e ∧ e.Unmixed ∧ e.charge ≤ room ∧
      e.linkCount ≤ links ∧ e.operatorCount ≤ operators ∧ ∃ path : e.Path, path.length = height

section Deep

variable [Text.Alphabet] {c : Phrase} {start room links operators height : Nat}
  {text after : List Char}

/-! ## Texts of single tokens -/

/-- No name goes on with punctuation. -/
theorem isNamePart_eq_false_of_mem_head? {b : Char} {rest : List Char} (hb : Text.isPunctuation b) :
    ∀ d ∈ (b :: rest).head?, Text.isNamePart d = false := by
  rintro _ ⟨⟩
  exact Text.isNamePart_eq_false_of_isPunctuation hb

theorem scans_name (hafter : ∀ d ∈ after.head?, Text.isNamePart d = false) :
    Scans after start ['a'] [⟨.name, ['a'], ⟨start, start + Text.byteLength ['a']⟩⟩] := by
  have hword : after.takeWhile Text.isNamePart = [] := by
    cases after with
    | nil => rfl
    | cons d after => exact List.takeWhile_cons_of_neg (by simp [hafter d rfl])
  have hfirst : Lexeme.first 'a' after = .ok (.name, 0) := by
    rw [Lexeme.first_of_isNameStart (Text.isNameStart_of_isAlpha rfl), hword]
    rfl
  exact .single (by decide) (by decide) hfirst

/-! ## Phrases one inside the other -/

theorem deep_name : Deep .primary 0 0 0 0 ['a'] := by
  intro start after hafter
  exact ⟨_, _, scans_name hafter, .name rfl, trivial, Nat.le_refl 0, Nat.le_refl 0, Nat.le_refl 0,
    .name, rfl⟩

theorem Deep.group (h : Deep .expression room links operators height text) :
    Deep .primary (room + 1) 0 0 (height + 1) ('(' :: (text ++ [')'])) := by
  intro start after _
  obtain ⟨ts, e, hscans, hderives, hmix, hcharge, -, -, path, rfl⟩ :=
    h (start + Text.byteLength ['(']) (')' :: after) (isNamePart_eq_false_of_mem_head? (by decide))
  have hfirst : ∀ rest, Lexeme.first ')' rest = .ok (.closeParen, 0) := fun _ => rfl
  have hclose : Scans after (start + Text.byteLength ['('] + Text.byteLength text) [')'] _ :=
    .single (by decide) (by decide) (hfirst _)
  have hinside := scans_append_iff.2 ⟨text, [')'], rfl, hscans, hclose⟩
  exact ⟨_, _, .sign (by decide) (by decide) rfl hinside, .group rfl hderives rfl, hmix,
    Nat.succ_le_succ hcharge, Nat.le_refl 0, Nat.le_refl 0, .inner path, rfl⟩

theorem Deep.base (h : Deep .primary room links operators height text) :
    Deep .member room links operators height text := by
  intro start after hafter
  obtain ⟨ts, e, hscans, hderives, htree⟩ := h start after hafter
  exact ⟨ts, e, hscans, hderives.base, htree⟩

theorem Deep.operand (h : Deep .member room links operators height text) :
    Deep (.level BinaryOperator.add.precedence) room links operators height text := by
  intro start after hafter
  obtain ⟨ts, e, hscans, hderives, htree⟩ := h start after hafter
  exact ⟨ts, e, hscans, .loosen (.operand hderives.chain) (by decide), htree⟩

theorem Deep.expression (h : Deep c room links operators height text) :
    Deep .expression room links operators height text := by
  intro start after hafter
  obtain ⟨ts, e, hscans, hderives, htree⟩ := h start after hafter
  exact ⟨ts, e, hscans, hderives.expression, htree⟩

theorem Deep.link (h : Deep .member room links operators height text) (hroom : links + 1 ≤ room) :
    Deep .member room (links + 1) operators (height + 1) (text ++ ['.', 'a']) := by
  intro start after hafter
  obtain ⟨ts, e, hscans, hderives, hmix, hcharge, hlinks, -, path, rfl⟩ :=
    h start ('.' :: 'a' :: after) (isNamePart_eq_false_of_mem_head? (by decide))
  have hlink : Scans after (start + Text.byteLength text) ['.', 'a'] _ :=
    .sign (by decide) (by decide) (Lexeme.first_point (Text.isNameStart_of_isAlpha rfl))
      (scans_name hafter)
  refine ⟨_, _, scans_append_iff.2 ⟨text, _, rfl, hscans, hlink⟩, .property hderives rfl .name,
    hmix, ?_, Nat.succ_le_succ hlinks, Nat.zero_le _, .member path, rfl⟩
  exact Nat.max_le.2 ⟨hcharge, Nat.le_trans (Nat.succ_le_succ hlinks) hroom⟩

theorem Deep.operator
    (h : Deep (.level BinaryOperator.add.precedence) room links operators height text)
    (hroom : operators + 1 ≤ room) :
    Deep (.level BinaryOperator.add.precedence) room links (operators + 1) (height + 1)
      (text ++ ['+', 'a']) := by
  intro start after hafter
  obtain ⟨ts, e, hscans, hderives, hmix, hcharge, -, hoperators, path, rfl⟩ :=
    h start ('+' :: 'a' :: after) (isNamePart_eq_false_of_mem_head? (by decide))
  have hfirst : ∀ rest, Lexeme.first '+' rest = .ok (.operator .add, 0) := fun _ => rfl
  have hsign : Scans after (start + Text.byteLength text) ['+', 'a'] _ :=
    .sign (by decide) (by decide) (hfirst _) (scans_name hafter)
  have hright : ∀ t : Token, t.kind = .name →
      Derives (.level (BinaryOperator.add.precedence + 1)) [t] _ :=
    fun t ht => .loosen (.operand (.chain (.base (.name ht)))) (by decide)
  refine ⟨_, _, scans_append_iff.2 ⟨text, _, rfl, hscans, hsign⟩,
    .binary hderives rfl (hright _ rfl), ⟨nofun, hmix, trivial⟩, ?_, Nat.zero_le _,
    Nat.succ_le_succ hoperators, .left path, rfl⟩
  exact Nat.max_le.2 ⟨hcharge, Nat.le_trans (Nat.succ_le_succ hoperators) hroom⟩

/-! ## The longest paths -/

/-- As many links as there is room for. -/
theorem Deep.chain (h : Deep .member room 0 operators height text) {count : Nat}
    (hroom : count ≤ room) : Deep .member room count operators (height + count)
      (text ++ (List.replicate count ['.', 'a']).flatten) := by
  induction count with
  | zero => simpa using h
  | succ count ih =>
    rw [List.replicate_succ', List.flatten_concat, ← List.append_assoc]
    exact (ih (Nat.le_of_succ_le hroom)).link hroom

/-- As many operators as there is room for. -/
theorem Deep.sum (h : Deep (.level BinaryOperator.add.precedence) room links 0 height text)
    {count : Nat} (hroom : count ≤ room) :
    Deep (.level BinaryOperator.add.precedence) room links count (height + count)
      (text ++ (List.replicate count ['+', 'a']).flatten) := by
  induction count with
  | zero => simpa using h
  | succ count ih =>
    rw [List.replicate_succ', List.flatten_concat, ← List.append_assoc]
    exact (ih (Nat.le_of_succ_le hroom)).operator hroom

/-- Groups one inside the other, with a chain of links and a chain of operators behind each that
have as many steps as there are groups up to there. -/
def tower : Nat → List Char
  | 0 => ['a']
  | room + 1 =>
    '(' :: (tower room ++ [')']) ++ (List.replicate (room + 1) ['.', 'a']).flatten ++
      (List.replicate (room + 1) ['+', 'a']).flatten

theorem deep_tower (room : Nat) :
    Deep .expression room room room (room * room + room + room) (tower room) := by
  induction room with
  | zero => exact deep_name.expression
  | succ room ih =>
    have hgroup := ih.group
    have hlinks := hgroup.base.chain (Nat.le_refl (room + 1))
    have hsum := hlinks.operand.sum (Nat.le_refl (room + 1))
    have hheight : room * room + room + room + 1 = (room + 1) * (room + 1) := by ring
    rw [hheight] at hsum
    exact hsum.expression

/-- Groups one inside the other, without anything behind them. -/
theorem deep_groups (room : Nat) :
    Deep .primary room 0 0 room (List.replicate room '(' ++ 'a' :: List.replicate room ')') := by
  induction room with
  | zero => exact deep_name
  | succ room ih =>
    have hgroup := ih.expression.group
    rw [List.append_assoc, List.cons_append, ← List.replicate_succ', ← List.cons_append,
      ← List.replicate_succ] at hgroup
    exact hgroup

end Deep

end Grammar

namespace Template

open Grammar

/-- Some template compiles that has an expression with a path of the given length. -/
def Reaches [Text.Alphabet] (n : Nat) : Prop :=
  ∃ source parameters name t e chars region, ∃ s : Expr, ∃ path : s.Path,
    compile source parameters name = .ok t ∧ .marker e chars region ∈ t.segments ∧ s.Within e ∧
      path.length = n

/-- A marker with a phrase that has a long path in its tree. -/
theorem exists_compile_of_deep [Text.Alphabet] {room links operators height : Nat}
    {text : List Char}
    (h : Deep .expression room links operators height text) (hroom : room < maxNesting)
    {parameters : Parameters} (hparameters : parameters.fault? = none) :
    ∃ t e chars region, ∃ path : e.Path,
      compile ("$\x7b" ++ String.ofList (text ++ ['}'])) parameters none = .ok t ∧
      .marker e chars region ∈ t.segments ∧ path.length = height := by
  obtain ⟨ts, e, hscans, hderives, hmix, hcharge, -, -, path, hpath⟩ :=
    h 2 ['}'] (isNamePart_eq_false_of_mem_head? (by decide))
  have hnesting : e.nesting ≤ maxNesting := Nat.succ_le_of_lt (Nat.lt_of_le_of_lt hcharge hroom)
  exact ⟨_, e, _, _, path, compile_phrase hparameters hscans hderives hmix hnesting,
    List.mem_cons_self, hpath⟩

section Compiled

variable {source : String} {parameters : Parameters} {name : Option String} {t : Template}
  {e s : Expr} {chars : List Char} {region : Region}

/-- A path in a template that compiles has fewer steps than the bound on nesting, besides those back
along chains: it keeps to the bound if there is one of these at most. The square of the bound is a
bound whatever the path. -/
theorem compile_length_lt [Text.Alphabet] (h : compile source parameters name = .ok t)
    (hmarker : .marker e chars region ∈ t.segments) (hs : s.Within e) (path : s.Path) :
    path.length < maxNesting + path.back ∧ path.length < maxNesting * maxNesting := by
  obtain ⟨_, _, _, _, -, -, -, -, he⟩ := (reads_of_compile h).closes e chars region hmarker
  exact path.length_le_of_ofTokens he hs

end Compiled

/-- An operator that comes after a group leads back along its chain, which is not charged for. -/
theorem compile_length_lt_group : ∃ t e chars region, ∃ path : e.Path,
    compile "$\x7b(a.b)+c\x7d" (.each ["a", "c"]) none = .ok t ∧
    .marker e chars region ∈ t.segments ∧ path.length = 3 ∧ path.back = 1 ∧
    path.length < maxNesting + path.back ∧ path.length < maxNesting * maxNesting := by
  let e : Expr := .binary .add (.group (.member (.name "a" ⟨3, 4⟩) "b" ⟨5, 6⟩ false ⟨3, 6⟩) ⟨2, 7⟩)
    (.name "c" ⟨8, 9⟩) ⟨2, 9⟩
  let path : e.Path := .left (.inner (.member .name))
  have hcompile : compile "$\x7b(a.b)+c\x7d" (.each ["a", "c"]) none =
      .ok ⟨"$\x7b(a.b)+c\x7d", none, .each ["a", "c"],
        [.marker e "$\x7b(a.b)+c\x7d".toList ⟨0, 10⟩]⟩ := by
    cbv
  have hmarker : .marker e "$\x7b(a.b)+c\x7d".toList ⟨0, 10⟩ ∈
      [Segment.marker e "$\x7b(a.b)+c\x7d".toList ⟨0, 10⟩] := List.mem_cons_self
  exact ⟨_, e, _, _, path, hcompile, hmarker, rfl, rfl,
    compile_length_lt hcompile hmarker (.refl e) path⟩

/-- Behind a group that takes all the room there is room for two more operators above it. -/
theorem compile_groups_sum : ∃ t e chars region, ∃ path : e.Path,
    compile ("$\x7b" ++ String.ofList (List.replicate 63 '(' ++ 'a' :: List.replicate 63 ')' ++
      "+a+a".toList ++ ['}'])) (.each ["a"]) none = .ok t ∧
    .marker e chars region ∈ t.segments ∧ path.length = 65 := by
  have hsum := (deep_groups 63).base.operand.sum (by decide : 2 ≤ 63)
  exact exists_compile_of_deep hsum.expression (by decide) (by cbv)

/-- The longest path in all templates that compile has one step less than the square of the bound on
nesting. -/
theorem isGreatest_reaches [Text.Alphabet] :
    IsGreatest {n | Reaches n} (maxNesting * maxNesting - 1) := by
  constructor
  · obtain ⟨t, e, chars, region, path, hcompile, hmarker, hpath⟩ :=
      @exists_compile_of_deep _ _ _ _ _ _ (deep_tower 63) (by decide) (.each []) rfl
    exact ⟨_, _, _, t, e, chars, region, e, path, hcompile, hmarker, .refl e, hpath⟩
  · rintro n ⟨source, parameters, name, t, e, chars, region, s, path, hcompile, hmarker, hs, rfl⟩
    obtain ⟨_, _, _, _, -, -, -, -, he⟩ := (reads_of_compile hcompile).closes e chars region hmarker
    exact Nat.le_pred_of_lt (path.length_le_of_ofTokens he hs).2

end Template

end TemplateLiteral
