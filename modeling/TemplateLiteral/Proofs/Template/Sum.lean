import TemplateLiteral.Proofs.Expr.Evaluation
import TemplateLiteral.Proofs.Template.Failure
import TemplateLiteral.Proofs.Template.Unplaced
import TemplateLiteral.Proofs.Token.Spacing
import TemplateLiteral.Proofs.Value.Text

/-!
# Markers in a row and sums

Markers in a row show what one marker shows that adds their expressions to an empty string: a sum
with a string on its left is the string with a text behind it, and this text is the one that a
marker shows. In the sum the expressions stand in parentheses. No token goes on with a parenthesis,
so that each is read as the same tokens there, moved; and the whole is read as sums of sums, the
empty string with the first expression added, then the second, and so on.

## Main definitions

* `Expr.Fills`: what a marker holds
* `Expr.Adds`: an expression with others added to it
* `Template.markers`, `Template.sum`: the two texts

## Main results

* `Expr.Fills.exists_scans`: what a marker holds, in parentheses
* `exists_scans_addends`: what is added, as tokens and as a tree
* `Scope.adds_together`: the value of a sum
-/

namespace TemplateLiteral

open Grammar

namespace Expr

/-- The text is all that stands in a marker with the expression. -/
structure Fills [Text.Alphabet] (text : List Char) (e : Expr) : Prop where
  read : Expr.ofTokens (scan 2 (text ++ ['}'])).tokens = .ok e
  rest : (scan 2 (text ++ ['}'])).rest = []

theorem Fills.unmixed [Text.Alphabet] {text : List Char} {e : Expr} (h : Fills text e) :
    e.Unmixed := by
  obtain ⟨_, _, -, -, hmix, -⟩ := Expr.ofTokens_eq_ok_iff.1 h.read
  exact hmix

/-- The expression is the first one with the others added, each of them in parentheses. -/
inductive Adds : Expr → List Expr → Expr → Prop where
  | nil (e : Expr) : Adds e [] e
  | cons {e f sum : Expr} {es : List Expr} {φ : Nat → Nat} {r r' : Region} :
      Adds (.binary .add e (.group (f.relocate φ) r) r') es sum → Adds e (f :: es) sum

end Expr

/-! ## Sums in a text -/

/-- The text of what is added: an expression in parentheses, behind a `+`. -/
def addend (text : List Char) : List Char :=
  [' '] ++ '+' :: ([' '] ++ '(' :: (text ++ [')']))

/-- A stretch that begins with blank characters and a single sign. -/
theorem Scans.blanks_sign [Text.Alphabet] {start : Nat} {blanks text after : List Char}
    {ts : List Token} {sign : Char} {kind : TokenKind} (hblanks : ∀ b ∈ blanks, Text.isBlank b)
    (hblank : ¬ Text.isBlank sign) (hbrace : sign ≠ '}')
    (hfirst : Lexeme.first sign (text ++ after) = .ok (kind, 0))
    (hrest : Scans after (start + Text.byteLength blanks + Text.byteLength [sign]) text ts) :
    Scans after start (blanks ++ sign :: text)
      (⟨kind, [sign], ⟨start + Text.byteLength blanks,
        start + Text.byteLength blanks + Text.byteLength [sign]⟩⟩ :: ts) :=
  @Scans.token _ after start blanks [] text sign kind ts hblanks hblank hbrace hfirst hrest

/-- A stretch is read as the same tokens in front of blank characters and a parenthesis. -/
theorem Scans.closeParen [Text.Alphabet] {start : Nat} {blanks text after : List Char}
    {ts : List Token} (h : Scans after start text ts) (hblanks : ∀ b ∈ blanks, Text.isBlank b)
    (rest : List Char) :
    Scans (blanks ++ [')'] ++ rest) start text ts := by
  cases blanks with
  | nil => exact h.delimited Lexeme.delimits_closeParen rest
  | cons b blanks => exact h.stopped (Lexeme.stops_of_isBlank (hblanks b List.mem_cons_self)) _

/-- What a marker holds is read as the same expression, moved, when it is added to something. -/
theorem Expr.Fills.exists_scans [Text.Alphabet] {text : List Char} {e : Expr} (h : Fills text e)
    (start : Nat) :
    ∃ sign opening closing : Token, ∃ us,
      (∀ after, Scans after start (addend text) (sign :: opening :: (us ++ [closing]))) ∧
      Derives .expression us (e.relocate (· + (start + 2))) ∧ sign.kind = .operator .add ∧
      opening.kind = .openParen ∧ closing.kind = .closeParen := by
  obtain ⟨front, blanks, rest, us, _, hsplit, hblanks, hfront, hderives, hscan⟩ :=
    exists_scans_of_ofTokens h.read
  obtain rfl : rest = [] := by
    have hnone := h.rest
    rw [hscan] at hnone
    exact hnone
  obtain rfl : text = front ++ blanks := by
    rw [← List.append_assoc] at hsplit
    exact List.append_cancel_right hsplit
  have hspace : ∀ b ∈ [' '], Text.isBlank b := List.forall_mem_singleton.2 rfl
  have hmono : Monotone (· + (start + 2)) := fun _ _ hle => Nat.add_le_add_right hle _
  -- The sign and the parenthesis take two characters each, and a marker opens with two.
  have hplace : 2 + (start + 2) = start + Text.byteLength [' '] + Text.byteLength ['+'] +
      Text.byteLength [' '] + Text.byteLength ['('] := by
    change 2 + (start + 2) = start + 1 + 1 + 1 + 1
    omega
  have hfirst : ∀ rest, Lexeme.first '(' rest = .ok (.openParen, 0) ∧
      Lexeme.first ')' rest = .ok (.closeParen, 0) ∧
      Lexeme.first '+' rest = .ok (.operator .add, 0) := fun _ => ⟨rfl, rfl, rfl⟩
  have hmoved : Scans _ (2 + (start + 2)) front _ := hfront.relocate (shifts_add (start + 2) 2)
  rw [hplace] at hmoved
  have hinside := hmoved.closeParen hblanks
  have hparens : ∀ after, Scans after _ (front ++ blanks ++ [')']) _ := fun after =>
    scans_append_iff.2 ⟨front, blanks ++ [')'], List.append_assoc .., hinside after,
      .blanks_sign hblanks (by decide) (by decide) (hfirst _).2.1 .nil⟩
  have hopened : ∀ after, Scans after _ ([' '] ++ '(' :: (front ++ blanks ++ [')'])) _ :=
    fun after => .blanks_sign hspace (by decide) (by decide) (hfirst _).1 (hparens after)
  exact ⟨_, _, _, _, fun after => .blanks_sign hspace (by decide) (by decide) (hfirst _).2.2
    (hopened after), hderives.relocate hmono, rfl, rfl, rfl⟩

/-- What is added to an expression stands behind it as a phrase in parentheses. -/
theorem Grammar.Derives.add_group {ts us : List Token} {sign opening closing : Token} {e f : Expr}
    (he : Derives (.level BinaryOperator.add.precedence) ts e) (hsign : sign.kind = .operator .add)
    (hopening : opening.kind = .openParen) (hf : Derives .expression us f)
    (hclosing : closing.kind = .closeParen) : ∃ r r',
      Derives (.level BinaryOperator.add.precedence) (ts ++ sign :: opening :: (us ++ [closing]))
        (.binary .add e (.group f r) r') :=
  ⟨_, _, he.binary hsign
    ((Derives.operand (.chain (.base (.group hopening hf hclosing)))).loosen (by decide))⟩

/-- What is added to an expression is read as tokens, and behind the tokens of the expression they
are a phrase for the sum. -/
theorem exists_scans_addends [Text.Alphabet] {texts : List (List Char)} {es : List Expr}
    (h : List.Forall₂ Expr.Fills texts es) (after : List Char) (start : Nat) :
    ∃ us, Scans after start (texts.flatMap addend) us ∧
      ∀ {ts : List Token} {e : Expr},
        Derives (.level BinaryOperator.add.precedence) ts e → e.Unmixed →
          ∃ sum, Derives (.level BinaryOperator.add.precedence) (ts ++ us) sum ∧ sum.Unmixed ∧
            e.Adds es sum := by
  -- A sum is read from the left, so what stands in front is any sum of the same level. It is taken
  -- as given for all that follows, and gets one more expression in each step.
  induction h generalizing start with
  | nil =>
    exact ⟨[], .nil, fun {ts e} he hmix => ⟨e, by rwa [List.append_nil], hmix, .nil e⟩⟩
  | @cons text f texts es htext _ ih =>
    obtain ⟨sign, opening, closing, us, hscans, hus, hsign, hopening, hclosing⟩ :=
      htext.exists_scans start
    obtain ⟨vs, hvs, hsums⟩ := ih (start + Text.byteLength (addend text))
    refine ⟨_, scans_append_iff.2 ⟨_, _, rfl, hscans _, hvs⟩, fun {ts e} he hmix => ?_⟩
    obtain ⟨r, r', hadd⟩ := he.add_group hsign hopening hus hclosing
    obtain ⟨sum, hsum, hsumMix, hadds⟩ := hsums hadd
      ⟨nofun, hmix, (Expr.unmixed_relocate _ f).2 htext.unmixed⟩
    rw [List.append_assoc] at hsum
    exact ⟨sum, hsum, hsumMix, .cons hadds⟩

/-! ## The value of a sum -/

/-- A string with a value added is the string with the text of the value behind it. -/
theorem apply_add_string (s : String) (v : Value) :
    BinaryOperator.apply .add (.string s) v = .string (s ++ v.text) := by
  cases v <;> rfl

theorem apply_string_add (s : String) (v : Value) :
    BinaryOperator.apply .add v (.string s) = .string (v.text ++ s) := by
  cases v <;> rfl

namespace Scope

/-- The value is the string with the given characters. -/
def Holds (v : Value) (text : List Char) : Prop :=
  v = .string (String.ofList text)

/-- In parentheses, and at another place, an expression has a value with the text that is shown of
it, or fails for the same cause. -/
theorem evaluate_moved_together {scope : Scope} (φ : Nat → Nat) (e : Expr) (r : Region) :
    Together SameCause (fun v text => v.text.toList = text)
      (scope.evaluate (.group (e.relocate φ) r)) ((Atom.value e).text scope) := by
  rw [evaluate_group, evaluate_relocate, Atom.text]
  cases scope.evaluate e with
  | error fault => exact .error rfl
  | ok v => exact .ok rfl

/-- A sum that begins with a string is the string with what the others show behind it, or fails as
the first of them that fails. -/
theorem adds_together {scope : Scope} {e sum : Expr} {es : List Expr} (h : e.Adds es sum)
    {shows : Except EvalFault (List Char)}
    (he : Together SameCause Holds (scope.evaluate e) shows) :
    Together SameCause Holds (scope.evaluate sum) (do
      let front ← shows
      let back ← shown scope (es.map .value)
      return front ++ back) := by
  induction h generalizing shows with
  | nil e =>
    have hnothing : (do
        let front ← shows
        let back ← shown scope []
        return front ++ back) = shows := by
      cases shows with
      | error fault => rfl
      | ok text => exact congrArg Except.ok (List.append_nil text)
    rw [List.map_nil, hnothing]
    exact he
  -- The sum so far is a string, and this is what makes the next sum join texts.
  | @cons e f sum es φ r r' _ ih =>
    have hadd : Together SameCause Holds
        (scope.evaluate (.binary .add e (.group (f.relocate φ) r) r')) (do
          let front ← shows
          let back ← (Atom.value f).text scope
          return front ++ back) := by
      rw [evaluate_binary]
      refine he.bind fun v text hv => ?_
      rw [if_neg (show ¬ BinaryOperator.add.decides v = true by exact nofun)]
      refine (evaluate_moved_together φ f r).bind fun w shown hw => .ok ?_
      rw [Holds, hv, apply_add_string, String.ofList_append, ← hw, String.ofList_toList]
    have hassoc : (do
        let front ← shows
        let back ← shown scope ((f :: es).map .value)
        return front ++ back) = (do
          let front ← (do
            let front ← shows
            let back ← (Atom.value f).text scope
            return front ++ back)
          let back ← shown scope (es.map .value)
          return front ++ back) := by
      rw [List.map_cons, shown]
      cases shows with
      | error fault => rfl
      | ok front =>
        cases (Atom.value f).text scope with
        | error fault => rfl
        | ok text =>
          cases shown scope (es.map .value) with
          | error fault => rfl
          | ok back => exact congrArg Except.ok (List.append_assoc front text back).symm
    rw [hassoc]
    exact ih hadd

end Scope

/-! ## Templates -/

/-- What is the same as a third, up to the places of faults, is the same. -/
theorem Together.of_common {α : Type} {x y z : Except EvalFault α}
    (h : Together Scope.SameCause Eq x z) (h' : Together Scope.SameCause Eq y z) :
    Together Scope.SameCause Eq x y := by
  cases h with
  | ok h =>
    cases h' with
    | ok h' => exact .ok (h.trans h'.symm)
  | error h =>
    cases h' with
    | error h' => exact .error (h.trans h'.symm)

theorem Spells.eq_nil [Text.Alphabet] {start : Nat} {text : List Char} (h : Spells start text []) :
    text = [] := by
  cases h
  rfl

/-- Markers spell their expressions, up to places. -/
theorem exists_spells_markers [Text.Alphabet] {texts : List (List Char)} {es : List Expr}
    (h : List.Forall₂ Expr.Fills texts es) :
    ∃ atoms, Spells 0 (texts.flatMap fun text => '$' :: '{' :: (text ++ ['}'])) atoms ∧
      atoms.map (Atom.relocate nowhere) = (es.map Atom.value).map (Atom.relocate nowhere) := by
  induction h with
  | nil => exact ⟨[], .nil, rfl⟩
  | @cons text e texts es htext _ ih =>
    obtain ⟨atoms, hatoms, hsame⟩ := ih
    have hmarker : Spells 0 ('$' :: '{' :: (text ++ ['}'])) [.value e] := by
      refine spells_marker_iff.2 ⟨e, [], rfl, htext.read, ?_⟩
      rw [htext.rest]
      exact .nil
    have hends : EndsPlain (('$' :: '{' :: text) ++ ['}']) := by
      rw [EndsPlain, List.getLast?_concat]
      exact ⟨by decide, by decide⟩
    refine ⟨_, (hmarker.append_iff_relocate hends).2 ⟨atoms, hatoms, rfl⟩, ?_⟩
    rw [List.map_append, Atom.map_relocate_nowhere, hsame]
    rfl

/-- A sum of what markers hold is read as an empty string with their expressions added. -/
theorem exists_scans_sum [Text.Alphabet] {texts : List (List Char)} {es : List Expr}
    (h : List.Forall₂ Expr.Fills texts es) :
    ∃ ts sum r, Scans ['}'] 2 ('\'' :: '\'' :: texts.flatMap addend) ts ∧
      Derives .expression ts sum ∧ sum.Unmixed ∧ Expr.Adds (.literal (.string "") r) es sum := by
  obtain ⟨us, hus, hsums⟩ := exists_scans_addends h ['}'] (2 + Text.byteLength ['\'', '\''])
  have hfirst : Lexeme.first '\'' (['\''] ++ (texts.flatMap addend ++ ['}'])) =
      .ok (.string, 1) := by
    refine (Lexeme.first_quote (.inl rfl)).2 ⟨rfl, ?_⟩
    rw [List.singleton_append, Quoted.length?_cons (by decide), if_pos rfl]
  have hscans := Scans.lexeme (by decide) (by decide) hfirst hus
  let quotes : Token := ⟨.string, ['\'', '\''], ⟨2, 2 + Text.byteLength ['\'', '\'']⟩⟩
  have hdecode : Quoted.decode? quotes.text.tail.dropLast = some [] := by
    rw [show quotes.text.tail.dropLast = [] from rfl, Quoted.decode?]
  have hempty : Derives (.level BinaryOperator.add.precedence) [quotes]
      (.literal (.string (String.ofList [])) quotes.region) :=
    (Derives.operand (.chain (.base (.literal (.string rfl hdecode))))).loosen (by decide)
  obtain ⟨sum, hsum, hmix, hadds⟩ := hsums hempty trivial
  exact ⟨_, sum, _, hscans, .test (hsum.loosen (by decide)), hmix, hadds⟩

namespace Template

/-- The texts in markers of their own, in a row. -/
def markers (xs : List String) : String :=
  String.join (xs.map fun x => "$\x7b" ++ x ++ "\x7d")

/-- The texts in parentheses, added to an empty string in one marker. -/
def sum (xs : List String) : String :=
  "$\x7b''" ++ String.join (xs.map fun x => " + (" ++ x ++ ")") ++ "\x7d"

/-- The text is an expression: in a marker it is a template that is this marker and nothing else. -/
def IsExpression [Text.Alphabet] (parameters : Parameters) (x : String) : Prop :=
  ∃ t e chars region, compile ("$\x7b" ++ x ++ "\x7d") parameters none = .ok t ∧
    t.segments = [.marker e chars region]

theorem toList_markers (xs : List String) : (markers xs).toList =
    (xs.map String.toList).flatMap fun text => '$' :: '{' :: (text ++ ['}']) := by
  rw [markers, String.toList_join, List.flatMap_map, List.flatMap_map]
  exact congrArg (xs.flatMap ·) (funext toList_marker)

theorem toList_sum (xs : List String) : (sum xs).toList =
    '$' :: '{' :: ('\'' :: '\'' :: (xs.map String.toList).flatMap addend ++ ['}']) := by
  have haddend : ∀ x : String, (" + (" ++ x ++ ")").toList = addend x.toList := by
    simp [addend]
  rw [sum, String.toList_append, String.toList_append, String.toList_join, List.flatMap_map,
    List.flatMap_map]
  simp only [haddend]
  rfl

theorem exists_fills [Text.Alphabet] {parameters : Parameters} {x : String}
    (h : IsExpression parameters x) :
    ∃ e, Expr.Fills x.toList e := by
  obtain ⟨t, e, chars, region, hcompile, hsegments⟩ := h
  have hspells := spells_of_compile hcompile
  rw [hsegments, toList_marker, spells_marker_iff] at hspells
  obtain ⟨e', more, hatoms, hread, hrest⟩ := hspells
  obtain ⟨-, rfl⟩ := List.cons.inj hatoms
  exact ⟨e', hread, hrest.eq_nil⟩

theorem exists_forall₂_fills [Text.Alphabet] {parameters : Parameters} {xs : List String}
    (h : ∀ x ∈ xs, IsExpression parameters x) :
    ∃ es, List.Forall₂ Expr.Fills (xs.map String.toList) es := by
  induction xs with
  | nil => exact ⟨[], .nil⟩
  | cons x xs ih =>
    obtain ⟨hx, hxs⟩ := List.forall_mem_cons.1 h
    obtain ⟨e, he⟩ := exists_fills hx
    obtain ⟨es, hes⟩ := ih hxs
    exact ⟨e :: es, .cons he hes⟩

/-- A sum that begins with an empty string shows what the others show. -/
theorem shown_adds_together {scope : Scope} {sum : Expr} {es : List Expr} {r : Region}
    (h : Expr.Adds (.literal (.string "") r) es sum) :
    Together Scope.SameCause Eq (shown scope [.value sum]) (shown scope (es.map .value)) := by
  have hempty : Together Scope.SameCause Scope.Holds
      (scope.evaluate (.literal (.string "") r)) (.ok []) := .ok rfl
  have hvalue := Scope.adds_together h hempty
  have hall : (do
      let front ← Except.ok []
      let back ← shown scope (es.map .value)
      return front ++ back) = shown scope (es.map .value) := by
    cases shown scope (es.map .value) <;> rfl
  rw [hall] at hvalue
  rw [shown, shown, Atom.text]
  generalize scope.evaluate sum = value, shown scope (es.map .value) = all at hvalue
  cases hvalue with
  | error h => exact .error h
  | ok h =>
    subst h
    refine .ok ?_
    rw [Value.text, String.toList_ofList, List.append_nil]

section Sums

variable [Text.Alphabet] {parameters : Parameters} {name : Option String} {xs : List String}
  {es : List Expr} {t : Template}

/-- Markers in a row are a template that shows their expressions. -/
theorem exists_compile_markers (hparameters : parameters.fault? = none)
    (hes : List.Forall₂ Expr.Fills (xs.map String.toList) es) :
    ∃ t, compile (markers xs) parameters name = .ok t ∧ ∀ store,
      Together Scope.SameCause Eq (t.output store) (shown (t.scope store) (es.map .value)) := by
  obtain ⟨atoms, hatoms, hsame⟩ := exists_spells_markers hes
  rw [← toList_markers] at hatoms
  obtain ⟨t, ht⟩ : ∃ t, compile (markers xs) parameters name = .ok t :=
    exists_compile_of_spells hparameters hatoms
  refine ⟨t, ht, fun store => ?_⟩
  obtain rfl := (spells_of_compile ht).unique hatoms
  rw [output_eq]
  exact shown_of_nowhere _ hsame

/-- The sum of what markers hold shows what the markers show. -/
theorem output_sum_together (h : compile (sum xs) parameters name = .ok t)
    (hes : List.Forall₂ Expr.Fills (xs.map String.toList) es) (store : Store) :
    Together Scope.SameCause Eq (t.output store) (shown (t.scope store) (es.map .value)) := by
  obtain ⟨ts, sum, r, hscans, hsum, hmix, hadds⟩ := exists_scans_sum hes
  have hspells := spells_of_compile h
  rw [toList_sum, List.cons_append, List.cons_append, spells_marker_iff] at hspells
  obtain ⟨e, more, hatoms, he, hmore⟩ := hspells
  have hscan := hscans.encloses.2 []
  rw [List.append_nil, List.cons_append, List.cons_append] at hscan
  rw [hscan] at he hmore
  obtain rfl := spells_nil_iff.1 hmore
  -- The expression that is read is the sum, since its tokens are read as one expression only.
  obtain ⟨us, closing, hus, hderives, hunmixed, -⟩ := Expr.ofTokens_eq_ok_iff.1 he
  obtain rfl := TokenStream.prepend_close_inj hus
  obtain rfl := hderives.unique hsum hunmixed hmix
  rw [output_eq, hatoms]
  exact shown_adds_together hadds

end Sums

/-- The text of a value is one, and it obeys the rules for it: it is what a value is written as,
what a marker shows of it, what is joined to other text, what a report says of a value that has no
properties, and the key that is looked up where the name of a property is computed. Markers in a row
show the same as one marker that adds their expressions, in parentheses, to an empty string, or both
report the same. -/
theorem texts_agree [Text.Alphabet] {text : Value → String} (htext : Value.TextRules text) :
    (∀ (v : Value) (buffer : List Char), v.write buffer = buffer ++ (text v).toList) ∧
    (∀ (scope : Scope) (e : Expr) (v : Value) (buffer chars : List Char) (region : Region),
      scope.evaluate e = .ok v →
        (Segment.marker e chars region).text scope = .ok (text v).toList ∧
        (Segment.marker e chars region).write scope buffer = .ok (buffer ++ (text v).toList)) ∧
    (∀ (t : Template) (store : Store), t.write store [] = t.output store) ∧
    (∀ v : Value, v.text = text v) ∧
    (∀ (s : String) (v : Value), BinaryOperator.add.apply (.string s) v = .string (s ++ text v) ∧
      BinaryOperator.add.apply v (.string s) = .string (text v ++ s)) ∧
    (∀ (v : Value) (key : String) (region : Region) (fault : EvalFault),
      Scope.read v key region = .error fault → fault.cause.reason =
        "cannot read properties of " ++ text v ++ " (reading '" ++ key ++ "')") ∧
    (∀ (scope : Scope) (receiver key : Expr) (v : Value) (place : Region) (optional : Bool)
      (region : Region),
      scope.evaluate key = .ok v → scope.evaluate (.index receiver key optional region) =
        scope.evaluate (.member receiver (text v) place optional region)) ∧
    ∀ (parameters : Parameters) (name : Option String) (xs : List String) (t' : Template),
      (∀ x ∈ xs, IsExpression parameters x) → compile (sum xs) parameters name = .ok t' →
        ∃ t, compile (markers xs) parameters name = .ok t ∧ ∀ store,
          (∃ out, t.render store = .ok out ∧ t'.render store = .ok out) ∨
            ∃ d d', t.render store = .error d ∧ t'.render store = .error d' ∧
              d.kind = d'.kind ∧ d.reason = d'.reason := by
  obtain rfl := Value.textRules_iff.1 htext
  refine ⟨fun v buffer => v.write_eq buffer, ?_, ?_, fun _ => rfl, ?_, ?_, ?_, ?_⟩
  · intro scope e v buffer chars region hv
    rw [Segment.text, Segment.write, hv]
    exact ⟨rfl, congrArg Except.ok (v.write_eq buffer)⟩
  · intro t store
    rw [write_eq]
    cases t.output store <;> rfl
  · exact fun s v => ⟨apply_add_string s v, apply_string_add s v⟩
  · intro v key region fault hfault
    obtain ⟨-, rfl⟩ := Scope.read_eq_error_iff.1 hfault
    rfl
  · intro scope receiver key v place optional region hv
    rw [Scope.evaluate, Scope.evaluate, Scope.chain_index, Scope.chain, hv]
    rfl
  · intro parameters name xs t' hxs ht'
    obtain ⟨es, hes⟩ := exists_forall₂_fills hxs
    obtain ⟨t, ht, hmarkers⟩ :=
      @exists_compile_markers _ _ name _ _ (compile_eq_ok_iff.1 ht').1 hes
    have hsum := output_sum_together ht' hes
    obtain ⟨-, _, -, rfl⟩ := compile_eq_ok_iff.1 ht
    obtain ⟨-, _, -, rfl⟩ := compile_eq_ok_iff.1 ht'
    exact ⟨_, ht, fun store => render_of_sameCause ((hmarkers store).of_common (hsum store))⟩

set_option maxRecDepth 4000 in
/-- Two markers, of which one ends with a blank character, and their sum. -/
theorem texts_agree_pair : ∃ t t',
    compile "$\x7ba \x7d$\x7bb?.[a]\x7d" (.each ["a", "b"]) none = .ok t ∧
    compile "$\x7b'' + (a ) + (b?.[a])\x7d" (.each ["a", "b"]) none = .ok t' ∧
    ∀ store, (∃ out, t.render store = .ok out ∧ t'.render store = .ok out) ∨
      ∃ d d', t.render store = .error d ∧ t'.render store = .error d' ∧
        d.kind = d'.kind ∧ d.reason = d'.reason := by
  have hmarkers : markers ["a ", "b?.[a]"] = "$\x7ba \x7d$\x7bb?.[a]\x7d" := by decide
  have hsum : sum ["a ", "b?.[a]"] = "$\x7b'' + (a ) + (b?.[a])\x7d" := by decide
  have hfirst : compile "$\x7ba \x7d" (.each ["a", "b"]) none =
      .ok ⟨"$\x7ba \x7d", none, .each ["a", "b"],
        [.marker (.name "a" ⟨2, 3⟩) "$\x7ba \x7d".toList ⟨0, 5⟩]⟩ := by
    cbv
  have hsecond : compile "$\x7bb?.[a]\x7d" (.each ["a", "b"]) none =
      .ok ⟨"$\x7bb?.[a]\x7d", none, .each ["a", "b"],
        [.marker (.index (.name "b" ⟨2, 3⟩) (.name "a" ⟨6, 7⟩) true ⟨2, 8⟩)
          "$\x7bb?.[a]\x7d".toList ⟨0, 9⟩]⟩ := by
    cbv
  have hexpr : ∀ x ∈ ["a ", "b?.[a]"], IsExpression (.each ["a", "b"]) x :=
    List.forall_mem_cons.2 ⟨⟨_, _, _, _, hfirst, rfl⟩,
      List.forall_mem_singleton.2 ⟨_, _, _, _, hsecond, rfl⟩⟩
  have hcompile : ∃ t', compile "$\x7b'' + (a ) + (b?.[a])\x7d" (.each ["a", "b"]) none = .ok t' :=
    ⟨_, by cbv⟩
  obtain ⟨t', ht'⟩ := hcompile
  obtain ⟨-, -, -, -, -, -, -, hsums⟩ := texts_agree Value.textRules_text
  obtain ⟨t, ht, hsame⟩ := hsums (.each ["a", "b"]) none _ t' hexpr (hsum ▸ ht')
  exact ⟨t, t', hmarkers ▸ ht, ht', hsame⟩

end Template

end TemplateLiteral
