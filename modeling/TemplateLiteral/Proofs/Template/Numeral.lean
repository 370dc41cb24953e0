import TemplateLiteral.Proofs.Expr.Evaluation
import TemplateLiteral.Proofs.Number.Coercion
import TemplateLiteral.Proofs.Template.Quoted
import TemplateLiteral.Proofs.Template.Sum
import TemplateLiteral.Proofs.Value.Equality

/-!
# Numerals and strings in templates

A number in a marker is the longest numeral at its place, and it always has a value. Between quotes
its text is a string that spells the text itself, and a sign in front of the string converts it to
the same number, so that the two are equal in a template.

## Main definitions

* `Number.Numeral.IsLongest`: the longest numeral that a text begins with
* `twice`: a numeral, and a string with the same text as a number

## Main results

* `Number.Numeral.isLongest_take_length`: how far a numeral reaches is how far the longest one does
* `Scope.evaluate_twice`, `exists_scans_twice`: a numeral is equal to its text as a number
* `Template.number_token`: the numbers of a template
-/

namespace TemplateLiteral

open Grammar

namespace Number.Numeral

/-! ## The longest numeral -/

/-- The numeral is the longest one that the text begins with. -/
structure IsLongest (text numeral : List Char) : Prop where
  form : Form numeral
  begins : numeral <+: text
  longest : ∀ other, Form other → other <+: text → other.length ≤ numeral.length

/-- A numeral in front of a text is not longer than that of the text. -/
theorem Form.length_le {xs : List Char} (h : Form xs) (ys : List Char) :
    xs.length ≤ length (xs ++ ys) := by
  by_contra hlt
  have hsame := length_of_length_append_le (Nat.le_of_not_le hlt)
  rw [h.length_eq] at hsame
  omega

/-- How far a numeral reaches is how far the longest one does. -/
theorem isLongest_take_length {text : List Char} (h : Begins text) :
    IsLongest text (text.take (length text)) where
  form := form_take_length h
  begins := List.take_prefix _ _
  longest other hother hbegins := by
    obtain ⟨back, rfl⟩ := hbegins
    rw [List.length_take_of_le (length_le _)]
    exact hother.length_le back

end Number.Numeral

/-! ## A numeral and its text -/

/-- A text without signs that mean something between quotes is spelled by itself. -/
theorem Quoted.spells_self {quote : Char} {text : List Char}
    (h : ∀ c ∈ text, c ≠ quote ∧ c ≠ '\\' ∧ c ≠ '\n' ∧ c ≠ '\r') : Spells quote text text := by
  induction text with
  | nil => exact .nil
  | cons c text ih =>
    obtain ⟨⟨hquote, hescape, hlf, hcr⟩, htext⟩ := List.forall_mem_cons.1 h
    exact .char (.plain hquote hescape hlf hcr) (ih htext)

section Twice

variable {text : List Char}

/-- None of the signs that mean something between quotes stands in a numeral. -/
theorem Number.Numeral.Form.spells (h : Number.Numeral.Form text) :
    Quoted.Spells '\'' text text := by
  have hne : ∀ d, Number.Numeral.Stops d → ∀ c ∈ text, c ≠ d := by
    rintro d hd c hc rfl
    exact h.not_mem_of_stops hd hc
  refine Quoted.spells_self fun c hc => ⟨hne _ ?_ c hc, hne _ ?_ c hc, hne _ ?_ c hc, hne _ ?_ c hc⟩
  all_goals exact ⟨by decide, by decide, by decide⟩

/-- A numeral, and a string with the same text as a number. -/
def twice (text : List Char) : List Char :=
  text ++ ([' '] ++ (['=', '=', '='] ++ ([' '] ++ '+' :: '\'' :: (text ++ ['\'']))))

/-- The value of a numeral is equal to the number that its text is converted to. -/
theorem Scope.evaluate_twice {scope : Scope} {x : Float} (hne : x ≠ Number.notANumber)
    (hread : Number.readText text = x) (r₁ r₂ r₃ r₄ : Region) :
    scope.evaluate (.binary .strictEqual (.literal (.number x) r₁)
      (.unary .plus (.literal (.string (String.ofList text)) r₂) r₃) r₄) = .ok (.boolean true) := by
  have hself : Value.strictEquals (.number x) (.number x) = true := by
    rw [Value.strictEquals_self_iff]
    simpa using hne
  have hsign : scope.evaluate (.unary .plus (.literal (.string (String.ofList text)) r₂) r₃) =
      .ok (.number x) := by
    rw [evaluate_unary _ (by simp)]
    exact congrArg (Except.ok ∘ Value.number) ((Number.toNumber_string text).trans hread)
  rw [evaluate_binary, hsign]
  exact congrArg (Except.ok ∘ Value.boolean) hself

/-- The tokens of a numeral that is compared with a string as a number. -/
theorem Grammar.derives_twice {x : Float} {number equal plus string : Token}
    (hnumber : Writes number (.number x)) (hequal : equal.kind = .operator .strictEqual)
    (hplus : plus.kind = .operator .add) (hstring : Writes string (.string (String.ofList text))) :
    Derives .expression [number, equal, plus, string]
      (.binary .strictEqual (.literal (.number x) number.region)
        (.unary .plus (.literal (.string (String.ofList text)) string.region)
          (plus.region.cover string.region))
        (number.region.cover (plus.region.cover string.region))) := by
  have hsign : UnarySign plus.kind .plus := by
    rw [hplus]
    exact .plus
  have hleft : Derives (.level BinaryOperator.strictEqual.precedence) [number] _ :=
    (Derives.operand (.chain (.base (.literal hnumber)))).loosen (by decide)
  have hright : Derives (.level (BinaryOperator.strictEqual.precedence + 1)) [plus, string] _ :=
    (Derives.operand (.unary hsign (.chain (.base (.literal hstring))))).loosen (by decide)
  exact .test ((hleft.binary hequal hright).loosen (by decide))

/-- A numeral and its text as a number are read as an expression that compares them. -/
theorem exists_scans_twice [Text.Alphabet] (h : Number.Numeral.Form text) {x : Float}
    (hvalue : Number.Numeral.read? text = some x) : ∃ ts r₁ r₂ r₃ r₄,
    Scans ['}'] 2 (twice text) ts ∧ Derives .expression ts
      (.binary .strictEqual (.literal (.number x) r₁)
        (.unary .plus (.literal (.string (String.ofList text)) r₂) r₃) r₄) := by
  have hspace : ∀ b ∈ [' '], Text.isBlank b := List.forall_mem_singleton.2 rfl
  have hquote : '\'' = '\'' ∨ '\'' = '"' := .inl rfl
  obtain ⟨c, more, rfl⟩ : ∃ c more, text = c :: more :=
    List.exists_cons_of_ne_nil (by rintro rfl; exact h.begins)
  have hblank : ¬ Text.isBlank c := fun hblank =>
    h.not_mem_of_stops (Lexeme.stops_of_isBlank hblank).numeral List.mem_cons_self
  have hbrace : c ≠ '}' := by
    rintro rfl
    exact h.not_mem_of_stops Lexeme.stops_closingBrace.numeral List.mem_cons_self
  -- The blank behind the numeral ends it.
  have hnumber : ∀ rest, Lexeme.first c (more ++ ' ' :: rest) = .ok (.number, more.length) :=
    fun rest => ((Lexeme.first_append_iff (Lexeme.stops_of_isBlank rfl)).2
      (Lexeme.first_of_form h)).1
  have hstring : Lexeme.first '\'' ((c :: more ++ ['\'']) ++ ['}']) =
      .ok (.string, (c :: more ++ ['\'']).length) := by
    refine (Lexeme.first_quote hquote).2 ⟨rfl, ?_⟩
    rw [List.append_assoc, List.length_append]
    exact h.spells.length?_append hquote ['}']
  have hequal : ∀ rest, Lexeme.first '=' ('=' :: '=' :: rest) =
      .ok (.operator .strictEqual, 2) := fun _ => rfl
  have hplus : ∀ rest, Lexeme.first '+' rest = .ok (.operator .add, 0) := fun _ => rfl
  have hscans : Scans ['}'] 2 (twice (c :: more)) _ :=
    .lexeme hblank hbrace (hnumber _) (.token hspace (by decide) (by decide) (hequal _)
      (.blanks_sign hspace (by decide) (by decide) (hplus _)
        (.single (by decide) (by decide) hstring)))
  have hdecode : Quoted.decode? ('\'' :: (c :: more ++ ['\''])).tail.dropLast =
      some (c :: more) := by
    rw [List.tail_cons, List.dropLast_concat]
    exact h.spells.decode?_eq hquote
  exact ⟨_, _, _, _, _, hscans, derives_twice (.number rfl hvalue) rfl rfl (.string rfl hdecode)⟩

end Twice

namespace Template

variable {text : List Char}

/-- A template that compares a numeral with its text as a number shows that they are equal. -/
theorem compile_twice [Text.Alphabet] (h : Number.Numeral.Form text) : ∃ x,
    Number.Numeral.read? text = some x ∧ Number.readText text = x ∧
    Number.Numeral.HasValue text x ∧
    ∀ parameters name, parameters.fault? = none → ∃ compiled,
      compile ("$\x7b" ++ String.ofList text ++ " === +'" ++ String.ofList text ++ "'\x7d")
        parameters name = .ok compiled ∧
      ∀ store, compiled.render store = .ok "true" := by
  obtain ⟨x, _, hvalue, hread, hisRead, hdenotes⟩ := h.exists_read
  refine ⟨x, hvalue, hread, hdenotes, fun parameters name hparameters => ?_⟩
  obtain ⟨ts, r₁, r₂, r₃, r₄, hscans, hderives⟩ := exists_scans_twice h hvalue
  have hsource : "$\x7b" ++ String.ofList text ++ " === +'" ++ String.ofList text ++ "'\x7d" =
      "$\x7b" ++ String.ofList (twice text ++ ['}']) := by
    rw [← String.toList_inj]
    simp [twice]
  rw [hsource]
  refine ⟨_, compile_phrase hparameters hscans hderives ⟨nofun, trivial, trivial⟩
    (Nat.le_of_ble_eq_true rfl), fun store => ?_⟩
  refine render_eq_ok_iff.2 ⟨["true".toList], ?_, ?_⟩
  · refine mapM_cons_eq_ok_iff.2 ⟨_, [], ?_, rfl, rfl⟩
    rw [Segment.text, Scope.evaluate_twice hisRead.ne_notANumber hread]
    rfl
  · rw [List.flatten_singleton, String.ofList_toList]

/-- A number in a template is the longest numeral at its place. It has the value of the numeral, and
the text that it is written with is converted to the same number. -/
theorem number_token [Text.Alphabet] {source : String} {tokens : TokenStream} {chars : List Char}
    {region : Region} {t : Token}
    (hmarker : .marker tokens chars region ∈ Piece.ofText source.toList)
    (ht : t ∈ tokens.toList) (hkind : t.kind = .number) :
    (∃ before after, source.toList = before ++ (t.text ++ after) ∧
      t.region = ⟨Text.byteLength before, Text.byteLength before + Text.byteLength t.text⟩ ∧
      Number.Numeral.IsLongest (t.text ++ after) t.text) ∧
    ∃ x, Parser.literal? t = some (.ok (.number x)) ∧ Number.readText t.text = x ∧
      Number.Numeral.HasValue t.text x ∧
      ∀ parameters name, parameters.fault? = none → ∃ compiled,
        compile ("$\x7b" ++ String.ofList t.text ++ " === +'" ++ String.ofList t.text ++ "'\x7d")
          parameters name = .ok compiled ∧
        ∀ store, compiled.render store = .ok "true" := by
  obtain ⟨before, rest, hsource, rfl⟩ := Piece.exists_scan_of_mem hmarker
  obtain ⟨front, c, behind, more, rfl, hfirst, htext, hregion⟩ := exists_first_of_mem_scan ht
  rw [hkind] at hfirst
  obtain ⟨hbegins, htake⟩ := Lexeme.begins_of_first_number hfirst
  have hwhole : t.text ++ behind.drop more = c :: behind := by
    rw [htext, List.cons_append, List.take_append_drop]
  have hlongest : Number.Numeral.IsLongest (t.text ++ behind.drop more) t.text := by
    have hlongest := Number.Numeral.isLongest_take_length hbegins
    rwa [← htake, ← htext, ← hwhole] at hlongest
  obtain ⟨x, hvalue, htwice⟩ := compile_twice hlongest.form
  have hplace : 0 + Text.byteLength before + 2 + Text.byteLength front =
      Text.byteLength (before ++ '$' :: '{' :: front) := by
    rw [Text.byteLength_append, byteLength_opening]
    omega
  refine ⟨⟨before ++ '$' :: '{' :: front, behind.drop more, ?_, ?_, hlongest⟩, x, ?_, htwice⟩
  · rw [hsource, hwhole, List.append_assoc]
    rfl
  · rw [hregion, hplace]
  · rw [Parser.literal?, hkind]
    dsimp only
    rw [hvalue]

/-- Without a digit behind its sign the letter is no power, so that the number ends with a point. -/
theorem number_token_point : ∃ tokens chars region t,
    .marker tokens chars region ∈ Piece.ofText "é$\x7b1.e+x\x7d".toList ∧ t ∈ tokens.toList ∧
      t.kind = .number ∧ t.region = ⟨4, 6⟩ ∧
      (∃ x, Parser.literal? t = some (.ok (.number x)) ∧ Number.readText ['1', '.'] = x) ∧
      ∃ compiled, compile "$\x7b1. === +'1.'\x7d" (.each []) none = .ok compiled ∧
        ∀ store, compiled.render store = .ok "true" := by
  let number : Token := ⟨.number, ['1', '.'], ⟨4, 6⟩⟩
  let tokens : TokenStream := .token number (.token ⟨.name, ['e'], ⟨6, 7⟩⟩
    (.token ⟨.operator .add, ['+'], ⟨7, 8⟩⟩ (.token ⟨.name, ['x'], ⟨8, 9⟩⟩ (.close ⟨9, 10⟩))))
  have hpieces : Piece.ofText "é$\x7b1.e+x\x7d".toList =
      [.literal ['é'] ⟨0, 2⟩, .marker tokens "$\x7b1.e+x\x7d".toList ⟨2, 10⟩] := by
    cbv
  have hmarker : .marker tokens "$\x7b1.e+x\x7d".toList ⟨2, 10⟩ ∈
      Piece.ofText "é$\x7b1.e+x\x7d".toList := by
    rw [hpieces]
    exact List.mem_cons_of_mem _ List.mem_cons_self
  obtain ⟨-, x, hvalue, hread, -, htwice⟩ :=
    @number_token _ _ _ _ _ number hmarker List.mem_cons_self rfl
  have hsource : "$\x7b" ++ String.ofList ['1', '.'] ++ " === +'" ++ String.ofList ['1', '.'] ++
      "'\x7d" = "$\x7b1. === +'1.'\x7d" := by
    decide +kernel
  have hcompile := htwice (.each []) none rfl
  rw [hsource] at hcompile
  exact ⟨tokens, _, _, number, hmarker, List.mem_cons_self, rfl, rfl, ⟨x, hvalue, hread⟩, hcompile⟩

end Template

end TemplateLiteral
