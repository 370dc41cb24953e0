import Mathlib
import TemplateLiteral.Proofs.Template.Reading
import TemplateLiteral.Proofs.Token.Relocation
import TemplateLiteral.Template.SourceText

/-!
# The source text says what the template says

A reader of template literals finds in the source text of a template its markers, character for
character, and between them its literal text. The reader knows escapes by a backslash, the backtick
that ends the literal, and openings of markers, which it closes where the tokens in them say.

What is escaped is decided for each segment alone, with no regard to what comes next. This is enough
since no segment of literal text comes before one that begins with a brace, unless that text ends
in an opening that is escaped as a whole.

## Main definitions

* `SourceItem`, `readLiteral`: what a template literal is made of, and how it is read
* `afterFirst?`: what stands after the first occurrence of a text

## Main results

* `readLiteral_escapeLiteral`: escaped text is read as it was
* `Template.readLiteral_sourceText`: what is read in the source text of a template
-/

namespace TemplateLiteral

/-! ## Reading template literals -/

/-- What a template literal is made of. -/
inductive SourceItem where
  /-- A literal character. -/
  | char (c : Char)
  /-- A marker from its opening to its closing. -/
  | marker (text : List Char)
deriving DecidableEq, Repr

/-- The template literal that a text begins inside, up to its closing backtick, and what comes after
that. A backslash makes the character after it literal. There is none if no backtick closes it, or
if a marker in it is not closed. -/
def readLiteral [Text.Alphabet] (text : List Char) : Option (List SourceItem × List Char) :=
  match text with
  | [] => none
  | '`' :: rest => some ([], rest)
  | '\\' :: c :: rest => do
    let (items, after) ← readLiteral rest
    return (.char c :: items, after)
  | '$' :: '{' :: rest =>
    let inside := scan 0 rest
    if inside.tokens.Closes then do
      let (items, after) ← readLiteral inside.rest
      return (.marker ('$' :: '{' :: inside.body) :: items, after)
    else none
  | c :: rest => do
    let (items, after) ← readLiteral rest
    return (.char c :: items, after)
termination_by text.length
decreasing_by
  · simp only [List.length_cons]
    omega
  · have := scan_rest_length_le 0 rest
    simp only [List.length_cons]
    omega
  · simp only [List.length_cons]
    omega

/-- What stands after the first occurrence of a pattern in a text. -/
def afterFirst? (pattern : List Char) : List Char → Option (List Char)
  | [] => if pattern.isEmpty then some [] else none
  | c :: rest =>
    if pattern.isPrefixOf (c :: rest) then some ((c :: rest).drop pattern.length)
    else afterFirst? pattern rest

theorem head?_escapeLiteral_append_ne {text rest : List Char} (hrest : rest.head? ≠ some '{')
    (htext : text.head? ≠ some '{') : (escapeLiteral text ++ rest).head? ≠ some '{' := by
  fun_cases escapeLiteral text with
  | case1 => exact hrest
  | case2 => simp
  | case3 => simp
  | case4 => simp
  | case5 c text => exact htext

section Steps

variable [Text.Alphabet] {c : Char} {rest after : List Char} {items : List SourceItem}

attribute [local simp] readLiteral escapeLiteral

theorem readLiteral_backtick : readLiteral ('`' :: rest) = some ([], rest) := by
  rw [readLiteral]

theorem readLiteral_backslash (h : readLiteral rest = some (items, after)) :
    readLiteral ('\\' :: c :: rest) = some (.char c :: items, after) := by
  simp [h]

theorem readLiteral_opening {start : Nat} {body : List Char} {tokens : TokenStream}
    (hbody : Encloses start body tokens) (h : readLiteral rest = some (items, after)) :
    readLiteral ('$' :: '{' :: (body ++ rest)) =
      some (.marker ('$' :: '{' :: body) :: items, after) := by
  -- The reader scans every marker as if it stood at the beginning of a text.
  have hzero := hbody.relocate (shifts_sub start)
  rw [Nat.sub_self] at hzero
  have hscan := hzero.2 rest
  rw [readLiteral, hscan]
  dsimp only
  rw [if_pos hzero.1, h]
  rfl

theorem readLiteral_char (hbacktick : c ≠ '`') (hbackslash : c ≠ '\\')
    (hopening : c = '$' → rest.head? ≠ some '{') (h : readLiteral rest = some (items, after)) :
    readLiteral (c :: rest) = some (.char c :: items, after) := by
  rw [readLiteral, h]
  · rfl
  · exact hbacktick
  · rintro _ _ rfl rfl
    exact hbackslash rfl
  · rintro _ rfl rfl
    exact hopening rfl rfl

/-- Escaped text is read as it was, if what comes next cannot be taken for a part of an opening. -/
theorem readLiteral_escapeLiteral (text : List Char) (hrest : rest.head? ≠ some '{')
    (h : readLiteral rest = some (items, after)) :
    readLiteral (escapeLiteral text ++ rest) = some (text.map .char ++ items, after) := by
  fun_induction escapeLiteral text with
  | case1 => exact h
  | case2 text ih => exact readLiteral_backslash ih
  | case3 text ih => exact readLiteral_backslash ih
  | case4 text ih =>
    -- The escape covers the dollar sign alone, and the brace after it is an ordinary character.
    apply readLiteral_backslash
    exact readLiteral_char (by decide) (by decide) (by rintro ⟨⟩) ih
  | case5 c text hbacktick hbackslash hopening ih =>
    refine readLiteral_char hbacktick hbackslash ?_ ih
    -- A dollar sign that is not escaped has no brace behind it, in the text or after it.
    rintro rfl
    refine head?_escapeLiteral_append_ne hrest ?_
    rintro hhead
    obtain ⟨tail, rfl⟩ := List.head?_eq_some_iff.1 hhead
    exact hopening tail rfl rfl

end Steps

/-! ## The literal of a template -/

/-- What a segment is in a template literal. -/
def Segment.items : Segment → List SourceItem
  | .literal text _ => text.map .char
  | .marker _ text _ => [.marker text]

theorem Segment.flatMap_sourceChars_literals (start : Nat) (text : List Char) :
    (Segment.literals start text).flatMap Segment.sourceChars = escapeLiteral text := by
  cases text with
  | nil => rfl
  | cons c text => exact List.append_nil _

theorem Segment.flatMap_items_literals (start : Nat) (text : List Char) :
    (Segment.literals start text).flatMap Segment.items = text.map .char := by
  cases text with
  | nil => rfl
  | cons c text => exact List.append_nil _

/-- The segments of a text are read from what they are in a template literal. -/
theorem Reads.readLiteral_sourceChars [Text.Alphabet] {start : Nat} {text : List Char}
    {segments : List Segment} (h : Reads start text segments) (after : List Char) :
    readLiteral (segments.flatMap Segment.sourceChars ++ '`' :: after) =
      some (segments.flatMap Segment.items, after) := by
  induction h with
  | @plain start lit _ =>
    rw [Segment.flatMap_sourceChars_literals, Segment.flatMap_items_literals]
    have hread := readLiteral_escapeLiteral lit (by simp) (@readLiteral_backtick _ after)
    rwa [List.append_nil] at hread
  | @escape start lit rest segments _ _ _ ih =>
    rw [List.flatMap_append, List.flatMap_append, Segment.flatMap_sourceChars_literals,
      Segment.flatMap_items_literals, List.append_assoc]
    -- Escaping is done for each segment apart, but no segment is cut between `$` and a brace.
    apply readLiteral_escapeLiteral lit (by simp [Segment.sourceChars, escapeLiteral])
    exact readLiteral_backslash (readLiteral_char (by decide) (by decide) (by rintro ⟨⟩) ih)
  | @marker start lit body rest tokens e segments _ _ hbody _ _ ih =>
    rw [List.flatMap_append, List.flatMap_append, Segment.flatMap_sourceChars_literals,
      Segment.flatMap_items_literals, List.append_assoc]
    apply readLiteral_escapeLiteral lit (by simp [Segment.sourceChars])
    rw [List.flatMap_cons, List.append_assoc, Segment.sourceChars, List.cons_append,
      List.cons_append]
    exact readLiteral_opening hbody ih

/-! ## Where the literal begins -/

section Beginning

variable {pattern before rest : List Char} {c : Char}

theorem afterFirst?_self_append (hpattern : pattern ≠ []) :
    afterFirst? pattern (pattern ++ rest) = some rest := by
  obtain ⟨d, pattern, rfl⟩ := List.exists_cons_of_ne_nil hpattern
  have hbegins : (d :: pattern).isPrefixOf (d :: (pattern ++ rest)) = true :=
    List.isPrefixOf_iff_prefix.2 (List.prefix_append (d :: pattern) rest)
  rw [List.cons_append, afterFirst?, if_pos hbegins, ← List.cons_append, List.drop_left]

/-- A pattern does not begin before the place that its last character first occurs at says. -/
theorem not_isPrefixOf_append (hbefore : before ≠ []) (hc : c ∉ before ++ pattern) :
    ¬ (pattern ++ [c]).isPrefixOf (before ++ (pattern ++ c :: rest)) := by
  intro hbegins
  obtain ⟨tail, htail⟩ := List.isPrefixOf_iff_prefix.1 hbegins
  rw [List.append_assoc, ← List.append_assoc before] at htail
  have hlength : 0 < before.length := List.length_pos_of_ne_nil hbefore
  rcases List.append_eq_append_iff.1 htail with ⟨more, hmore, hrest⟩ | ⟨more, hmore, -⟩
  · have := congrArg List.length hmore
    simp only [List.length_append] at this
    cases more with
    | nil =>
      rw [List.length_nil] at this
      omega
    | cons d more =>
      obtain ⟨rfl, -⟩ := List.cons.inj hrest
      rw [hmore] at hc
      exact hc (List.mem_append_right pattern List.mem_cons_self)
  · have := congrArg List.length hmore
    simp only [List.length_append] at this
    omega

/-- If a pattern occurs where its last character first occurs, then it first occurs there. -/
theorem afterFirst?_append (hc : c ∉ before ++ pattern) :
    afterFirst? (pattern ++ [c]) (before ++ (pattern ++ c :: rest)) = some rest := by
  induction before with
  | nil =>
    have hself := @afterFirst?_self_append (pattern ++ [c]) rest (by simp)
    rw [List.append_assoc] at hself
    exact hself
  | cons d before ih =>
    have hnot : ¬ (pattern ++ [c]).isPrefixOf (d :: before ++ (pattern ++ c :: rest)) :=
      not_isPrefixOf_append (List.cons_ne_nil d before) hc
    rw [List.cons_append] at hnot ⊢
    rw [afterFirst?, if_neg hnot]
    exact ih fun hmem => hc (List.mem_cons_of_mem d hmem)

end Beginning

/-! ## No backtick before the literal -/

/-- A name holds no characters but those of names. -/
theorem not_mem_of_isIdentifier [Text.Alphabet] {name : String} {c : Char} (h : isIdentifier name)
    (hc : Text.isNamePart c = false) : c ∉ name.toList := by
  intro hmem
  have hpart : ∀ c ∈ name.toList, Text.isNamePart c = true := by
    intro c hc
    unfold isIdentifier at h
    split at h
    next heq =>
      rw [heq] at hc
      cases hc
    next d rest heq =>
      rw [heq] at hc
      simp only [Bool.and_eq_true, List.all_eq_true] at h
      rcases List.mem_cons.1 hc with rfl | hc
      · exact Text.isNamePart_of_isNameStart h.1.1
      · exact h.1.2 c hc
  rw [hpart c hmem] at hc
  cases hc

theorem backtick_not_mem_of_isIdentifier [Text.Alphabet] {name : String} (h : isIdentifier name) :
    '`' ∉ name.toList :=
  not_mem_of_isIdentifier h (Text.isNamePart_eq_false_of_isPunctuation (by decide))

theorem Parameters.isIdentifier_of_faultAfter [Text.Alphabet] {before names : List String}
    (h : faultAfter before names = none) : ∀ name ∈ names, isIdentifier name := by
  induction names generalizing before with
  | nil =>
    intro name hname
    cases hname
  | cons name rest ih =>
    rw [faultAfter] at h
    split_ifs at h with hname _ _
    refine List.forall_mem_cons.2 ⟨?_, ih h⟩
    simpa using hname

theorem Parameters.isIdentifier_of_fault? [Text.Alphabet] {parameters : Parameters}
    (h : parameters.fault? = none) :
    (∀ name ∈ parameters.declared, isIdentifier name) ∧
      ∀ name, parameters.binding? = some name → isIdentifier name := by
  cases parameters with
  | each names => exact ⟨isIdentifier_of_faultAfter h, by rintro _ ⟨⟩⟩
  | whole name =>
    rw [fault?] at h
    split_ifs at h with hname
    refine ⟨?_, ?_⟩
    · rintro _ ⟨⟩
    · rintro _ ⟨⟩
      exact hname

theorem not_mem_intercalate {c : Char} {separator : String} {names : List String}
    (hseparator : c ∉ separator.toList) (hnames : ∀ name ∈ names, c ∉ name.toList) :
    c ∉ (separator.intercalate names).toList := by
  induction names with
  | nil =>
    rw [String.intercalate_nil]
    simp
  | cons name names ih =>
    obtain ⟨hname, hnames⟩ := List.forall_mem_cons.1 hnames
    cases names with
    | nil =>
      rw [String.intercalate_singleton]
      exact hname
    | cons next names =>
      rw [String.intercalate_cons_cons, String.toList_append, String.toList_append]
      simp only [List.mem_append, not_or]
      exact ⟨⟨hname, hseparator⟩, ih hnames⟩

theorem Template.backtick_not_mem_declaration [Text.Alphabet] {parameters : Parameters}
    (h : parameters.fault? = none) : '`' ∉ (declaration parameters).toList := by
  have hnames := (Parameters.isIdentifier_of_fault? h).1
  unfold declaration
  split
  · decide
  · have hlist := @not_mem_intercalate '`' ", " parameters.declared (by decide)
      fun name hname => backtick_not_mem_of_isIdentifier (hnames name hname)
    simp only [String.toList_append, List.mem_append, not_or]
    exact ⟨⟨by decide, hlist⟩, by decide⟩

theorem Template.backtick_not_mem_valueName [Text.Alphabet] {parameters : Parameters}
    (h : parameters.fault? = none) : '`' ∉ parameters.valueName.toList := by
  unfold Parameters.valueName
  cases hbinding : parameters.binding? with
  | none => decide
  | some name =>
    exact backtick_not_mem_of_isIdentifier ((Parameters.isIdentifier_of_fault? h).2 name hbinding)

/-- What stands before the template literal has a backtick at its end only. -/
theorem Template.toList_opening [Text.Alphabet] {parameters : Parameters}
    (h : parameters.fault? = none) :
    ∃ before, (opening parameters).toList = before ++ "  return `".toList ∧ '`' ∉ before := by
  refine ⟨_, String.toList_append, ?_⟩
  simp only [String.toList_append, List.mem_append, not_or]
  exact ⟨⟨⟨by decide, backtick_not_mem_valueName h⟩, by decide⟩, backtick_not_mem_declaration h⟩

/-- A reader of template literals that begins behind the first `return` finds the segments of the
template, and stops at the last backtick. -/
theorem Template.readLiteral_sourceText [Text.Alphabet] {source : String} {parameters : Parameters}
    {name : Option String} {t : Template}
    (h : Template.compile source parameters name = .ok t) :
    (∃ after, afterFirst? "  return `".toList t.sourceText.toList = some after ∧
      readLiteral after = some (t.segments.flatMap Segment.items, ";\n\x7d".toList)) ∧
    '`' ∉ ";\n\x7d".toList ∧
    ∀ s ∈ t.segments, s.region.slice? source.toList = some s.chars := by
  have hreads := Template.reads_of_compile h
  obtain ⟨hparameters, segments, -, rfl⟩ := Template.compile_eq_ok_iff.1 h
  obtain ⟨before, hopening, hbacktick⟩ := Template.toList_opening hparameters
  refine ⟨⟨_, ?_, hreads.readLiteral_sourceChars ";\n\x7d".toList⟩, by decide,
    hreads.slice?_region⟩
  -- The only backtick before the literal is the last character of the pattern.
  have hreturn : "  return `".toList = "  return ".toList ++ ['`'] := rfl
  have hclosing : closing.toList = ['`'] ++ ";\n\x7d".toList := rfl
  have hnone : '`' ∉ before ++ "  return ".toList := by
    rw [List.mem_append, not_or]
    exact ⟨hbacktick, by decide⟩
  have hliteral : (String.ofList (literalChars ⟨source, name, parameters, segments⟩)).toList =
      segments.flatMap Segment.sourceChars := String.toList_ofList
  rw [sourceText, String.toList_append, String.toList_append, hopening, hliteral, hclosing, hreturn]
  simp only [List.append_assoc]
  exact afterFirst?_append hnone

/-- A backtick in literal text, an escaped opening behind a backslash, and a marker that holds a
backtick and a brace in a string. -/
theorem Template.readLiteral_sourceText_escaped :
    ∃ t, Template.compile "`\\\\\\$\x7b$\x7b'`\x7d'\x7d" (.whole "it") none = .ok t ∧
      ∃ after, afterFirst? "  return `".toList t.sourceText.toList = some after ∧
        readLiteral after = some (t.segments.flatMap Segment.items, ";\n\x7d".toList) := by
  have hcompile : ∃ t, Template.compile "`\\\\\\$\x7b$\x7b'`\x7d'\x7d" (.whole "it") none = .ok t :=
    ⟨_, by cbv⟩
  obtain ⟨t, ht⟩ := hcompile
  exact ⟨t, ht, (Template.readLiteral_sourceText ht).1⟩

end TemplateLiteral
