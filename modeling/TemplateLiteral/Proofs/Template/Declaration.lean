import Mathlib.Data.List.Perm.Basic
import TemplateLiteral.Engine
import TemplateLiteral.Proofs.Template.Qualification
import TemplateLiteral.Proofs.Template.Region
import TemplateLiteral.Proofs.Template.Reordering
import TemplateLiteral.Proofs.Value.Text

/-!
# Names that are declared and names that are read

Whether a text may be declared as a name is asked of its characters. What is read as a name in a
marker is decided by the first character, then by how far characters of a name go, and then by a
look for other words. The two agree: a text may be declared if and only if a marker with the text
and nothing else in it is read as one name. So every name that is declared can be used, and no text
that could be used is refused as a name.

## Main definitions

* `Referable`: a text that is read as one name
* `Declarable`: names that can be declared together
* `Offends`: why a name cannot be declared after others, and what is said about it

## Main results

* `isIdentifier_iff_referable`: the two ways to tell a name
* `Parameters.exists_offends`: the first name that cannot be declared
* `Engine.declares`: which names can be declared, and what they show
-/

namespace TemplateLiteral

/-! ## Names in markers -/

/-- The tokens of a marker that holds a name and nothing else. -/
def nameTokens (n : String) : TokenStream :=
  .token ⟨.name, n.toList, ⟨2, 2 + Text.byteLength n.toList⟩⟩
    (.close ⟨2 + Text.byteLength n.toList, 2 + Text.byteLength n.toList + 1⟩)

/-- A marker with the text in it is read as the opening, one name that is all of the text, and the
closing. -/
def Referable [Text.Alphabet] (n : String) : Prop :=
  Piece.ofText ("$\x7b" ++ n ++ "\x7d").toList =
    [.marker (nameTokens n) ("$\x7b" ++ n ++ "\x7d").toList
      ⟨0, Text.byteLength ("$\x7b" ++ n ++ "\x7d").toList⟩]

section Markers

variable [Text.Alphabet] {n : String}

/-- What may be declared is one token in a marker. -/
theorem scans_identifier (h : isIdentifier n) :
    Scans ['}'] 2 n.toList [⟨.name, n.toList, ⟨2, 2 + Text.byteLength n.toList⟩⟩] := by
  obtain ⟨c, more, hletters, hstart, -, -⟩ := exists_cons_of_isIdentifier h
  obtain ⟨hblank, hbrace⟩ := not_blank_of_isNameStart hstart
  rw [hletters]
  exact .single hblank hbrace (first_identifier h hletters
    (Text.isNamePart_eq_false_of_isPunctuation (by decide)) [])

/-- A word that is read as a name, and is all of a text, may be declared. -/
theorem isIdentifier_of_first {c : Char} {more after : List Char} (hletters : n.toList = c :: more)
    (h : Lexeme.first c (more ++ after) = .ok (.name, more.length)) : isIdentifier n := by
  have hstart := Lexeme.isNameStart_of_first_name h
  rw [Lexeme.first_of_isNameStart hstart] at h
  obtain ⟨hword, hlength⟩ := Prod.mk.inj (Except.ok.inj h)
  have htake : (more ++ after).takeWhile Text.isNamePart = more :=
    (List.prefix_of_prefix_length_le (List.takeWhile_prefix _) (List.prefix_append more after)
      hlength.le).eq_of_length hlength
  have hpart : ∀ d ∈ more, Text.isNamePart d := by
    rw [← htake]
    exact fun d => List.mem_takeWhile_imp
  rw [htake, ← hletters, String.ofList_toList, TokenKind.ofWord_eq_name_iff] at hword
  rw [isIdentifier, hletters]
  simp only [hstart, List.all_eq_true.2 hpart, hword, Bool.not_false, Bool.and_self]

theorem Scans.exists_first {after text : List Char} {start : Nat} {t : Token}
    (h : Scans after start text [t]) :
    ∃ c more, t.text = c :: more ∧ Lexeme.first c (more ++ after) = .ok (t.kind, more.length) := by
  cases h with
  | token _ _ _ hfirst hrest =>
    cases hrest
    exact ⟨_, _, rfl, hfirst⟩

/-- A text may be declared as a name if a marker with nothing else in it is read as one name. -/
theorem isIdentifier_iff_referable : isIdentifier n ↔ Referable n := by
  rw [Referable, Template.toList_marker]
  constructor
  · intro h
    have hscan := (scans_identifier h).scan_eq
    rw [scan_closingBrace] at hscan
    exact Piece.ofText_marker hscan
  · intro h
    rw [Piece.ofText_opening] at h
    have htokens : (scan 2 (n.toList ++ ['}'])).tokens = TokenStream.prepend [_] (.close _) :=
      (Piece.marker.inj (List.cons.inj h).1).1
    obtain ⟨front, after, -, hscans, -⟩ := exists_scans htokens
    obtain ⟨c, more, hletters, hfirst⟩ := hscans.exists_first
    exact isIdentifier_of_first hletters hfirst

end Markers

/-! ## Names that are declared -/

/-- The names can be declared together. -/
def Declarable [Text.Alphabet] (names : List String) : Prop :=
  names.Nodup ∧ Parameters.valuesName ∉ names ∧ ∀ n ∈ names, Referable n

/-- The name cannot be declared after the others, and this is said about it. -/
inductive Offends [Text.Alphabet] (before : List String) (n : String) : String → Prop where
  | unreferable : ¬ Referable n →
      Offends before n ("`" ++ n ++ "` is not a valid identifier or is a reserved word")
  | values : Referable n → n = Parameters.valuesName →
      Offends before n ("`" ++ n ++ "` already names the parameter that holds the values")
  | repeated : Referable n → n ≠ Parameters.valuesName → n ∈ before →
      Offends before n ("`" ++ n ++ "` is declared more than once")

theorem Offends.of_perm [Text.Alphabet] {xs ys : List String} {n help : String}
    (h : Offends xs n help) (hperm : xs.Perm ys) : Offends ys n help := by
  cases h with
  | unreferable h => exact .unreferable h
  | values h hvalues => exact .values h hvalues
  | repeated h hvalues hmem => exact .repeated h hvalues (hperm.mem_iff.1 hmem)

namespace Parameters

theorem fault?_each_eq_none_iff_declarable [Text.Alphabet] {names : List String} :
    (each names).fault? = none ↔ Declarable names := by
  simp only [fault?_each_eq_none_iff, Declarable, isIdentifier_iff_referable]
  constructor
  · rintro ⟨hnames, hnodup⟩
    exact ⟨hnodup, fun hmem => (hnames _ hmem).2 rfl, fun n hn => (hnames n hn).1⟩
  · rintro ⟨hnodup, hvalues, hnames⟩
    refine ⟨fun n hn => ⟨hnames n hn, ?_⟩, hnodup⟩
    rintro rfl
    exact hvalues hn

/-- The names are looked at in order, each with those before it in mind, and the first of them that
cannot be declared is reported. -/
theorem exists_offends [Text.Alphabet] {seen names : List String} {fault : ParameterFault}
    (h : faultAfter seen names = some fault) : ∃ before n after help,
      names = before ++ n :: after ∧ faultAfter seen before = none ∧
      Offends (seen ++ before) n help ∧ fault.diagnostic.help = some help := by
  induction names generalizing seen with
  | nil => cases h
  | cons n names ih =>
    rw [faultAfter] at h
    split_ifs at h with hidentifier hvalues hseen
    · obtain rfl := Option.some.inj h
      have hno : ¬ Referable n := fun hn => by
        rw [isIdentifier_iff_referable.2 hn] at hidentifier
        cases hidentifier
      exact ⟨[], n, names, _, rfl, rfl, .unreferable hno, rfl⟩
    all_goals have hname : Referable n := isIdentifier_iff_referable.1 (by simpa using hidentifier)
    · obtain rfl := Option.some.inj h
      exact ⟨[], n, names, _, rfl, rfl, .values hname hvalues, rfl⟩
    · obtain rfl := Option.some.inj h
      exact ⟨[], n, names, _, rfl, rfl, .repeated hname hvalues (by simpa using hseen), rfl⟩
    · obtain ⟨before, m, after, help, rfl, hbefore, hm, hhelp⟩ := ih h
      refine ⟨n :: before, m, after, help, rfl, ?_, hm.of_perm List.perm_middle.symm, hhelp⟩
      rw [faultAfter, if_neg hidentifier, if_neg hvalues, if_neg hseen, hbefore]

end Parameters

/-! ## Names that are shown -/

theorem Value.text_ofData? (place : Place) (data? : Option Data) :
    (ofData? place data?).text = data?.elim "undefined" Data.text := by
  cases data? with
  | none => rfl
  | some data => exact text_ofData place data

/-- A marker with a name in it and nothing else has the name as its expression. -/
theorem Template.exists_compile_marker_name [Text.Alphabet] {parameters : Parameters} {n : String}
    (hidentifier : isIdentifier n) (hparameters : parameters.fault? = none) (name : Option String) :
    ∃ r chars region, compile ("$\x7b" ++ n ++ "\x7d") parameters name =
      .ok ⟨"$\x7b" ++ n ++ "\x7d", name, parameters, [.marker (.name n r) chars region]⟩ := by
  have hderives : Grammar.Derives .expression
      [⟨.name, n.toList, ⟨2, 2 + Text.byteLength n.toList⟩⟩]
      (.name (String.ofList n.toList) ⟨2, 2 + Text.byteLength n.toList⟩) :=
    .test (Grammar.Derives.loosen (.operand (.chain (.base (.name rfl)))) (by decide))
  have hcompile := @compile_phrase _ _ name _ _ _ _ hparameters (scans_identifier hidentifier)
    hderives trivial (Nat.le_of_ble_eq_true rfl)
  rw [← marker_source, String.ofList_toList] at hcompile
  exact ⟨_, _, _, hcompile⟩

/-- A marker with a declared name in it shows the text of what is stored under the name. -/
theorem Template.exists_compile_name [Text.Alphabet] {names : List String} {n : String}
    (hn : n ∈ names) (hnames : (Parameters.each names).fault? = none) (name : Option String) :
    ∃ t, compile ("$\x7b" ++ n ++ "\x7d") (.each names) name = .ok t ∧
      ∀ store, t.render store = .ok ((store.get? n).elim "undefined" Data.text) := by
  have hidentifier := ((Parameters.fault?_each_eq_none_iff.1 hnames).1 n hn).1
  obtain ⟨r, chars, region, hcompile⟩ := exists_compile_marker_name hidentifier hnames name
  refine ⟨_, hcompile, fun store => ?_⟩
  have hvalue : Scope.evaluate ⟨.each names, store⟩ (.name n r) =
      .ok (Value.ofData? [.key n] (store.get? n)) := by
    rw [Scope.evaluate, Scope.chain, Scope.lookup?_each_of_mem hn]
    rfl
  rw [← Value.text_ofData? [.key n]]
  refine render_eq_ok_iff.2 ⟨[_],
    mapM_cons_eq_ok_iff.2 ⟨_, [], bind_eq_ok_iff.2 ⟨_, hvalue, rfl⟩, rfl, rfl⟩, ?_⟩
  rw [List.flatten_singleton, String.ofList_toList]

/-- Names can be declared if each is read as a name in a marker, none is the name of all values and
none is repeated. If they cannot, the first that must not stand after those before it is named in
the report. If they can, each of them shows the text of what is stored under it. -/
theorem Engine.declares [Text.Alphabet] (engine : Engine) (names : List String) :
    ((∃ t, engine.destructure.compile "" names = .ok t) ↔ Declarable names) ∧
    (∀ d, engine.destructure.compile "" names = .error d → d.kind = .malformed ∧
      ∃ before n after help, names = before ++ n :: after ∧ Declarable before ∧
        Offends before n help ∧ d.help = some help) ∧
    (Declarable names → ∀ n ∈ names, ∃ t,
      engine.destructure.compile ("$\x7b" ++ n ++ "\x7d") names = .ok t ∧
        ∀ store, t.render store = .ok ((store.get? n).elim "undefined" Data.text)) := by
  have hempty : Segment.ofText "".toList = .ok [] := by
    rw [Segment.ofText, Piece.ofText, Piece.ofTextAt_of_endOfText rfl]
    rfl
  refine ⟨?_, fun d hd => ?_, fun hnames n hn => ?_⟩
  · rw [← Parameters.fault?_each_eq_none_iff_declarable]
    constructor
    · rintro ⟨t, ht⟩
      exact (Template.compile_eq_ok_iff.1 ht).1
    · intro hnames
      exact ⟨_, Template.compile_eq_ok_iff.2 ⟨hnames, [], hempty, rfl⟩⟩
  · change Template.compile "" (.each names) engine.name = _ at hd
    rw [Template.compile] at hd
    cases hfault : (Parameters.each names).fault? with
    | none =>
      rw [hfault, hempty] at hd
      cases hd
    | some fault =>
      rw [hfault] at hd
      obtain rfl := Except.error.inj hd
      obtain ⟨before, n, after, help, hsplit, hbefore, hn, hhelp⟩ :=
        Parameters.exists_offends hfault
      refine ⟨Diagnostic.kind_inTemplate _ _, before, n, after, help, hsplit,
        Parameters.fault?_each_eq_none_iff_declarable.1 hbefore, hn, ?_⟩
      rw [Diagnostic.help_inTemplate, hhelp]
  · exact Template.exists_compile_name hn
      (Parameters.fault?_each_eq_none_iff_declarable.2 hnames) engine.name

/-- A name that is always bound shows what is stored under it, be it the text of a marker. A name
that is repeated is reported before a word that is no name. -/
theorem Engine.declares_undefined :
    Declarable ["$", "undefined"] ∧
    (∃ t, ({} : Engine).destructure.compile "$\x7bundefined\x7d" ["$", "undefined"] = .ok t ∧
      t.render (Store.ofFields [("undefined", .string "$\x7b$\x7d")]) = .ok "$\x7b$\x7d") ∧
    ∃ d, ({} : Engine).destructure.compile "" ["a", "$", "a", "typeof"] = .error d ∧
      d.kind = .malformed ∧ ∃ before n after help,
        ["a", "$", "a", "typeof"] = before ++ n :: after ∧ Declarable before ∧
          Offends before n help ∧ d.help = some help := by
  obtain ⟨-, -, hshown⟩ := declares {} ["$", "undefined"]
  obtain ⟨-, hrefused, -⟩ := declares {} ["a", "$", "a", "typeof"]
  have hnames : Declarable ["$", "undefined"] :=
    Parameters.fault?_each_eq_none_iff_declarable.1 (by decide +kernel)
  have herror : ∃ d, ({} : Engine).destructure.compile "" ["a", "$", "a", "typeof"] = .error d :=
    ⟨_, by cbv⟩
  have hmarker : "$\x7b" ++ "undefined" ++ "\x7d" = "$\x7bundefined\x7d" := by decide
  obtain ⟨d, hd⟩ := herror
  obtain ⟨t, ht, hrender⟩ := hshown hnames "undefined" (by decide)
  rw [hmarker] at ht
  exact ⟨hnames, ⟨t, ht, hrender _⟩, d, hd, hrefused d hd⟩

end TemplateLiteral
