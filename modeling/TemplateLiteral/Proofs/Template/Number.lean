import TemplateLiteral.Engine
import TemplateLiteral.Proofs.Number.Format
import TemplateLiteral.Proofs.Template.Interpolation
import TemplateLiteral.Proofs.Template.Region

/-!
# Numbers in templates

The text of a number is an expression: a numeral or the name of a number, perhaps with a minus sign
in front of it. Its value is the number, so that a template which holds the text of a number and
nothing else shows the same text.

## Main definitions

* `Grammar.Means`: a text that is a phrase with a number as its value

## Main results

* `Number.readText_compile_text`: the text of a number is read back, and shown again
-/

namespace TemplateLiteral

namespace Grammar

/-- The text is a phrase of the kind, is charged `room` at most for its nesting, and has the number
as its value where no names are declared. -/
def Means [Text.Alphabet] (c : Phrase) (room : Nat) (text : List Char) (x : Float) : Prop :=
  ∀ start, ∃ ts e, Scans [] start text ts ∧ Derives c ts e ∧ e.Unmixed ∧ e.charge ≤ room ∧
    ∀ store, Scope.chain ⟨.each [], store⟩ e = .ok (some (.number x))

section Means

variable [Text.Alphabet] {c : Phrase} {room : Nat} {text : List Char} {x : Float}

theorem means_numeral (h : Number.Numeral.Denotes text x) : Means .primary 0 text x := by
  intro start
  obtain ⟨d, more, rfl⟩ := List.exists_cons_of_ne_nil h.ne_nil
  have hd : Number.isNumeralChar d := h.form.isNumeralChar List.mem_cons_self
  have hbrace : d ≠ '}' := by
    rintro rfl
    exact absurd hd (by decide)
  have hfirst : Lexeme.first d (more ++ []) = .ok (.number, more.length) := by
    rw [List.append_nil]
    exact Lexeme.first_of_form (.decimal h.form)
  exact ⟨_, _, .single (Number.not_isBlank_of_isNumeralChar hd) hbrace hfirst,
    .literal (.number rfl h.read?_eq), trivial, Nat.le_refl 0, fun store => rfl⟩

theorem means_notANumber : Means .primary 0 "NaN".toList Number.notANumber := by
  intro start
  have hfirst : Lexeme.first 'N' (['a', 'N'] ++ []) = .ok (.name, 2) := by
    rw [List.append_nil, Lexeme.first_of_isAlpha rfl rfl]
    cbv
  exact ⟨_, _, .single (by decide) (by decide) hfirst, .name rfl, trivial, Nat.le_refl 0,
    fun store => rfl⟩

theorem means_infinity : Means .primary 0 "Infinity".toList Number.infinity := by
  intro start
  have hfirst : Lexeme.first 'I' ("nfinity".toList ++ []) = .ok (.name, 7) := by
    rw [List.append_nil, Lexeme.first_of_isAlpha rfl rfl]
    cbv
  exact ⟨_, _, .single (by decide) (by decide) hfirst, .name rfl, trivial, Nat.le_refl 0,
    fun store => rfl⟩

/-- A minus sign in front of a number. -/
theorem Means.negate (h : Means .primary room text x) :
    Means .unary (room + 1) ('-' :: text) (-x) := by
  intro start
  obtain ⟨ts, e, hscans, hderives, hmix, hcharge, hvalue⟩ := h (start + Text.byteLength ['-'])
  refine ⟨_, _, .sign (by decide) (by decide) rfl hscans, .unary .negate hderives.base.chain, hmix,
    Nat.succ_le_succ hcharge, fun store => ?_⟩
  rw [Scope.chain, hvalue store]
  · rfl
  · rintro _ _ hoperator
    cases hoperator

theorem Means.expression (h : Means c room text x) : Means .expression room text x := by
  intro start
  obtain ⟨ts, e, hscans, hderives, htree⟩ := h start
  exact ⟨ts, e, hscans, hderives.expression, htree⟩

/-- The text of a number is an expression with the number as its value. -/
theorem means_of_written (h : Number.Written text x) :
    ∃ room ≤ 1, Means .expression room text x := by
  cases h with
  | notANumber => exact ⟨0, Nat.zero_le 1, means_notANumber.expression⟩
  | infinity => exact ⟨0, Nat.zero_le 1, means_infinity.expression⟩
  | negativeInfinity => exact ⟨1, Nat.le_refl 1, means_infinity.negate.expression⟩
  | magnitude h => exact ⟨0, Nat.zero_le 1, (means_numeral h).expression⟩
  | negative h => exact ⟨1, Nat.le_refl 1, (means_numeral h).negate.expression⟩

end Means

end Grammar

namespace Template

/-- A template that holds an expression with a number as its value shows the text of the number. -/
theorem exists_compile_of_means [Text.Alphabet] {room : Nat} {text : List Char} {x : Float}
    (h : Grammar.Means .expression room text x) (hroom : room < maxNesting) :
    ∃ t, TemplateLiteral.compile ("$\x7b" ++ String.ofList text ++ "\x7d") [] = .ok t ∧
      ∀ store, t.render store = .ok (Number.text x) := by
  obtain ⟨ts, e, hscans, hderives, hmix, hcharge, hvalue⟩ := h 2
  have hnesting : e.nesting ≤ maxNesting := Nat.succ_le_of_lt (Nat.lt_of_le_of_lt hcharge hroom)
  rw [marker_source]
  refine ⟨_, @compile_phrase _ (.each []) none _ _ _ _ rfl hscans hderives hmix hnesting,
    fun store => ?_⟩
  refine render_eq_ok_iff.2 ⟨[(Number.text x).toList], ?_, ?_⟩
  · refine mapM_cons_eq_ok_iff.2 ⟨_, [], ?_, rfl, rfl⟩
    rw [Segment.text, Scope.evaluate, scope, hvalue store]
    rfl
  · rw [List.flatten_singleton, String.ofList_toList]

end Template

namespace Number

/-- The text of a number reads back as the number, up to the sign of zero, and a template that holds
it as its only expression shows it again. -/
theorem readText_compile_text [Text.Alphabet] (x : Float) :
    readText (text x).toList = (if x == ofInt 0 then ofInt 0 else x) ∧
      ∃ t, compile ("$\x7b" ++ text x ++ "\x7d") [] = .ok t ∧
        ∀ store, t.render store = .ok (text x) := by
  have hwritten := written_write x
  have htext : (text x).toList = Format.rendered.write x := String.toList_ofList
  obtain ⟨room, hroom, hmeans⟩ := Grammar.means_of_written hwritten
  refine ⟨htext ▸ hwritten.readText_eq, ?_⟩
  have hcompile := Template.exists_compile_of_means hmeans (Nat.lt_of_le_of_lt hroom (by decide))
  rwa [text_unsigned] at hcompile

end Number

end TemplateLiteral
