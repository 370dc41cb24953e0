import Mathlib.Algebra.Ring.Parity
import Mathlib.Data.List.DropRight
import Mathlib.Data.List.Infix
import TemplateLiteral.Template.Piece

/-!
# Literal text between markers

Literal text that is read up to an opening has no opening in it. The backslashes in front of the
opening decide what it is, and only their parity counts: in literal text they are taken in pairs,
so that an even number of them is left in front of an opening and in front of the backslash that
makes one literal.

## Main definitions

* `Bare`: no marker is opened in a text, with or without a backslash in front of it
* `backslashRun`: how many backslashes a text ends with

## Main results

* `bare_takeLiteral`, `even_backslashRun_takeLiteral`
* `takeLiteral_append_text`: what is taken as literal text in front of an opening
* `takeLiteral_of_bare`: literal text without an opening is taken as a whole
-/

namespace TemplateLiteral

/-! ## Texts without openings -/

/-- There is no opening of a marker in the text. -/
def Bare (text : List Char) : Prop :=
  ¬ ['$', '{'] <:+: text

section Bare

variable {c : Char} {xs ys : List Char}

theorem bare_nil : Bare [] := by
  intro h
  obtain ⟨before, after, h⟩ := h
  simp at h

theorem bare_cons (h : c = '$' → xs.head? ≠ some '{') (hxs : Bare xs) : Bare (c :: xs) := by
  intro hoccurs
  rcases List.infix_cons_iff.1 hoccurs with ⟨after, hbegins⟩ | hoccurs
  · obtain ⟨hc, rfl⟩ := List.cons.inj hbegins
    exact h hc.symm rfl
  · exact hxs hoccurs

theorem Bare.right (h : Bare (xs ++ ys)) : Bare ys :=
  fun hoccurs => h (hoccurs.trans (List.suffix_append xs ys).isInfix)

end Bare

/-! ## Runs of backslashes -/

/-- How many backslashes the text ends with. -/
def backslashRun (text : List Char) : Nat :=
  (text.rtakeWhile (· = '\\')).length

section Run

variable {c : Char} {xs ys : List Char}

theorem backslashRun_append_backslash (xs : List Char) :
    backslashRun (xs ++ ['\\']) = backslashRun xs + 1 := by
  unfold backslashRun
  rw [List.rtakeWhile_concat_pos _ _ _ (by decide), List.length_append, List.length_singleton]

/-- What stands before another character does not count. -/
theorem backslashRun_append_cons (hc : c ≠ '\\') (xs ys : List Char) :
    backslashRun (xs ++ c :: ys) = backslashRun ys := by
  -- From the end, where the run is counted.
  induction ys using List.reverseRecOn with
  | nil =>
    unfold backslashRun
    rw [List.rtakeWhile_concat_neg _ _ _ (by simpa using hc), List.rtakeWhile_nil]
  | append_singleton ys d ih =>
    rw [← List.cons_append, ← List.append_assoc]
    by_cases hd : d = '\\'
    · rw [hd, backslashRun_append_backslash, backslashRun_append_backslash, ih]
    · unfold backslashRun
      rw [List.rtakeWhile_concat_neg _ _ _ (by simpa using hd),
        List.rtakeWhile_concat_neg _ _ _ (by simpa using hd)]

theorem backslashRun_cons (hc : c ≠ '\\') (xs : List Char) :
    backslashRun (c :: xs) = backslashRun xs :=
  backslashRun_append_cons hc [] xs

/-- A backslash in front of another character does not count either. -/
theorem backslashRun_cons_of_head (h : c = '\\' → ∃ d more, xs = d :: more ∧ d ≠ '\\') :
    backslashRun (c :: xs) = backslashRun xs := by
  by_cases hc : c = '\\'
  · obtain ⟨d, more, rfl, hd⟩ := h hc
    rw [backslashRun_cons hd]
    exact backslashRun_append_cons hd [c] more
  · exact backslashRun_cons hc xs

theorem backslashRun_append_escape (lit xs : List Char) :
    backslashRun (lit ++ '\\' :: '$' :: '{' :: xs) = backslashRun xs := by
  have hrun : backslashRun ((lit ++ ['\\', '$']) ++ '{' :: xs) = backslashRun xs :=
    backslashRun_append_cons (by decide) _ xs
  rw [List.append_assoc] at hrun
  exact hrun

/-- Two backslashes in front of a text do not change the parity of its run. -/
theorem even_backslashRun_pair (xs : List Char) :
    Even (backslashRun ('\\' :: '\\' :: xs)) ↔ Even (backslashRun xs) := by
  induction xs using List.reverseRecOn with
  | nil => exact iff_of_true ⟨1, rfl⟩ ⟨0, rfl⟩
  | append_singleton xs c ih =>
    rw [← List.cons_append, ← List.cons_append]
    by_cases hc : c = '\\'
    · rw [hc, backslashRun_append_backslash, backslashRun_append_backslash, Nat.even_add_one,
        Nat.even_add_one, ih]
    · rw [backslashRun_append_cons hc, backslashRun_append_cons hc]

end Run

/-! ## Openings behind literal text -/

section Openings

variable {lit tail before after rest body : List Char}

/-- An opening in what begins with literal text stands behind that. -/
theorem Bare.opening_in_append (hlit : Bare lit) (htail : tail.head? ≠ some '{')
    (h : lit ++ tail = before ++ '$' :: '{' :: after) :
    ∃ inner, before = lit ++ inner ∧ tail = inner ++ '$' :: '{' :: after := by
  rcases List.append_eq_append_iff.1 h with ⟨inner, hbefore, htailEq⟩ | ⟨inner, rfl, hopening⟩
  · exact ⟨inner, hbefore, htailEq⟩
  -- Otherwise the opening begins in the literal text, and has to end in it or across its end.
  · match inner with
    | [] => exact ⟨[], by simp, by simpa using hopening.symm⟩
    | [_] =>
      obtain ⟨-, htailEq⟩ := List.cons.inj hopening
      exact absurd (congrArg List.head? htailEq.symm) htail
    | _ :: _ :: inner =>
      simp only [List.cons_append, List.cons.injEq] at hopening
      obtain ⟨rfl, rfl, -⟩ := hopening
      exact absurd ⟨before, inner, by simp⟩ hlit

/-- Where an opening stands that comes after literal text and an escaped opening. -/
theorem Bare.opening_in_escape (hlit : Bare lit)
    (h : lit ++ '\\' :: '$' :: '{' :: rest = before ++ '$' :: '{' :: after) :
    before = lit ++ ['\\'] ∨
      ∃ inner, before = lit ++ '\\' :: '$' :: '{' :: inner ∧
        rest = inner ++ '$' :: '{' :: after := by
  obtain ⟨inner, rfl, hinner⟩ := hlit.opening_in_append (by simp) h
  match inner with
  | [] => cases hinner
  | [_] =>
    obtain ⟨rfl, -⟩ := List.cons.inj hinner
    exact .inl rfl
  | [_, _] => cases hinner
  | _ :: _ :: _ :: inner =>
    simp only [List.cons_append, List.cons.injEq] at hinner
    obtain ⟨rfl, rfl, rfl, hrest⟩ := hinner
    exact .inr ⟨inner, rfl, hrest⟩

/-- Where an opening stands that comes after literal text and a marker, or inside the marker. -/
theorem Bare.opening_in_marker (hlit : Bare lit)
    (h : lit ++ '$' :: '{' :: (body ++ rest) = before ++ '$' :: '{' :: after) :
    before = lit ∨
      (∃ inner more, before = lit ++ '$' :: '{' :: inner ∧ body = inner ++ more ∧ more ≠ []) ∨
      ∃ inner, before = lit ++ '$' :: '{' :: (body ++ inner) ∧
        rest = inner ++ '$' :: '{' :: after := by
  obtain ⟨inner, rfl, hinner⟩ := hlit.opening_in_append (by simp) h
  match inner with
  | [] => exact .inl (List.append_nil lit)
  | [_] => cases hinner
  | _ :: _ :: inner =>
    simp only [List.cons_append, List.cons.injEq] at hinner
    obtain ⟨rfl, rfl, hrest⟩ := hinner
    rcases List.append_eq_append_iff.1 hrest with ⟨more, rfl, hmore⟩ | ⟨more, rfl, hmore⟩
    · exact .inr (.inr ⟨more, rfl, hmore⟩)
    · cases more with
      | nil => exact .inr (.inr ⟨[], by simp, by simpa using hmore.symm⟩)
      | cons c more => exact .inr (.inl ⟨inner, c :: more, rfl, rfl, List.cons_ne_nil c more⟩)

end Openings

/-! ## What literal text is -/

section Literal

variable (text : List Char)

/-- There is no opening in literal text. -/
theorem bare_takeLiteral : Bare (takeLiteral text).1 := by
  fun_induction takeLiteral text with
  | case1 => exact bare_nil
  | case2 => exact bare_nil
  | case3 rest literal ending heq ih =>
    rw [heq] at ih
    exact bare_cons (by rintro ⟨⟩) (bare_cons (by rintro ⟨⟩) ih)
  | case4 => exact bare_nil
  | case5 c rest _ _ hopening literal ending heq ih =>
    rw [heq] at ih
    refine bare_cons ?_ ih
    -- A dollar sign is taken as literal text only if no brace follows it.
    rintro rfl hhead
    obtain ⟨tail, rfl⟩ := List.head?_eq_some_iff.1 hhead
    have hrest := takeLiteral_append rest
    rw [heq] at hrest
    exact hopening _ rfl hrest.symm

/-- Literal text in front of an opening ends with an even number of backslashes. -/
theorem even_backslashRun_takeLiteral (h : (takeLiteral text).2 ≠ .endOfText) :
    Even (backslashRun (takeLiteral text).1) := by
  -- Backslashes are taken in pairs, except a last one, and that would escape what follows.
  fun_induction takeLiteral text with
  | case1 => exact absurd rfl h
  | case2 => exact ⟨0, rfl⟩
  | case3 rest literal ending heq ih =>
    rw [heq] at ih
    exact (even_backslashRun_pair literal).2 (ih h)
  | case4 => exact ⟨0, rfl⟩
  | case5 c rest hescape hpair _ literal ending heq ih =>
    rw [heq] at ih
    rw [backslashRun_cons_of_head]
    · exact ih h
    -- A single backslash stands in front of a character that is neither a backslash nor `$`.
    · rintro rfl
      have hrest := takeLiteral_append rest
      rw [heq] at hrest
      cases literal with
      | nil =>
        cases ending with
        | endOfText => exact absurd rfl h
        | escape tail => exact absurd hrest.symm (hpair _ rfl)
        | opening tail => exact absurd hrest.symm (hescape _ rfl)
      | cons d literal =>
        refine ⟨d, literal, rfl, ?_⟩
        rintro rfl
        exact absurd hrest.symm (hpair _ rfl)

/-- Text without an opening and with an even number of backslashes at its end is taken as literal
text in front of an opening, and in front of the backslash that makes one literal. -/
theorem takeLiteral_append_text {lit : List Char} {ending : LiteralEnd} (hlit : Bare lit)
    (heven : Even (backslashRun lit)) (hending : ending ≠ .endOfText) :
    takeLiteral (lit ++ ending.text) = (lit, ending) := by
  have hhead : ∀ tail, ending.text ≠ '{' :: tail := by
    cases ending <;> rintro tail ⟨⟩
  fun_induction takeLiteral lit with
  | case1 =>
    cases ending with
    | endOfText => exact absurd rfl hending
    | escape => rfl
    | opening => rfl
  | case2 rest => exact absurd ⟨['\\'], rest, rfl⟩ hlit
  | case3 rest _ _ _ ih =>
    have hrest : Bare rest := @Bare.right ['\\', '\\'] rest hlit
    rw [List.cons_append, List.cons_append, takeLiteral,
      ih hrest ((even_backslashRun_pair rest).1 heven)]
  | case4 rest => exact absurd ⟨[], rest, rfl⟩ hlit
  | case5 c rest hescape hpair hopening _ _ _ ih =>
    -- The text does not end with a single backslash, since their number is even.
    have hmore : c = '\\' → ∃ d more, rest = d :: more ∧ d ≠ '\\' := by
      rintro rfl
      cases rest with
      | nil => exact absurd heven (by decide)
      | cons d more => exact ⟨d, more, rfl, fun hd => hpair more rfl (hd ▸ rfl)⟩
    have hrest : Bare rest := @Bare.right [c] rest hlit
    rw [backslashRun_cons_of_head hmore] at heven
    rw [List.cons_append, takeLiteral, ih hrest heven]
    · intro tail hc heq
      obtain ⟨d, more, rfl, -⟩ := hmore hc
      obtain ⟨rfl, htail⟩ := List.cons.inj heq
      cases more with
      | nil => exact hhead tail htail
      | cons d more =>
        obtain ⟨rfl, -⟩ := List.cons.inj htail
        exact hescape more hc rfl
    · intro tail hc heq
      obtain ⟨d, more, rfl, hd⟩ := hmore hc
      exact hd (List.cons.inj heq).1
    · intro tail hc heq
      cases rest with
      | nil => exact hhead tail heq
      | cons d more =>
        obtain ⟨rfl, -⟩ := List.cons.inj heq
        exact hopening more hc rfl

/-- Literal text without an opening is taken as a whole. -/
theorem takeLiteral_of_bare {text : List Char} (h : Bare text) :
    takeLiteral text = (text, .endOfText) := by
  have happend := takeLiteral_append text
  cases hliteral : takeLiteral text with
  | mk literal ending =>
    rw [hliteral] at happend
    have hending : Bare ending.text := Bare.right (happend.symm ▸ h)
    cases ending with
    | endOfText => exact congrArg (·, _) (by simpa [LiteralEnd.text] using happend)
    | escape rest => exact absurd ⟨['\\'], rest, rfl⟩ hending
    | opening rest => exact absurd ⟨[], rest, rfl⟩ hending

end Literal

end TemplateLiteral
