import TemplateLiteral.Proofs.Token.Lookahead
import TemplateLiteral.Proofs.Token.Stretch

/-!
# Blanks between tokens

Blank characters may be put between any two tokens of a marker, also where there are none yet, and
in front of the first token or of the closing brace. A blank character is no part of a sign, a
numeral or a name, so that it stops the token in front of it, and this token goes no further than
before. What it could change is the token alone whose end is decided by what stands behind the next
sign: the question mark in front of a point and a digit. But then the point belongs to a number, and
nothing is put between the point and the digit.

## Main definitions

* `TokenStream.Gap`: no token reaches over a place

## Main results

* `Lexeme.stops_of_isBlank`: no token but a string goes on with a blank character
* `exists_scans_of_gap`: what stands in front of a gap
* `scan_append_blanks`: a marker with blank characters put in a gap
-/

namespace TemplateLiteral

/-! ## Blank characters -/

/-- No token but a string goes on with a blank character. -/
theorem Lexeme.stops_of_isBlank [Text.Alphabet] {b : Char} (h : Text.isBlank b) : Stops b := by
  have hnone : ∀ {letters : List Char}, letters.all (!Text.isBlank ·) → b ∉ letters := by
    intro letters hletters hmem
    have hb := List.all_eq_true.1 hletters b hmem
    rw [h] at hb
    cases hb
  have hletters : ['.', 'x', 'X', 'e', 'E', '+', '-'].all (!Text.isBlank ·) := by decide
  have hsigns : ∀ sign ∈ signs, sign.1.all (!Text.isBlank ·) := by decide
  have hends := Number.Numeral.ends_of_isBlank h
  exact ⟨⟨hends.decimal, hends.hexadecimal, hnone hletters⟩,
    Text.isNamePart_eq_false_of_isBlank h, fun sign hsign => hnone (hsigns sign hsign)⟩

/-! ## Gaps -/

/-- The place lies between two tokens, in front of the first or behind the last. -/
def TokenStream.Gap (tokens : TokenStream) (place : Nat) : Prop :=
  ∀ t ∈ tokens.toList, t.region.stop ≤ place ∨ place ≤ t.region.start

instance (tokens : TokenStream) (place : Nat) : Decidable (tokens.Gap place) :=
  inferInstanceAs (Decidable (∀ t ∈ tokens.toList, _))

section Gaps

variable {start : Nat} {text front back blanks spaces : List Char} {ts : List Token}

/-- Characters that take no more bytes than the first of two texts lie in it. -/
theorem le_length_of_byteLength_take_le {n : Nat} (hn : n ≤ (front ++ back).length)
    (h : Text.byteLength ((front ++ back).take n) ≤ Text.byteLength front) :
    n ≤ front.length := by
  by_contra hlonger
  have hback : back.take (n - front.length) ≠ [] := by
    rw [List.length_append] at hn
    apply List.ne_nil_of_length_pos
    rw [List.length_take]
    omega
  have hpos := Text.byteLength_pos hback
  rw [List.take_append, List.take_of_length_le (by omega), Text.byteLength_append] at h
  omega

variable [Text.Alphabet]

/-- In front of a gap stand tokens, and perhaps blank characters behind them. -/
theorem exists_scans_of_gap (hcloses : (scan start (front ++ back)).tokens.Closes)
    (hgap : (scan start (front ++ back)).tokens.Gap (start + Text.byteLength front))
    (hinside : Text.byteLength front < Text.byteLength (scan start (front ++ back)).body) :
    ∃ text blanks ts, front = text ++ blanks ∧ (∀ b ∈ blanks, Text.isBlank b) ∧
      Scans (blanks ++ back) start text ts := by
  induction hlength : front.length using Nat.strongRecOn generalizing start front with
  | ind n ih =>
  subst hlength
  cases front with
  | nil => exact ⟨[], [], [], rfl, nofun, .nil⟩
  | cons c front =>
  rw [List.cons_append] at hcloses hgap hinside
  by_cases hblank : Text.isBlank c
  · rw [scan_blank start hblank] at hcloses hgap hinside
    rw [Text.byteLength_cons, ← Nat.add_assoc] at hgap
    obtain ⟨text, blanks, ts, rfl, hblanks, htext⟩ := ih front.length (Nat.lt_succ_self _)
      hcloses hgap (Nat.lt_of_add_lt_add_left hinside) rfl
    -- A blank character belongs to the token behind it, if there is one in front of the gap.
    by_cases hts : ts = []
    · subst hts
      cases htext
      exact ⟨[], c :: blanks, [], rfl, List.forall_mem_cons.2 ⟨hblank, hblanks⟩, .nil⟩
    · exact ⟨c :: text, blanks, ts, rfl, hblanks, htext.cons_blank hblank hts⟩
  by_cases hbrace : c = '}'
  · subst hbrace
    rw [scan_closingBrace, Text.byteLength_cons, Text.byteLength_cons, Text.byteLength_nil]
      at hinside
    omega
  cases hfirst : Lexeme.first c (front ++ back) with
  | error failed =>
    rw [scan_fault start hblank hbrace hfirst] at hcloses
    cases hcloses
  | ok found =>
    obtain ⟨kind, more⟩ := found
    rw [scan_lexeme start hblank hbrace hfirst] at hcloses hgap hinside
    dsimp only at hcloses hgap hinside
    obtain ⟨htoken, hgap⟩ := List.forall_mem_cons.1 hgap
    -- The token begins in front of the gap, so that it ends there too.
    have hmore : more ≤ front.length := by
      apply le_length_of_byteLength_take_le (Lexeme.more_le_of_first hfirst)
      have hpos := c.utf8Size_pos
      simp only [Text.byteLength_cons] at htoken
      omega
    -- What stands in front of the gap is this token, and what is left of it behind the token.
    obtain ⟨lexeme, tail, rfl, rfl⟩ : ∃ lexeme tail, front = lexeme ++ tail ∧
        more = lexeme.length :=
      ⟨_, _, (List.take_append_drop more front).symm, (List.length_take_of_le hmore).symm⟩
    rw [List.append_assoc] at hfirst hcloses hgap hinside
    rw [List.take_left, List.drop_left] at hcloses hgap hinside
    rw [← List.cons_append, Text.byteLength_append, ← Nat.add_assoc] at hgap
    rw [← List.cons_append, Text.byteLength_append, Text.byteLength_append] at hinside
    have hshorter : tail.length < (c :: (lexeme ++ tail)).length := by
      rw [List.length_cons, List.length_append]
      omega
    obtain ⟨text, blanks, ts, rfl, hblanks, htext⟩ :=
      ih tail.length hshorter hcloses hgap (Nat.lt_of_add_lt_add_left hinside) rfl
    rw [List.append_assoc] at hfirst
    exact ⟨c :: lexeme ++ text, blanks, _, by simp, hblanks, .lexeme hblank hbrace hfirst htext⟩

/-- What stands in front of a gap is read as the same tokens when blank characters are put there. -/
theorem Scans.spaced (h : Scans (blanks ++ back) start text ts)
    (hblanks : ∀ b ∈ blanks, Text.isBlank b) (hspaces : ∀ b ∈ spaces, Text.isBlank b) :
    Scans (blanks ++ (spaces ++ back)) start text ts := by
  cases blanks with
  | nil =>
    cases spaces with
    | nil => exact h
    | cons b spaces =>
      exact h.stopped (Lexeme.stops_of_isBlank (hspaces b List.mem_cons_self)) _
  | cons b blanks =>
    exact h.stopped (Lexeme.stops_of_isBlank (hblanks b List.mem_cons_self)) _

/-- A marker with blank characters put in a gap: they are part of what is inside it, and the tokens
are the same, but for their places. -/
theorem scan_append_blanks (hcloses : (scan start (front ++ back)).tokens.Closes)
    (hgap : (scan start (front ++ back)).tokens.Gap (start + Text.byteLength front))
    (hinside : Text.byteLength front < Text.byteLength (scan start (front ++ back)).body)
    (hspaces : ∀ b ∈ spaces, Text.isBlank b) :
    ∃ tokens body, (scan start (front ++ back)).body = front ++ body ∧
      scan start (front ++ (spaces ++ back)) =
        ⟨tokens, front ++ (spaces ++ body), (scan start (front ++ back)).rest⟩ ∧
      tokens.relocate nowhere = (scan start (front ++ back)).tokens.relocate nowhere := by
  obtain ⟨text, blanks, ts, rfl, hblanks, htext⟩ := exists_scans_of_gap hcloses hgap hinside
  have hspaced := htext.spaced hblanks hspaces
  generalize hplace : start + Text.byteLength text + Text.byteLength blanks = place
  have hscan : scan start (text ++ blanks ++ back) =
      ⟨(scan place back).tokens.prepend ts, text ++ blanks ++ (scan place back).body,
        (scan place back).rest⟩ := by
    rw [List.append_assoc, htext.scan_eq, scan_blanks hblanks, hplace, List.append_assoc]
  -- What stands behind the gap is only moved.
  have hmoved := scan_relocate (shifts_add (Text.byteLength spaces) place) back
  have hscan' : scan start (text ++ blanks ++ (spaces ++ back)) =
      ⟨((scan place back).tokens.relocate (· + Text.byteLength spaces)).prepend ts,
        text ++ blanks ++ (spaces ++ (scan place back).body), (scan place back).rest⟩ := by
    rw [List.append_assoc, hspaced.scan_eq, scan_blanks hblanks, hplace, scan_blanks hspaces,
      hmoved, List.append_assoc]
  rw [hscan, hscan']
  refine ⟨_, _, rfl, rfl, ?_⟩
  rw [TokenStream.relocate_prepend, TokenStream.relocate_prepend, TokenStream.relocate_nowhere]

end Gaps

end TemplateLiteral
