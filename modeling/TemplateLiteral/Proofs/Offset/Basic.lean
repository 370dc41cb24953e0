import Mathlib.Order.MinMax
import TemplateLiteral.Proofs.Outcome
import TemplateLiteral.Text.Region

/-!
# Slices that may fail

A program that counts in bytes takes a text apart by slices, and a slice has no result where it is
reversed, reaches past the end or begins or ends inside a character; a difference has none where it
would be negative. Here both are partial, and a computation that takes them may get stuck in
addition to failing with a fault. That it does not, is shown by running it beside one that has no
slices in it.

## Main definitions

* `Offset.from?`, `Offset.sub?`, `Offset.charAt?`: slices, differences and single characters
* `Offset.Stands`: a text stands at a place of a source
* `Offset.Checked`, `Offset.Agrees`: a computation with slices, and that it does what another does

## Main results

* `Offset.Stands.from?_eq`, `Offset.Stands.slice?_eq`: slices at places where a text stands
* `Offset.Agrees.bind`: steps that are run side by side
-/

namespace TemplateLiteral.Offset

/-! ## Slices -/

/-- The text from a place on, if a character begins there or the text ends. -/
def from? (source : List Char) (place : Nat) : Option (List Char) :=
  (Text.splitAtByte? place source).map Prod.snd

/-- A difference, if it is not negative. -/
def sub? (a b : Nat) : Option Nat :=
  if b ≤ a then some (a - b) else none

/-- The character that begins at a place, if one does. The bytes that are looked for in this way are
those of digits, letters and signs, and none of them is a part of another character. -/
def charAt? (source : List Char) (place : Nat) : Option Char :=
  (from? source place).bind List.head?

/-- Where the first character with a property begins, if there is one. -/
def find? (p : Char → Bool) : List Char → Option Nat
  | [] => none
  | c :: rest => if p c then some 0 else (find? p rest).map (c.utf8Size + ·)

theorem splitAtByte?_eq_some {n : Nat} {text xs ys : List Char}
    (h : Text.splitAtByte? n text = some (xs, ys)) : text = xs ++ ys ∧ n = Text.byteLength xs := by
  fun_induction Text.splitAtByte? n text generalizing xs ys with
  | case1 => cases h; exact ⟨rfl, rfl⟩
  | case2 => cases h
  | case3 n c text hle ih =>
    obtain ⟨⟨before, after⟩, hsplit, hpair⟩ := Option.map_eq_some_iff.1 h
    cases hpair
    obtain ⟨rfl, hn⟩ := ih hsplit
    exact ⟨rfl, by rw [Text.byteLength_cons]; omega⟩
  | case4 => cases h

theorem sub?_add (a b : Nat) : sub? (a + b) a = some b := by
  rw [sub?, if_pos (Nat.le_add_right a b), Nat.add_sub_cancel_left]

/-- What has no character with a property in it ends where the first such character begins, or with
the text. -/
theorem getD_find? (p : Char → Bool) (place : Nat) (text : List Char) :
    ((find? p text).map (place + ·)).getD (place + Text.byteLength text) =
      place + Text.byteLength (text.takeWhile (!p ·)) := by
  induction text generalizing place with
  | nil => rfl
  | cons c rest ih =>
    by_cases hc : p c
    · simp [find?, hc]
    · have hplace := ih (place + c.utf8Size)
      simp only [find?, hc, Bool.false_eq_true, if_false, Option.map_map, Text.byteLength_cons,
        ← Nat.add_assoc, List.takeWhile_cons, Bool.not_false, if_true]
      rw [← hplace]
      congr 2
      funext n
      exact (Nat.add_assoc _ _ _).symm

/-! ## Texts in their places -/

/-- The source goes on with the text from the place on. -/
def Stands (source : List Char) (place : Nat) (text : List Char) : Prop :=
  ∃ before, source = before ++ text ∧ place = Text.byteLength before

section Stands

variable {source text xs ys : List Char} {place : Nat} {c : Char}

theorem stands_zero (source : List Char) : Stands source 0 source :=
  ⟨[], rfl, rfl⟩

theorem Stands.from?_eq (h : Stands source place text) : from? source place = some text := by
  obtain ⟨before, rfl, rfl⟩ := h
  rw [from?, Text.splitAtByte?_append]
  rfl

theorem Stands.append (h : Stands source place (xs ++ ys)) :
    Stands source (place + Text.byteLength xs) ys := by
  obtain ⟨before, rfl, rfl⟩ := h
  exact ⟨before ++ xs, (List.append_assoc before xs ys).symm, (Text.byteLength_append ..).symm⟩

theorem Stands.cons (h : Stands source place (c :: text)) :
    Stands source (place + c.utf8Size) text :=
  @Stands.append source [c] text place h

theorem Stands.slice?_eq (h : Stands source place (xs ++ ys)) :
    Region.slice? ⟨place, place + Text.byteLength xs⟩ source = some xs := by
  obtain ⟨before, rfl, rfl⟩ := h
  exact Region.slice?_append before xs ys

theorem Stands.byteLength_eq (h : Stands source place text) :
    Text.byteLength source = place + Text.byteLength text := by
  obtain ⟨before, rfl, rfl⟩ := h
  exact Text.byteLength_append before text

theorem Stands.charAt?_eq (h : Stands source place text) : charAt? source place = text.head? := by
  rw [charAt?, h.from?_eq]
  rfl

/-- Behind a text there is a place further on in the source. -/
theorem Stands.moves (h : Stands source place (xs ++ ys)) (hxs : xs ≠ []) :
    place < place + Text.byteLength xs ∧ place + Text.byteLength xs ≤ Text.byteLength source := by
  obtain ⟨c, xs, rfl⟩ := List.exists_cons_of_ne_nil hxs
  have := c.utf8Size_pos
  rw [h.byteLength_eq, Text.byteLength_append, Text.byteLength_cons]
  omega

/-- The text up to the first character with a property ends where that is found. -/
theorem Stands.getD_find?_eq (h : Stands source place text) (p : Char → Bool) :
    ((find? p text).map (place + ·)).getD (Text.byteLength source) =
      place + Text.byteLength (text.takeWhile (!p ·)) := by
  rw [h.byteLength_eq, getD_find?]

end Stands

/-! ## Regions that fit -/

/-- A character begins at the place, or the source ends there. -/
def Cuts (source : List Char) (place : Nat) : Prop :=
  ∃ text, Stands source place text

/-- The region is not reversed, lies in the source and cuts no character. -/
structure Fits (source : List Char) (region : Region) : Prop where
  start_le_stop : region.start ≤ region.stop
  start : Cuts source region.start
  stop : Cuts source region.stop

section Fits

variable {source text xs ys : List Char} {place n : Nat} {a b : Region}

theorem Stands.cuts (h : Stands source place text) : Cuts source place :=
  ⟨text, h⟩

/-- A text that stands in a source takes a region that fits. -/
theorem Stands.fits (h : Stands source place (xs ++ ys)) :
    Fits source ⟨place, place + Text.byteLength xs⟩ :=
  ⟨Nat.le_add_right _ _, h.cuts, h.append.cuts⟩

/-- Around two regions that fit there is one that fits, however they lie. -/
theorem Fits.cover (ha : Fits source a) (hb : Fits source b) : Fits source (a.cover b) where
  start_le_stop :=
    Nat.le_trans (Nat.min_le_left _ _) (Nat.le_trans ha.start_le_stop (Nat.le_max_left _ _))
  -- Each end of the cover is an end of one of the two.
  start := by
    rcases min_choice a.start b.start with h | h
    · exact (congrArg (Cuts source) h).mpr ha.start
    · exact (congrArg (Cuts source) h).mpr hb.start
  stop := by
    rcases max_choice a.stop b.stop with h | h
    · exact (congrArg (Cuts source) h).mpr ha.stop
    · exact (congrArg (Cuts source) h).mpr hb.stop

/-- A place that is not before a text lies in it or at its end, if it cuts no character. -/
theorem Stands.exists_append (h : Stands source place text) (hn : Cuts source n)
    (hle : place ≤ n) : ∃ xs ys, text = xs ++ ys ∧ n = place + Text.byteLength xs := by
  obtain ⟨before, rfl, rfl⟩ := h
  obtain ⟨after, front, hsource, rfl⟩ := hn
  rcases List.append_eq_append_iff.1 hsource with ⟨xs, rfl, rfl⟩ | ⟨xs, rfl, rfl⟩
  · exact ⟨xs, after, rfl, Text.byteLength_append before xs⟩
  · cases xs with
    | nil => exact ⟨[], text, rfl, by simp⟩
    | cons c xs =>
      -- A character has a byte at least.
      have := c.utf8Size_pos
      rw [Text.byteLength_append, Text.byteLength_cons] at hle
      omega

/-- What fits can be sliced. -/
theorem Fits.isSome_slice? {region : Region} (h : Fits source region) :
    (region.slice? source).isSome := by
  obtain ⟨text, htext⟩ := h.start
  obtain ⟨xs, ys, rfl, hstop⟩ := htext.exists_append h.stop h.start_le_stop
  have hslice := htext.slice?_eq
  rw [← hstop] at hslice
  rw [hslice]
  rfl

-- What begins with the second byte of `è` is no slice.
example : Region.slice? ⟨3, 5⟩ "Chère".toList = none := by decide

end Fits

/-! ## Computations with slices -/

/-- A computation that may get stuck at a slice or a difference, and may fail with a fault. -/
abbrev Checked (ε α : Type) : Type :=
  ExceptT ε Option α

/-- A computation with slices does not get stuck, and does what another does: it fails with the same
fault, which has a property, or has a result that is related. -/
inductive Agrees {ε α β : Type} (q : ε → Prop) (r : α → β → Prop) :
    Checked ε α → Except ε β → Prop where
  | ok {a : α} {b : β} : r a b → Agrees q r (pure a) (.ok b)
  | error {e : ε} : q e → Agrees q r (throw e) (.error e)

section Agrees

variable {ε α β α' β' : Type} {q : ε → Prop} {r : α → β → Prop} {s : α' → β' → Prop}

/-- Two steps agree if the first ones do, and the second ones do on results that are related. -/
theorem Agrees.bind {x : Checked ε α} {y : Except ε β} {f : α → Checked ε α'}
    {g : β → Except ε β'} (h : Agrees q r x y) (hfg : ∀ a b, r a b → Agrees q s (f a) (g b)) :
    Agrees q s (x >>= f) (y >>= g) := by
  cases h with
  | ok h => exact hfg _ _ h
  | error h => exact .error h

/-- What is reported has the property. -/
theorem Agrees.of_eq_error {x : Checked ε α} {y : Except ε β} {e : ε} (h : Agrees q r x y)
    (hy : y = .error e) : q e := by
  cases h with
  | ok => cases hy
  | error h =>
    cases hy
    exact h

theorem Agrees.map {x : Checked ε α} {y : Except ε β} {f : α → α'} {g : β → β'}
    (h : Agrees q r x y) (hfg : ∀ a b, r a b → s (f a) (g b)) :
    Agrees q s (f <$> x) (y.map g) := by
  cases h with
  | ok h => exact .ok (hfg _ _ h)
  | error h => exact .error h

/-- A list of steps agrees if each of them does on what is related. -/
theorem Agrees.mapM {t : α → β → Prop} {f : α → Checked ε α'} {g : β → Except ε β'}
    {xs : List α} {ys : List β} (h : List.Forall₂ t xs ys)
    (hfg : ∀ x y, t x y → Agrees q s (f x) (g y)) :
    Agrees q (List.Forall₂ s) (xs.mapM f) (ys.mapM g) := by
  -- The fault of a list is that of its first step with one, so later steps need no look.
  induction h with
  | nil => exact .ok .nil
  | cons hxy _ ih =>
    rw [List.mapM_cons, List.mapM_cons]
    exact (hfg _ _ hxy).bind fun _ _ hhead => ih.bind fun _ _ htail => .ok (.cons hhead htail)

/-- A slice that succeeds goes on with its result. -/
theorem lift_bind {x : Option α} {a : α} (h : x = some a) (f : α → Checked ε α') :
    ((liftM x : Checked ε α) >>= f) = f a := by
  rw [h]
  rfl

end Agrees

end TemplateLiteral.Offset
