import Mathlib.Data.List.Basic
import TemplateLiteral.Text.Units

/-!
# Texts and their units

The units of a text determine the text, since the units of one character never begin with those of
another. So the order by units is a total order of texts. It is the order of code points only among
the characters that are one unit, and among those that are two: the surrogates, which the latter
begin with, have their place below U+E000.

## Main results

* `units_append_inj`, `units_injective`: texts are read back from their units
* `compareUnits_eq`: the order of units is the lexicographic one
* `compareUnits_units_append`: a beginning that two texts share does not matter
* `compareUnits_units_cons`: the first characters that differ decide, if both are of one unit or
  both of two
-/

namespace TemplateLiteral.Text

variable {c d : Char} {s t : List Char}

/-! ## Units of characters -/

/-- No character is a surrogate. -/
theorem toNat_lt_or_lt (c : Char) : c.toNat < 0xD800 ∨ 0xDFFF < c.toNat ∧ c.toNat < 0x110000 :=
  c.valid

/-- A character is of one unit, its code point, or of a high surrogate and a low one. -/
theorem unitsOfChar_cases (c : Char) :
    (c.toNat < 0x10000 ∧ unitsOfChar c = [c.toNat]) ∨
    ∃ high low, unitsOfChar c = [0xD800 + high, 0xDC00 + low] ∧ high < 0x400 ∧ low < 0x400 ∧
      c.toNat = 0x10000 + 0x400 * high + low := by
  unfold unitsOfChar
  have hvalid := toNat_lt_or_lt c
  split
  next h => exact .inl ⟨h, rfl⟩
  next h => exact .inr ⟨_, _, rfl, by omega, by omega, by omega⟩

theorem unitsOfChar_ne_nil (c : Char) : unitsOfChar c ≠ [] := by
  unfold unitsOfChar
  split <;> exact List.cons_ne_nil _ _

/-- What begins with the units of two characters begins with the same character. -/
theorem units_append_inj {xs ys : List Nat}
    (h : unitsOfChar c ++ xs = unitsOfChar d ++ ys) : c = d ∧ xs = ys := by
  have hvalid := toNat_lt_or_lt c
  have hvalid' := toNat_lt_or_lt d
  rcases unitsOfChar_cases c with ⟨-, hc⟩ | ⟨high, low, hc, hhigh, -, hcode⟩ <;>
    rcases unitsOfChar_cases d with ⟨-, hd⟩ | ⟨high', low', hd, hhigh', -, hcode'⟩ <;>
    rw [hc, hd] at h <;> obtain ⟨hunit, hrest⟩ := List.cons.inj h
  · exact ⟨Char.toNat_inj.1 hunit, hrest⟩
  -- A character of one unit is no surrogate.
  · omega
  · omega
  · obtain ⟨hunit', hrest⟩ := List.cons.inj hrest
    exact ⟨Char.toNat_inj.1 (by omega), hrest⟩

/-! ## Units of texts -/

theorem units_cons (c : Char) (s : List Char) : units (c :: s) = unitsOfChar c ++ units s :=
  List.flatMap_cons

theorem units_append (s t : List Char) : units (s ++ t) = units s ++ units t :=
  List.flatMap_append

theorem units_ne_nil (h : s ≠ []) : units s ≠ [] := by
  obtain ⟨c, tail, rfl⟩ := List.exists_cons_of_ne_nil h
  rw [units_cons]
  exact fun h => unitsOfChar_ne_nil c (List.append_eq_nil_iff.1 h).1

/-- The units of a text determine the text. -/
theorem units_injective : Function.Injective units := by
  intro s t h
  induction s generalizing t with
  | nil =>
    by_contra hne
    exact units_ne_nil (Ne.symm hne) h.symm
  | cons c s ih =>
    cases t with
    | nil => exact absurd h (units_ne_nil (List.cons_ne_nil c s))
    | cons d t =>
      rw [units_cons, units_cons] at h
      obtain ⟨rfl, hrest⟩ := units_append_inj h
      rw [ih hrest]

/-! ## The order of texts -/

/-- The order of units is the lexicographic one. -/
theorem compareUnits_eq (xs ys : List Nat) : compareUnits xs ys = compare xs ys := by
  fun_induction compareUnits xs ys with
  | case1 => rfl
  | case2 => rfl
  | case3 => rfl
  | case4 x xs y ys hlt => rw [List.compare_cons_cons, Nat.compare_eq_lt.2 hlt, Ordering.lt_then]
  | case5 x xs y ys _ hlt => rw [List.compare_cons_cons, Nat.compare_eq_gt.2 hlt, Ordering.gt_then]
  | case6 x xs y ys hge hle ih =>
    obtain rfl : x = y := Nat.le_antisymm (Nat.not_lt.1 hle) (Nat.not_lt.1 hge)
    rw [List.compare_cons_cons, Nat.compare_eq_eq.2 rfl, Ordering.eq_then, ih]

theorem compareUnits_append (front xs ys : List Nat) :
    compareUnits (front ++ xs) (front ++ ys) = compareUnits xs ys := by
  induction front with
  | nil => rfl
  | cons x front ih => simpa [compareUnits] using ih

/-- A beginning that two texts share does not matter for their order. -/
theorem compareUnits_units_append (front s t : List Char) :
    compareUnits (units (front ++ s)) (units (front ++ t)) =
      compareUnits (units s) (units t) := by
  rw [units_append, units_append, compareUnits_append]

/-- Texts that are of one rank are the same text. -/
theorem compareUnits_units_eq_iff : compareUnits (units s) (units t) = .eq ↔ s = t := by
  rw [compareUnits_eq, Std.LawfulEqCmp.compare_eq_iff_eq, units_injective.eq_iff]

/-- A text comes before those that it begins. -/
theorem compareUnits_units_beginning (s : List Char) (ht : t ≠ []) :
    compareUnits (units s) (units (s ++ t)) = .lt := by
  have hunits := compareUnits_units_append s [] t
  rw [List.append_nil] at hunits
  rw [hunits]
  obtain ⟨x, xs, hx⟩ := List.exists_cons_of_ne_nil (units_ne_nil ht)
  rw [hx]
  rfl

/-- Two characters of one unit, or two of two units, are in the order of their code points, whatever
stands after them. -/
theorem compareUnits_units_cons (hne : c ≠ d) (hsame : c.toNat < 0x10000 ↔ d.toNat < 0x10000)
    (s t : List Char) :
    compareUnits (units (c :: s)) (units (d :: t)) = compare c.toNat d.toNat := by
  have hcode : c.toNat ≠ d.toNat := fun h => hne (Char.toNat_inj.1 h)
  rw [units_cons, units_cons, compareUnits_eq]
  rcases unitsOfChar_cases c with ⟨hplane, hc⟩ | ⟨high, low, hc, -, hlow, hvalue⟩ <;>
    rcases unitsOfChar_cases d with ⟨hplane', hd⟩ | ⟨high', low', hd, -, hlow', hvalue'⟩
  · rw [hc, hd, List.singleton_append, List.singleton_append, List.compare_cons_cons]
    rcases Nat.lt_or_gt_of_ne hcode with h | h
    · rw [Nat.compare_eq_lt.2 h, Ordering.lt_then]
    · rw [Nat.compare_eq_gt.2 h, Ordering.gt_then]
  · omega
  · omega
  · simp only [hc, hd, List.cons_append, List.compare_cons_cons]
    -- The high surrogates decide, and the low ones where these are the same.
    rcases Nat.lt_trichotomy high high' with h | rfl | h
    · rw [Nat.compare_eq_lt.2 (by omega), Ordering.lt_then, Nat.compare_eq_lt.2 (by omega)]
    · rw [Nat.compare_eq_eq.2 rfl, Ordering.eq_then]
      rcases Nat.lt_or_gt_of_ne (show low ≠ low' by omega) with h | h
      · rw [Nat.compare_eq_lt.2 (by omega), Ordering.lt_then, Nat.compare_eq_lt.2 (by omega)]
      · rw [Nat.compare_eq_gt.2 (by omega), Ordering.gt_then, Nat.compare_eq_gt.2 (by omega)]
    · rw [Nat.compare_eq_gt.2 (by omega), Ordering.gt_then, Nat.compare_eq_gt.2 (by omega)]

end TemplateLiteral.Text
