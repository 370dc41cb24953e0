import Mathlib
import TemplateLiteral.Proofs.Number.Double
import TemplateLiteral.Proofs.Text.Units
import TemplateLiteral.Value.Operation

/-!
# The order of values

Two values are compared by one order, and each of the four comparisons asks for some of its
outcomes. So the laws of the comparisons are those of the order: turned around it is turned around,
and it has an outcome for any two values but those that are compared as numbers of which one is not
a number. Texts are never compared so, and their order is the total order of their units.

## Main definitions

* `Value.AreTexts`: two values that are compared as texts
* `BinaryOperator.comparisons`, `BinaryOperator.Holds`

## Main results

* `Value.order?_swap`: the order of two values the other way round
* `Value.order?_eq_none_iff`: the values without an order
* `BinaryOperator.comparison_laws`: the laws of the four comparisons
-/

namespace TemplateLiteral

namespace Value

/-! ## The order of numbers -/

section Numbers

open Float.Model (UnpackedFloat)
open Float.Model.UnpackedFloat

theorem compare_unpacked_swap (x y : UnpackedFloat) :
    UnpackedFloat.compare y x = (UnpackedFloat.compare x y).map .swap := by
  have hsize : ∀ (m n : Nat) (e f : Int), (compare f e).then (compare n m) =
      ((compare e f).then (compare m n)).swap := by
    intro m n e f
    rw [Ordering.swap_then, ← Std.OrientedOrd.eq_swap, ← Std.OrientedOrd.eq_swap]
  cases x with
  | notANumber => cases y <;> rfl
  | infinity s =>
    cases y with
    | notANumber => cases s <;> rfl
    | infinity t | zero t | finite t => cases s <;> cases t <;> rfl
  | zero s =>
    cases y with
    | notANumber => rfl
    | infinity t | zero t | finite t => cases t <;> rfl
  | finite s m e hm =>
    cases y with
    | notANumber => cases s <;> rfl
    | infinity t => cases s <;> cases t <;> rfl
    | zero t => cases s <;> rfl
    | finite t n f hn =>
      cases s <;> cases t
      · exact congrArg (fun o : Ordering => some o.swap) (hsize m n e f)
      · rfl
      · rfl
      · exact congrArg some (hsize m n e f)

/-- Two doubles are compared by their parts. -/
theorem orderNumbers?_eq (x y : Float) :
    orderNumbers? x y = UnpackedFloat.compare x.toModel.unpack y.toModel.unpack := by
  have heq : ∀ x y : Float, (x == y) = true ↔
      UnpackedFloat.compare x.toModel.unpack y.toModel.unpack = some .eq := by
    intro x y
    change (UnpackedFloat.compare x.toModel.unpack y.toModel.unpack == some .eq) = true ↔ _
    exact beq_iff_eq
  unfold orderNumbers?
  simp only [Number.lt_iff_compare, heq]
  rw [compare_unpacked_swap x.toModel.unpack y.toModel.unpack]
  cases UnpackedFloat.compare x.toModel.unpack y.toModel.unpack with
  | none => rfl
  | some o => cases o <;> rfl

theorem orderNumbers?_swap (x y : Float) : orderNumbers? y x = (orderNumbers? x y).map .swap := by
  rw [orderNumbers?_eq, orderNumbers?_eq, compare_unpacked_swap]

/-- Two numbers have an order unless one of them is not a number. -/
theorem orderNumbers?_eq_none_iff {x y : Float} :
    orderNumbers? x y = none ↔ x.isNaN ∨ y.isNaN := by
  change _ ↔ UnpackedFloat.isNaN x.toModel.unpack = true ∨
    UnpackedFloat.isNaN y.toModel.unpack = true
  rw [orderNumbers?_eq]
  generalize x.toModel.unpack = x, y.toModel.unpack = y
  cases x with
  | notANumber => exact ⟨fun _ => .inl rfl, fun _ => rfl⟩
  | infinity s | zero s | finite s =>
    cases y with
    | notANumber => exact ⟨fun _ => .inr rfl, fun _ => by cases s <;> rfl⟩
    | infinity t | zero t | finite t =>
      cases s <;> cases t <;> simp [UnpackedFloat.compare, UnpackedFloat.isNaN]

end Numbers

/-! ## The order of values -/

section Order

variable {a b : Value}

/-- The two are compared as texts: both are texts, once arrays and objects are. -/
def AreTexts (a b : Value) : Prop :=
  (∃ s, a.toPrimitive = .string s) ∧ ∃ t, b.toPrimitive = .string t

theorem AreTexts.symm (h : AreTexts a b) : AreTexts b a :=
  ⟨h.2, h.1⟩

theorem toNumber_toPrimitive (v : Value) : v.toPrimitive.toNumber = v.toNumber := by
  cases v <;> rfl

theorem order?_of_toPrimitive {s t : String} (ha : a.toPrimitive = .string s)
    (hb : b.toPrimitive = .string t) :
    a.order? b = some (Text.compareUnits (Text.units s.toList) (Text.units t.toList)) := by
  rw [order?, ha, hb]

/-- What is not compared as texts is compared as numbers. -/
theorem order?_of_not_areTexts (h : ¬ AreTexts a b) :
    a.order? b = orderNumbers? a.toNumber b.toNumber := by
  unfold order?
  split
  next s t ha hb => exact absurd ⟨⟨s, ha⟩, t, hb⟩ h
  next => rw [toNumber_toPrimitive, toNumber_toPrimitive]

/-- The order of two values the other way round. -/
theorem order?_swap (a b : Value) : b.order? a = (a.order? b).map .swap := by
  by_cases h : AreTexts a b
  · obtain ⟨⟨s, ha⟩, t, hb⟩ := h
    rw [order?_of_toPrimitive ha hb, order?_of_toPrimitive hb ha, Text.compareUnits_eq,
      Text.compareUnits_eq]
    exact congrArg some Std.OrientedOrd.eq_swap
  · rw [order?_of_not_areTexts h, order?_of_not_areTexts (mt AreTexts.symm h), orderNumbers?_swap]

/-- Only values that are compared as numbers may have no order. -/
theorem order?_eq_none_iff :
    a.order? b = none ↔ ¬ AreTexts a b ∧ (a.toNumber.isNaN ∨ b.toNumber.isNaN) := by
  by_cases h : AreTexts a b
  · obtain ⟨⟨s, ha⟩, t, hb⟩ := id h
    rw [order?_of_toPrimitive ha hb]
    exact ⟨nofun, fun hno => absurd h hno.1⟩
  · rw [order?_of_not_areTexts h, orderNumbers?_eq_none_iff]
    exact ⟨fun hnan => ⟨h, hnan⟩, And.right⟩

end Order

end Value

namespace BinaryOperator

/-! ## Comparisons -/

/-- The operators that ask for the order of their operands. -/
def comparisons : List BinaryOperator :=
  [.less, .greater, .lessOrEqual, .greaterOrEqual]

/-- The operator makes true of its operands. -/
def Holds (op : BinaryOperator) (a b : Value) : Prop :=
  op.apply a b = .boolean true

section Comparisons

variable {a b : Value}

/-- A comparison and its opposite ask for the same order. -/
theorem comparison_swap (a b : Value) : less.apply a b = greater.apply b a ∧
    lessOrEqual.apply a b = greaterOrEqual.apply b a := by
  simp only [apply, Value.order?_swap a b]
  cases a.order? b with
  | none => exact ⟨rfl, rfl⟩
  | some o => cases o <;> exact ⟨rfl, rfl⟩

/-- Values without an order do not stand in any comparison, and other values do. -/
theorem comparisons_eq_false_iff :
    (∀ op ∈ comparisons, op.apply a b = .boolean false) ↔ a.order? b = none := by
  simp only [comparisons, List.forall_mem_cons, apply]
  cases a.order? b with
  | none => simp
  | some o => cases o <;> simp

/-- Of values with an order, one comparison is the negation of another. -/
theorem comparison_not (h : a.order? b ≠ none) :
    lessOrEqual.apply a b = UnaryOperator.not.apply (greater.apply a b) ∧
      greaterOrEqual.apply a b = UnaryOperator.not.apply (less.apply a b) := by
  simp only [apply]
  cases ho : a.order? b with
  | none => exact absurd ho h
  | some o => cases o <;> exact ⟨rfl, rfl⟩

theorem less_holds_iff : less.Holds a b ↔ a.order? b = some .lt := by
  simp [Holds, apply]

theorem greater_holds_iff : greater.Holds a b ↔ a.order? b = some .gt := by
  simp [Holds, apply]

end Comparisons

/-! ## Comparisons of texts -/

section Texts

variable {s t u : String}

theorem less_string_iff : less.Holds (.string s) (.string t) ↔
    Text.compareUnits (Text.units s.toList) (Text.units t.toList) = .lt := by
  rw [less_holds_iff, Value.order?_of_toPrimitive rfl rfl, Option.some_inj]

theorem greater_string_iff : greater.Holds (.string s) (.string t) ↔
    Text.compareUnits (Text.units s.toList) (Text.units t.toList) = .gt := by
  rw [greater_holds_iff, Value.order?_of_toPrimitive rfl rfl, Option.some_inj]

theorem strictEqual_string_iff : strictEqual.Holds (.string s) (.string t) ↔
    Text.compareUnits (Text.units s.toList) (Text.units t.toList) = .eq := by
  rw [Text.compareUnits_units_eq_iff, String.toList_inj]
  simp [Holds, apply, Value.strictEquals]

/-- Of two texts, exactly one is less than the other, or they are the same. -/
theorem existsUnique_holds_string (s t : String) :
    ∃! op, op ∈ [less, strictEqual, greater] ∧ op.Holds (.string s) (.string t) := by
  simp only [List.mem_cons, List.not_mem_nil, or_false]
  cases h : Text.compareUnits (Text.units s.toList) (Text.units t.toList) with
  | lt =>
    refine ⟨less, ⟨.inl rfl, less_string_iff.2 h⟩, ?_⟩
    rintro op ⟨rfl | rfl | rfl, hop⟩
    · rfl
    · cases h.symm.trans (strictEqual_string_iff.1 hop)
    · cases h.symm.trans (greater_string_iff.1 hop)
  | eq =>
    refine ⟨strictEqual, ⟨.inr (.inl rfl), strictEqual_string_iff.2 h⟩, ?_⟩
    rintro op ⟨rfl | rfl | rfl, hop⟩
    · cases h.symm.trans (less_string_iff.1 hop)
    · rfl
    · cases h.symm.trans (greater_string_iff.1 hop)
  | gt =>
    refine ⟨greater, ⟨.inr (.inr rfl), greater_string_iff.2 h⟩, ?_⟩
    rintro op ⟨rfl | rfl | rfl, hop⟩
    · cases h.symm.trans (less_string_iff.1 hop)
    · cases h.symm.trans (strictEqual_string_iff.1 hop)
    · rfl

theorem less_string_trans (h : less.Holds (.string s) (.string t))
    (h' : less.Holds (.string t) (.string u)) : less.Holds (.string s) (.string u) := by
  rw [less_string_iff, Text.compareUnits_eq] at *
  exact Std.TransCmp.lt_trans h h'

/-- A text is less than the texts that it begins. -/
theorem less_string_append (s : String) (ht : t ≠ "") :
    less.Holds (.string s) (.string (s ++ t)) := by
  rw [less_string_iff, String.toList_append]
  exact Text.compareUnits_units_beginning s.toList (mt String.toList_eq_nil_iff.1 ht)

/-- The first characters that differ are in the order of their code points, if they are on the same
side of U+10000. -/
theorem less_string_of_ne (front : List Char) {c d : Char} (hne : c ≠ d)
    (hsame : c.toNat < 0x10000 ↔ d.toNat < 0x10000) (cs ds : List Char) :
    less.Holds (.string (String.ofList (front ++ c :: cs)))
      (.string (String.ofList (front ++ d :: ds))) ↔ c.toNat < d.toNat := by
  rw [less_string_iff, String.toList_ofList, String.toList_ofList, Text.compareUnits_units_append,
    Text.compareUnits_units_cons hne hsame, Nat.compare_eq_lt]

end Texts

/-- The comparisons turn around with their operands. They are all false if the operands are not both
texts and one of them is not a number, and otherwise one of them is the negation of another. Of two
texts, one is less than the other or they are the same; less than is transitive, a text is less than
those that it begins, and the first characters that differ are in the order of their code points if
they are both in the Basic Multilingual Plane or both outside it. -/
theorem comparison_laws (a b : Value) (s t u : String) (front cs ds : List Char) (c d : Char) :
    (less.apply a b = greater.apply b a ∧ lessOrEqual.apply a b = greaterOrEqual.apply b a) ∧
    ((∀ op ∈ comparisons, op.apply a b = .boolean false) ↔
      ¬ Value.AreTexts a b ∧ (a.toNumber.isNaN ∨ b.toNumber.isNaN)) ∧
    ((∀ op ∈ comparisons, op.apply a b = .boolean false) ∨
      lessOrEqual.apply a b = UnaryOperator.not.apply (greater.apply a b) ∧
        greaterOrEqual.apply a b = UnaryOperator.not.apply (less.apply a b)) ∧
    (∃! op, op ∈ [less, strictEqual, greater] ∧ op.Holds (.string s) (.string t)) ∧
    (less.Holds (.string s) (.string t) → less.Holds (.string t) (.string u) →
      less.Holds (.string s) (.string u)) ∧
    (t ≠ "" → less.Holds (.string s) (.string (s ++ t))) ∧
    (c ≠ d → (c.toNat < 0x10000 ↔ d.toNat < 0x10000) →
      (less.Holds (.string (String.ofList (front ++ c :: cs)))
        (.string (String.ofList (front ++ d :: ds))) ↔ c.toNat < d.toNat)) := by
  refine ⟨comparison_swap a b, ?_, ?_, existsUnique_holds_string s t, less_string_trans,
    less_string_append s, fun hne hsame => less_string_of_ne front hne hsame cs ds⟩
  · rw [comparisons_eq_false_iff, Value.order?_eq_none_iff]
  · rw [comparisons_eq_false_iff]
    exact (em _).imp_right comparison_not

/-- A text, one that it begins, and one with a single unit where the second has a surrogate. -/
theorem comparison_laws_surrogate :
    (less.Holds (.string "a") (.string "a😀") ∧ less.Holds (.string "a😀") (.string "a\uE000") ∧
      less.Holds (.string "a") (.string "a\uE000")) ∧
    ("a😀" ≠ "" ∧ less.Holds (.string "a") (.string ("a" ++ "a😀"))) ∧
    ('😀' ≠ '😁' ∧ ('😀'.toNat < 0x10000 ↔ '😁'.toNat < 0x10000) ∧
      less.Holds (.string "é😀b") (.string "é😁a")) := by
  obtain ⟨-, -, -, -, htrans, happend, hfirst⟩ :=
    comparison_laws .undefined .null "a" "a😀" "a\uE000" ['é'] ['b'] ['a'] '😀' '😁'
  have hless : less.Holds (.string "a") (.string "a😀") := by
    rw [Holds]
    cbv
  have hless' : less.Holds (.string "a😀") (.string "a\uE000") := by
    rw [Holds]
    cbv
  have hne : '😀' ≠ '😁' := by decide
  have hsame : '😀'.toNat < 0x10000 ↔ '😁'.toNat < 0x10000 := by decide
  exact ⟨⟨hless, hless', htrans hless hless'⟩, ⟨by decide, happend (by decide)⟩,
    hne, hsame, (hfirst hne hsame).2 (by decide)⟩

end BinaryOperator

end TemplateLiteral
