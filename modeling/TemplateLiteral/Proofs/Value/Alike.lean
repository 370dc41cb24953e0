import Mathlib.Data.List.Perm.Basic
import TemplateLiteral.Evaluation
import TemplateLiteral.Proofs.Value.Conversion

/-!
# Data that expressions cannot tell apart

Two data are alike if they differ at most in the order of the fields of objects, at any depth.
Numbers are alike if they are the same double, so that the two zeros differ and it does not matter
whether a number came as an integer. Two values are alike if they are alike as data and, where they
are arrays or objects, stand in the same place.

Whatever an expression does with a value, it does the same with a value that is alike: the tests,
the conversions, the properties and the operators do not see a difference.

## Main definitions

* `Data.Alike`, `Value.Alike`

## Main results

* `Data.Alike.of_perm`: objects whose fields are in another order
* `Data.Alike.text_eq`: the text of data
* `Value.Alike.property`: the properties of values that are alike
* `Value.Alike.unary`, `Value.Alike.binary`: the operators
-/

namespace TemplateLiteral

/-! ## Data -/

namespace Data

/-- The double that a number is. -/
def number? : Data → Option Float
  | .integer n => some (Number.ofInt n)
  | .fraction x => some x
  | _ => none

/-- The two differ at most in the order of the fields of objects. -/
inductive Alike : Data → Data → Prop where
  | null : Alike .null .null
  | boolean (truth : Bool) : Alike (.boolean truth) (.boolean truth)
  | number {a b : Data} {x : Float} : a.number? = some x → b.number? = some x → Alike a b
  | string (text : String) : Alike (.string text) (.string text)
  /-- Two arrays have items that are alike, in the same order. -/
  | array {xs ys : List Data} : xs.length = ys.length →
      (∀ (i : Nat) (x y : Data), xs[i]? = some x → ys[i]? = some y → Alike x y) →
      Alike (.array xs) (.array ys)
  /-- Two objects have the same keys, and the values of a key are alike. -/
  | object {fs gs : List (String × Data)} :
      (∀ key, (Fields.get? key fs).isSome = (Fields.get? key gs).isSome) →
      (∀ key v w, Fields.get? key fs = some v → Fields.get? key gs = some w → Alike v w) →
      Alike (.object fs) (.object gs)

theorem mem_of_get? {key : String} {v : Data} {fields : List (String × Data)}
    (h : Fields.get? key fields = some v) : (key, v) ∈ fields := by
  induction fields with
  | nil => cases h
  | cons f fields ih =>
    obtain ⟨k, w⟩ := f
    rw [Fields.get?] at h
    split at h
    next hkey =>
      obtain rfl := Option.some.inj h
      rw [hkey]
      exact List.mem_cons_self
    next => exact List.mem_cons_of_mem _ (ih h)

/-- If no key occurs twice, the order of the fields does not matter for what is read. -/
theorem get?_eq_of_perm {fs gs : List (String × Data)} (hkeys : (Fields.keys fs).Nodup)
    (hperm : fs.Perm gs) (key : String) : Fields.get? key fs = Fields.get? key gs := by
  induction hperm with
  | nil => rfl
  | cons f _ ih =>
    obtain ⟨k, v⟩ := f
    rw [Fields.get?, Fields.get?, ih (List.nodup_cons.1 hkeys).2]
  | swap f g rest =>
    -- The two keys are not the same, so at most one of them is looked up.
    obtain ⟨k, v⟩ := f
    obtain ⟨l, w⟩ := g
    have hne : l ≠ k := by
      rintro rfl
      exact (List.nodup_cons.1 hkeys).1 List.mem_cons_self
    simp only [Fields.get?]
    split_ifs with hl hk
    · exact absurd (hl.trans hk.symm) hne
    · rfl
    · rfl
    · rfl
  | trans hperm _ ih ih' =>
    rw [ih hkeys, ih' ((hperm.map Prod.fst).nodup_iff.1 hkeys)]

namespace Alike

/-- Data are like themselves. -/
theorem refl : (data : Data) → Alike data data
  | .null => .null
  | .boolean truth => .boolean truth
  | .integer _ => .number rfl rfl
  | .fraction _ => .number rfl rfl
  | .string text => .string text
  | .array items => .array rfl fun i x y hx hy => by
      obtain rfl := Option.some.inj (hx.symm.trans hy)
      have hmem : x ∈ items := List.mem_of_getElem? hx
      exact refl x
  | .object fields => .object (fun _ => rfl) fun key v w hv hw => by
      obtain rfl := Option.some.inj (hv.symm.trans hw)
      have hmem : (key, v) ∈ fields := mem_of_get? hv
      exact refl v
termination_by data => sizeOf data
decreasing_by
  · have := List.sizeOf_lt_of_mem hmem
    simp
    omega
  · have := List.sizeOf_lt_of_mem hmem
    simp at this ⊢
    omega

/-- Objects whose fields are in another order are alike. -/
theorem of_perm {fs gs : List (String × Data)} (hkeys : (Fields.keys fs).Nodup)
    (hperm : fs.Perm gs) : Alike (.object fs) (.object gs) := by
  have hget := get?_eq_of_perm hkeys hperm
  refine .object (fun key => by rw [hget key]) fun key v w hv hw => ?_
  obtain rfl := Option.some.inj (hv.symm.trans ((hget key).trans hw))
  exact refl v

/-- Alike data are null both, or neither is. -/
theorem eq_null_iff {a b : Data} (h : Alike a b) : a = .null ↔ b = .null := by
  cases h with
  | number ha hb =>
    constructor
    · rintro rfl
      cases ha
    · rintro rfl
      cases hb
  | null => exact Iff.rfl
  | _ => exact ⟨nofun, nofun⟩

end Alike

theorem text_of_number? {data : Data} {x : Float} (h : data.number? = some x) :
    data.text = Number.text x := by
  cases data with
  | integer n => rw [text, Option.some.inj h]
  | fraction y => rw [text, Option.some.inj h]
  | _ => cases h

theorem itemTexts_congr {xs ys : List Data} (hlength : xs.length = ys.length)
    (hitems : ∀ (i : Nat) (x y : Data), xs[i]? = some x → ys[i]? = some y →
      (x = .null ↔ y = .null) ∧ x.text = y.text) : itemTexts xs = itemTexts ys := by
  induction xs generalizing ys with
  | nil =>
    obtain rfl := List.eq_nil_of_length_eq_zero hlength.symm
    rfl
  | cons x xs ih =>
    cases ys with
    | nil => cases hlength
    | cons y ys =>
      obtain ⟨hnull, htext⟩ := hitems 0 x y rfl rfl
      have hrest := ih (Nat.succ.inj hlength) fun i a b ha hb => hitems (i + 1) a b ha hb
      -- A null item has no text of its own in the text of an array.
      by_cases hx : x = .null
      · obtain rfl := hx
        obtain rfl := hnull.1 rfl
        rw [itemTexts, itemTexts, hrest]
      · have hy : y ≠ .null := fun hy => hx (hnull.2 hy)
        rw [itemTexts, itemTexts, htext, hrest]
        · rintro rfl
          exact hy rfl
        · rintro rfl
          exact hx rfl

/-- Alike data have the same text. -/
theorem Alike.text_eq {a b : Data} (h : Alike a b) : a.text = b.text := by
  induction h with
  | number ha hb => rw [text_of_number? ha, text_of_number? hb]
  | array hlength hitems ih =>
    rw [text, text, itemTexts_congr hlength fun i x y hx hy =>
      ⟨(hitems i x y hx hy).eq_null_iff, ih i x y hx hy⟩]
  | object => rw [text, text]
  | _ => rfl

end Data

/-! ## Values -/

namespace Value

/-- The two are alike as data, and stand in the same place. -/
inductive Alike : Value → Value → Prop where
  | undefined : Alike .undefined .undefined
  | null : Alike .null .null
  | boolean (truth : Bool) : Alike (.boolean truth) (.boolean truth)
  | number (x : Float) : Alike (.number x) (.number x)
  | string (text : String) : Alike (.string text) (.string text)
  | array {xs ys : List Data} (place : Place) :
      Data.Alike (.array xs) (.array ys) → Alike (.array xs place) (.array ys place)
  | object {fs gs : List (String × Data)} (place : Place) :
      Data.Alike (.object fs) (.object gs) → Alike (.object fs place) (.object gs place)

theorem alike_ofData {a b : Data} (place : Place) (h : Data.Alike a b) :
    Alike (ofData place a) (ofData place b) := by
  cases h with
  | null => exact .null
  | boolean truth => exact .boolean truth
  | @number a b x ha hb =>
    have hnumber : ∀ data : Data, data.number? = some x → ofData place data = .number x := by
      intro data hdata
      cases data with
      | integer n => rw [ofData, Option.some.inj hdata]
      | fraction y => rw [ofData, Option.some.inj hdata]
      | _ => cases hdata
    rw [hnumber a ha, hnumber b hb]
    exact .number x
  | string text => exact .string text
  | array hlength hitems => exact .array place (.array hlength hitems)
  | object hkeys hvalues => exact .object place (.object hkeys hvalues)

/-- Values of data that may be missing are alike if the data are, or are both missing. -/
theorem alike_ofData? {a b : Option Data} (place : Place) (h : Option.Rel Data.Alike a b) :
    Alike (ofData? place a) (ofData? place b) := by
  cases h with
  | some h => exact alike_ofData place h
  | none => exact .undefined

theorem alike_ofData?_of_isSome {a b : Option Data} (place : Place)
    (hsome : a.isSome = b.isSome) (h : ∀ x y, a = some x → b = some y → Data.Alike x y) :
    Alike (ofData? place a) (ofData? place b) := by
  cases a with
  | none =>
    cases b with
    | none => exact .undefined
    | some => cases hsome
  | some x =>
    cases b with
    | none => cases hsome
    | some y => exact alike_ofData place (h x y rfl rfl)

namespace Alike

variable {a a' b b' : Value}

theorem ofLiteral_refl : (value : Literal) → Alike (Scope.ofLiteral value) (Scope.ofLiteral value)
  | .null => .null
  | .boolean truth => .boolean truth
  | .number x => .number x
  | .string text => .string text

/-! ## Tests and conversions -/

theorem isNullish_eq (h : Alike a a') : a.isNullish = a'.isNullish := by
  cases h <;> rfl

theorem isTruthy_eq (h : Alike a a') : a.isTruthy = a'.isTruthy := by
  cases h <;> rfl

theorem typeName_eq (h : Alike a a') : a.typeName = a'.typeName := by
  cases h <;> rfl

theorem text_eq (h : Alike a a') : a.text = a'.text := by
  cases h with
  | array place h => exact h.text_eq
  | _ => rfl

theorem toNumber_eq (h : Alike a a') : a.toNumber = a'.toNumber := by
  cases h with
  | array place h => exact congrArg (fun t : String => Number.readText t.toList) h.text_eq
  | _ => rfl

theorem toPrimitive_eq (h : Alike a a') : a.toPrimitive = a'.toPrimitive := by
  cases h with
  | array place h => exact congrArg Value.string h.text_eq
  | _ => rfl

/-! ## Properties -/

/-- Values that are alike have properties that are alike. -/
theorem property (h : Alike a a') (key : String) : Alike (a.property key) (a'.property key) := by
  cases h with
  | array place h =>
    cases h with
    -- An array is no number, and neither is an object.
    | number h => cases h
    | array hlength hitems =>
      simp only [Value.property, hlength]
      split
      · exact .number _
      split
      next i _ =>
        refine alike_ofData?_of_isSome _ ?_ fun x y hx hy => hitems i x y hx hy
        rw [Bool.eq_iff_iff, isSome_getElem?, isSome_getElem?, hlength]
      · exact .undefined
  | object place h =>
    cases h with
    | number h => cases h
    | object hkeys hvalues => exact alike_ofData?_of_isSome _ (hkeys key) (hvalues key)
  | string text =>
    simp only [Value.property]
    split
    · exact .number _
    split
    · exact .string _
    · exact .undefined
  | _ => exact .undefined

/-! ## Operators -/

theorem strictEquals_eq (ha : Alike a a') (hb : Alike b b') :
    a.strictEquals b = a'.strictEquals b' := by
  cases ha <;> cases hb <;> rfl

theorem kind_eq (h : Alike a a') : a.kind = a'.kind := by
  cases h <;> rfl

theorem isReference_eq (h : Alike a a') : a.isReference = a'.isReference := by
  cases h <;> rfl

theorem isTextual_eq (h : Alike a a') : a.isTextual = a'.isTextual := by
  cases h <;> rfl

theorem looseEquals_eq (ha : Alike a a') (hb : Alike b b') :
    a.looseEquals b = a'.looseEquals b' := by
  simp only [looseEquals_eq_equalsConverted, equalsConverted, ha.kind_eq, hb.kind_eq,
    strictEquals_eq ha hb, ha.isNullish_eq, hb.isNullish_eq, ha.isReference_eq, hb.isReference_eq,
    ha.isTextual_eq, hb.isTextual_eq, ha.text_eq, hb.text_eq, ha.toNumber_eq, hb.toNumber_eq]

theorem order?_eq (ha : Alike a a') (hb : Alike b b') : a.order? b = a'.order? b' := by
  rw [order?, order?, ha.toPrimitive_eq, hb.toPrimitive_eq]

theorem add_eq (ha : Alike a a') (hb : Alike b b') : a.add b = a'.add b' := by
  rw [add, add, ha.toPrimitive_eq, hb.toPrimitive_eq]

/-- An operator before an operand makes the same of values that are alike. -/
theorem unary (op : UnaryOperator) (h : Alike a a') : Alike (op.apply a) (op.apply a') := by
  cases op with
  | not =>
    rw [UnaryOperator.apply, UnaryOperator.apply, h.isTruthy_eq]
    exact .boolean _
  | negate =>
    rw [UnaryOperator.apply, UnaryOperator.apply, h.toNumber_eq]
    exact .number _
  | plus =>
    rw [UnaryOperator.apply, UnaryOperator.apply, h.toNumber_eq]
    exact .number _
  | typeof =>
    rw [UnaryOperator.apply, UnaryOperator.apply, h.typeName_eq]
    exact .string _

theorem decides_eq (op : BinaryOperator) (h : Alike a a') : op.decides a = op.decides a' := by
  cases op with
  | and => exact congrArg (!·) h.isTruthy_eq
  | or => exact h.isTruthy_eq
  | nullish => exact congrArg (!·) h.isNullish_eq
  | _ => rfl

theorem add_alike (ha : Alike a a') (hb : Alike b b') : Alike (a.add b) (a'.add b') := by
  rw [add_eq ha hb, add]
  split
  · exact .string _
  · exact .string _
  · exact .number _

/-- An operator between operands makes values that are alike of values that are alike. -/
theorem binary (op : BinaryOperator) (ha : Alike a a') (hb : Alike b b') :
    Alike (op.apply a b) (op.apply a' b') := by
  cases op with
  | add => exact add_alike ha hb
  | subtract | multiply | divide | remainder =>
    simp only [BinaryOperator.apply, ha.toNumber_eq, hb.toNumber_eq]
    exact .number _
  | greater | less | greaterOrEqual | lessOrEqual =>
    simp only [BinaryOperator.apply, order?_eq ha hb]
    exact .boolean _
  | equal | notEqual =>
    simp only [BinaryOperator.apply, looseEquals_eq ha hb]
    exact .boolean _
  | strictEqual | strictNotEqual =>
    simp only [BinaryOperator.apply, strictEquals_eq ha hb]
    exact .boolean _
  | and =>
    simp only [BinaryOperator.apply, ha.isTruthy_eq]
    split
    · exact hb
    · exact ha
  | or =>
    simp only [BinaryOperator.apply, ha.isTruthy_eq]
    split
    · exact ha
    · exact hb
  | nullish =>
    simp only [BinaryOperator.apply, ha.isNullish_eq]
    split
    · exact hb
    · exact ha

end Alike

end Value

end TemplateLiteral
