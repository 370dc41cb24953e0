import Mathlib
import TemplateLiteral.Proofs.Expr.Evaluation
import TemplateLiteral.Proofs.Text.Units
import TemplateLiteral.Proofs.Value.Conversion

/-!
# The equality of values

There are two equalities. The strict one holds between values of one kind only, and the loose one
converts values of different kinds. In the standard algorithm for it, the first rule that applies to
two values either answers or converts one of them, and then the comparison begins anew. The loose
equality has other rules and comes to an answer sooner, but the answer is the same, and the
algorithm comes to it with at most three conversions.

Arrays and objects are equal to themselves only. Two of them are the same if they have the same
place. This is enough, since every array and object that an expression comes to stands in its place
in the store, and what stands in one place is one value.

## Main definitions

* `Store.at?`, `Value.StandsIn`: what stands in a place of a store
* `Value.comparison`, `Value.Compares`: a step of the standard algorithm, and a run of it

## Main results

* `Value.StandsIn.eq_of_place?`: what stands in one place is one value
* `Scope.standsIn_of_evaluate_eq_ok`: the values of expressions stand in the store
* `Value.answersAtOnce_or_converts`: what a step of the algorithm does
* `Value.Compares.eq`, `Value.compares_looseEquals`: what a run of it comes to
* `Value.equality_laws`: the laws of both equalities
-/

namespace TemplateLiteral

/-! ## Places -/

/-- The data in a place of a store. -/
def Store.at? (store : Store) : Place → Option Data
  | [] => some (.object store.fields)
  | .key key :: place =>
    match store.at? place with
    | some (.object fields) => Fields.get? key fields
    | _ => none
  | .item i :: place =>
    match store.at? place with
    | some (.array items) => items[i]?
    | _ => none

namespace Value

/-- The place of an array or an object. -/
def place? : Value → Option Place
  | .array _ place | .object _ place => some place
  | _ => none

/-- The value is that of the data in its place, if it has one. -/
def StandsIn (store : Store) (v : Value) : Prop :=
  ∀ place, v.place? = some place → ∃ data, store.at? place = some data ∧ v = ofData place data

section Places

variable {store : Store} {v w : Value} {place : Place}

theorem standsIn_of_place?_eq_none (h : v.place? = none) : v.StandsIn store := by
  intro place hplace
  cases h.symm.trans hplace

theorem place?_ofData {data : Data} {p : Place} (h : (ofData place data).place? = some p) :
    p = place := by
  cases data with
  | array | object => exact (Option.some.inj h).symm
  | _ => cases h

/-- The value of what may be missing in a place stands in the store, if it is what is there. -/
theorem standsIn_ofData? {data? : Option Data} (h : store.at? place = data?) :
    (ofData? place data?).StandsIn store := by
  cases data? with
  | none => exact standsIn_of_place?_eq_none rfl
  | some data =>
    intro p hp
    obtain rfl := place?_ofData hp
    exact ⟨data, h, rfl⟩

/-- What stands in one place is one value. -/
theorem StandsIn.eq_of_place? (hv : v.StandsIn store) (hw : w.StandsIn store)
    (h : v.place? = some place) (h' : w.place? = some place) : v = w := by
  obtain ⟨data, hdata, rfl⟩ := hv place h
  obtain ⟨data', hdata', rfl⟩ := hw place h'
  rw [Option.some.inj (hdata.symm.trans hdata')]

theorem StandsIn.at?_array {items : List Data}
    (h : (Value.array items place).StandsIn store) : store.at? place = some (.array items) := by
  obtain ⟨data, hdata, heq⟩ := h place rfl
  cases data <;> cases heq
  exact hdata

theorem StandsIn.at?_object {fields : List (String × Data)}
    (h : (Value.object fields place).StandsIn store) : store.at? place = some (.object fields) := by
  obtain ⟨data, hdata, heq⟩ := h place rfl
  cases data <;> cases heq
  exact hdata

/-- The properties of what stands in the store stand there too. -/
theorem StandsIn.property (h : v.StandsIn store) (key : String) :
    (v.property key).StandsIn store := by
  cases v with
  | object fields place =>
    refine standsIn_ofData? ?_
    rw [Store.at?, h.at?_object]
  | array items place =>
    simp only [Value.property]
    split
    · exact standsIn_of_place?_eq_none rfl
    split
    · refine standsIn_ofData? ?_
      rw [Store.at?, h.at?_array]
    · exact standsIn_of_place?_eq_none rfl
  | string text =>
    simp only [Value.property]
    split
    · exact standsIn_of_place?_eq_none rfl
    split <;> exact standsIn_of_place?_eq_none rfl
  | _ => exact standsIn_of_place?_eq_none rfl

theorem standsIn_unary (op : UnaryOperator) (v : Value) : (op.apply v).StandsIn store := by
  cases op <;> exact standsIn_of_place?_eq_none rfl

/-- An operator makes a value without a place, or chooses one of its operands. -/
theorem StandsIn.binary (op : BinaryOperator) (hv : v.StandsIn store) (hw : w.StandsIn store) :
    (op.apply v w).StandsIn store := by
  cases op with
  | add =>
    simp only [BinaryOperator.apply, add]
    split <;> exact standsIn_of_place?_eq_none rfl
  | and | or | nullish =>
    simp only [BinaryOperator.apply]
    split
    · assumption
    · assumption
  | _ => exact standsIn_of_place?_eq_none rfl

end Places

end Value

namespace Scope

open Value (StandsIn standsIn_of_place?_eq_none standsIn_ofData? standsIn_unary)

variable {scope : Scope} {e : Expr} {v : Value}

theorem standsIn_of_lookup?_eq_some {x : String} (h : scope.lookup? x = some v) :
    v.StandsIn scope.store := by
  rw [lookup?, Option.or_eq_some_iff] at h
  rcases h with h | ⟨-, h⟩
  · rw [declared?] at h
    split at h <;> split at h <;> cases h
    · exact standsIn_ofData? rfl
    · intro place hplace
      obtain rfl := Option.some.inj hplace
      exact ⟨.object scope.store.fields, rfl, rfl⟩
  · unfold global? at h
    split at h <;> cases h <;> exact standsIn_of_place?_eq_none rfl

theorem standsIn_of_read_eq_ok {receiver : Value} {key : String} {r : Region}
    (hreceiver : receiver.StandsIn scope.store) (h : read receiver key r = .ok v) :
    v.StandsIn scope.store := by
  rw [read] at h
  split at h
  · cases h
  · obtain rfl := Except.ok.inj h
    exact hreceiver.property key

/-- The values of expressions stand in the store: a literal, an operator and a global name give
values without a place, and a property stands where its receiver leads to. -/
theorem standsIn_of_chain_eq_ok {found : Option Value} (h : scope.chain e = .ok found) :
    (found.getD .undefined).StandsIn scope.store := by
  induction e generalizing found with
  | literal value r =>
    cases h
    cases value <;> exact standsIn_of_place?_eq_none rfl
  | name x r =>
    simp only [chain] at h
    split at h
    next hlookup =>
      cases h
      exact standsIn_of_lookup?_eq_some hlookup
    next => cases h
  | member receiver x place optional r ih =>
    obtain ⟨_ | receiver, hreceiver, h⟩ := bind_eq_ok_iff.1 h
    · cases h
      exact standsIn_of_place?_eq_none rfl
    dsimp only at h
    split at h
    · cases h
      exact standsIn_of_place?_eq_none rfl
    · obtain ⟨v, hread, ⟨⟩⟩ := bind_eq_ok_iff.1 h
      exact standsIn_of_read_eq_ok (ih hreceiver) hread
  | index receiver key optional r ih _ =>
    obtain ⟨_ | receiver, hreceiver, h⟩ := bind_eq_ok_iff.1 h
    · cases h
      exact standsIn_of_place?_eq_none rfl
    dsimp only at h
    split at h
    · cases h
      exact standsIn_of_place?_eq_none rfl
    · obtain ⟨k, -, h⟩ := bind_eq_ok_iff.1 h
      obtain ⟨v, hread, ⟨⟩⟩ := bind_eq_ok_iff.1 h
      exact standsIn_of_read_eq_ok (ih hreceiver) hread
  | unary op operand r ih =>
    unfold chain at h
    split at h
    · obtain rfl := Except.ok.inj h
      exact standsIn_unary .typeof _
    · obtain ⟨_, -, ⟨⟩⟩ := bind_eq_ok_iff.1 h
      exact (standsIn_unary _ _ :)
  | binary op left right r ihLeft ihRight =>
    obtain ⟨a, ha, h⟩ := bind_eq_ok_iff.1 h
    dsimp only at h
    split at h
    · cases h
      exact (ihLeft ha :)
    · obtain ⟨b, hb, ⟨⟩⟩ := bind_eq_ok_iff.1 h
      exact (ihLeft ha).binary op (ihRight hb)
  | conditional test yes no r _ ihYes ihNo =>
    obtain ⟨_, -, h⟩ := bind_eq_ok_iff.1 h
    dsimp only at h
    split at h
    · obtain ⟨_, hyes, ⟨⟩⟩ := bind_eq_ok_iff.1 h
      exact (ihYes hyes :)
    · obtain ⟨_, hno, ⟨⟩⟩ := bind_eq_ok_iff.1 h
      exact (ihNo hno :)
  | group inner r ih =>
    obtain ⟨_, hinner, ⟨⟩⟩ := bind_eq_ok_iff.1 h
    exact (ih hinner :)

/-- The values of expressions stand in the store. -/
theorem standsIn_of_evaluate_eq_ok (h : scope.evaluate e = .ok v) : v.StandsIn scope.store := by
  obtain ⟨_, hfound, ⟨⟩⟩ := bind_eq_ok_iff.1 h
  exact standsIn_of_chain_eq_ok hfound

end Scope

namespace Value

/-! ## The laws of the two equalities -/

section Laws

variable {a b c : Value}

theorem strictEquals_comm (a b : Value) : a.strictEquals b = b.strictEquals a := by
  cases a <;> cases b <;> simp only [strictEquals, eq_comm, BEq.comm]

theorem kind_eq_of_strictEquals (h : a.strictEquals b) : a.kind = b.kind := by
  unfold strictEquals at h
  split at h
  case h_8 => cases h
  all_goals rfl

theorem looseEquals_of_kind_eq (h : a.kind = b.kind) : a.looseEquals b = a.strictEquals b := by
  rw [looseEquals_eq_equalsConverted, equalsConverted, if_pos h]

theorem looseEquals_comm (a b : Value) : a.looseEquals b = b.looseEquals a := by
  by_cases h : a.kind = b.kind
  · rw [looseEquals_of_kind_eq h, looseEquals_of_kind_eq h.symm, strictEquals_comm]
  · simp only [looseEquals_eq_equalsConverted, equalsConverted, if_neg h, if_neg (Ne.symm h),
      Bool.or_comm b.isNullish, Bool.and_comm b.isNullish, Bool.and_comm b.isReference,
      Bool.and_comm b.isTextual, eq_comm (a := b.text), BEq.comm (a := b.toNumber)]

theorem looseEquals_of_strictEquals (h : a.strictEquals b) : a.looseEquals b := by
  rwa [looseEquals_of_kind_eq (kind_eq_of_strictEquals h)]

theorem notANumber_eq_nan : Number.notANumber = Float.nan := rfl

/-- A value is equal to itself, unless it is NaN. -/
theorem strictEquals_self_iff (a : Value) :
    a.strictEquals a ↔ a ≠ .number Number.notANumber := by
  cases a with
  | number x =>
    rw [ne_eq, number.injEq, notANumber_eq_nan]
    exact Float.beq_self_iff
  | _ => simp [strictEquals]

theorem strictEquals_trans (hab : a.strictEquals b) (hbc : b.strictEquals c) :
    a.strictEquals c := by
  have hkind := kind_eq_of_strictEquals hab
  have hkind' := kind_eq_of_strictEquals hbc
  cases a <;> cases b <;> cases hkind <;> cases c <;> cases hkind'
  case number.number.refl.number.refl => exact BEq.trans hab hbc
  all_goals simp_all [strictEquals]

theorem looseEquals_null_iff : a.looseEquals .null ↔ a = .undefined ∨ a = .null := by
  cases a <;>
    simp [looseEquals_eq_equalsConverted, equalsConverted, kind, strictEquals, isNullish]

/-- What is an array or an object is not converted to be compared with another. -/
theorem looseEquals_of_place? {p q : Place} (hp : a.place? = some p) (hq : b.place? = some q) :
    a.looseEquals b = a.strictEquals b := by
  cases a <;> cases hp <;> cases b <;> cases hq <;> rfl

/-- Two arrays or objects are equal if they stand in one place. -/
theorem strictEquals_iff_of_place? {store : Store} {p q : Place} (ha : a.StandsIn store)
    (hb : b.StandsIn store) (hp : a.place? = some p) (hq : b.place? = some q) :
    a.strictEquals b ↔ p = q := by
  constructor
  · intro h
    have hkind := kind_eq_of_strictEquals h
    cases a <;> cases hp <;> cases b <;> cases hq <;> cases hkind
    all_goals exact of_decide_eq_true h
  · rintro rfl
    obtain rfl := ha.eq_of_place? hb hp hq
    rw [strictEquals_self_iff]
    rintro rfl
    cases hp

end Laws

/-! ## The standard algorithm -/

/-- The types of the standard algorithm. -/
inductive LanguageType where
  | undefined
  | null
  | boolean
  | number
  | string
  | object
deriving DecidableEq

/-- The type of a value. Arrays are objects. -/
def type : Value → LanguageType
  | .undefined => .undefined
  | .null => .null
  | .boolean _ => .boolean
  | .number _ => .number
  | .string _ => .string
  | .array .. | .object .. => .object

/-- Two values of one type are the same. Numbers are compared as numbers, strings by their units,
and objects by their places. -/
def isSame : Value → Value → Bool
  | .boolean a, .boolean b => a = b
  | .number x, .number y => x == y
  | .string s, .string t => Text.units s.toList = Text.units t.toList
  | a, b => a.place? = b.place?

/-- What a step of the comparison of two values comes to. -/
inductive Comparison where
  /-- The comparison has an answer. -/
  | done (equal : Bool)
  /-- One of the two values is converted, and the comparison goes on. -/
  | next (a b : Value)

/-- A step of the comparison of two values, by the first rule that applies. -/
def comparison (a b : Value) : Comparison :=
  if a.type = b.type then .done (a.isSame b)
  else match a.type, b.type with
    | .null, .undefined | .undefined, .null => .done true
    | .number, .string => .next a (.number b.toNumber)
    | .string, .number => .next (.number a.toNumber) b
    | .boolean, _ => .next (.number a.toNumber) b
    | _, .boolean => .next a (.number b.toNumber)
    | .string, .object | .number, .object => .next a b.toPrimitive
    | .object, .string | .object, .number => .next a.toPrimitive b
    | _, _ => .done false

/-- The comparison of two values comes to an answer after so many conversions. -/
inductive Compares : Value → Value → Nat → Bool → Prop where
  | done {a b : Value} {equal : Bool} : comparison a b = .done equal → Compares a b 0 equal
  | next {a b a' b' : Value} {n : Nat} {equal : Bool} : comparison a b = .next a' b' →
      Compares a' b' n equal → Compares a b (n + 1) equal

/-- How often a value may be converted. -/
def conversions : Value → Nat
  | .boolean _ | .string _ => 1
  | .array .. | .object .. => 2
  | _ => 0

section Algorithm

variable {store : Store} {a b a' b' : Value} {equal : Bool} {n : Nat}

/-- The algorithm has a rule for the two that answers what the loose equality does. -/
def AnswersAtOnce (a b : Value) : Prop :=
  comparison a b = .done (a.looseEquals b)

/-- The algorithm has a rule for the two that converts one of them, and after that it may convert
them once less. They are equal as they were before. -/
def Converts (store : Store) (a b : Value) : Prop :=
  ∃ a' b', comparison a b = .next a' b' ∧ a'.StandsIn store ∧ b'.StandsIn store ∧
    a'.looseEquals b' = a.looseEquals b ∧
    a'.conversions + b'.conversions + 1 = a.conversions + b.conversions

theorem answersAtOnce_of_place? {p q : Place} (ha : a.StandsIn store) (hb : b.StandsIn store)
    (hp : a.place? = some p) (hq : b.place? = some q) : AnswersAtOnce a b := by
  have hsame : comparison a b = .done (decide (p = q)) := by
    cases a <;> cases hp <;> cases b <;> cases hq
    all_goals simp [comparison, type, isSame, place?]
  rw [AnswersAtOnce, hsame, looseEquals_of_place? hp hq, Comparison.done.injEq, Bool.eq_iff_iff,
    strictEquals_iff_of_place? ha hb hp hq, decide_eq_true_eq]

/-- Each rule of the algorithm answers what the loose equality does, or converts a value without a
change to what the two are equal to. -/
theorem answersAtOnce_or_converts (ha : a.StandsIn store) (hb : b.StandsIn store) :
    AnswersAtOnce a b ∨ Converts store a b := by
  have hplain : ∀ {v : Value}, v.place? = none → v.StandsIn store := standsIn_of_place?_eq_none
  cases a with
  | undefined | null =>
    cases b with
    | boolean => exact .inr ⟨_, _, rfl, ha, hplain rfl, rfl, rfl⟩
    | _ => exact .inl rfl
  | boolean =>
    cases b with
    | boolean => exact .inl rfl
    | _ => exact .inr ⟨_, _, rfl, hplain rfl, hb, rfl, rfl⟩
  | number =>
    cases b with
    | undefined | null | number => exact .inl rfl
    | boolean | string | array | object => exact .inr ⟨_, _, rfl, ha, hplain rfl, rfl, rfl⟩
  | string s =>
    cases b with
    | undefined | null => exact .inl rfl
    | number => exact .inr ⟨_, _, rfl, hplain rfl, hb, BEq.comm, rfl⟩
    | boolean | array | object => exact .inr ⟨_, _, rfl, ha, hplain rfl, rfl, rfl⟩
    | string t =>
      refine .inl (congrArg Comparison.done ?_)
      have hunits : Text.units s.toList = Text.units t.toList ↔ s = t :=
        Text.units_injective.eq_iff.trans String.toList_inj
      simp only [isSame, hunits]
      rfl
  | array | object =>
    cases b with
    | undefined | null => exact .inl rfl
    | boolean => exact .inr ⟨_, _, rfl, ha, hplain rfl, rfl, rfl⟩
    | number | string => exact .inr ⟨_, _, rfl, hplain rfl, hb, rfl, rfl⟩
    | array | object => exact .inl (answersAtOnce_of_place? ha hb rfl rfl)

/-- The algorithm comes to no other answer than the loose equality. -/
theorem Compares.eq (h : Compares a b n equal) (ha : a.StandsIn store) (hb : b.StandsIn store) :
    equal = a.looseEquals b := by
  induction h with
  | done hdone =>
    rcases answersAtOnce_or_converts ha hb with hanswer | ⟨_, _, hnext, -⟩
    · exact Comparison.done.inj (hdone.symm.trans hanswer)
    · cases hdone.symm.trans hnext
  | next hnext _ ih =>
    rcases answersAtOnce_or_converts ha hb with hanswer | ⟨_, _, hnext', ha', hb', hequal, -⟩
    · cases hnext.symm.trans hanswer
    · obtain ⟨rfl, rfl⟩ := Comparison.next.inj (hnext.symm.trans hnext')
      rw [ih ha' hb', hequal]

/-- The algorithm comes to the answer of the loose equality. -/
theorem exists_compares (ha : a.StandsIn store) (hb : b.StandsIn store) :
    ∃ n ≤ a.conversions + b.conversions, Compares a b n (a.looseEquals b) := by
  induction hm : a.conversions + b.conversions generalizing a b with
  | zero =>
    rcases answersAtOnce_or_converts ha hb with hanswer | ⟨_, _, -, -, -, -, hless⟩
    · exact ⟨0, le_rfl, .done hanswer⟩
    · omega
  | succ m ih =>
    rcases answersAtOnce_or_converts ha hb with hanswer | ⟨a', b', hnext, ha', hb', hequal, hless⟩
    · exact ⟨0, Nat.zero_le _, .done hanswer⟩
    · obtain ⟨n, hn, hcompares⟩ := ih ha' hb' (by omega)
      exact ⟨n + 1, by omega, .next hnext (hequal ▸ hcompares)⟩

theorem conversions_le_two (v : Value) : v.conversions ≤ 2 := by
  cases v <;> simp [conversions]

theorem conversions_le_one {v : Value} (h : v.place? = none) : v.conversions ≤ 1 := by
  cases v with
  | array | object => cases h
  | _ => simp [conversions]

/-- Three conversions are enough: two values that may both be converted twice are arrays or objects,
and these are not converted to be compared with each other. -/
theorem compares_looseEquals (ha : a.StandsIn store) (hb : b.StandsIn store) :
    ∃ n ≤ 3, Compares a b n (a.looseEquals b) := by
  have hless : a.conversions + b.conversions ≤ 3 →
      ∃ n ≤ 3, Compares a b n (a.looseEquals b) := by
    intro hle
    obtain ⟨n, hn, hcompares⟩ := exists_compares ha hb
    exact ⟨n, hn.trans hle, hcompares⟩
  have hleA := conversions_le_two a
  have hleB := conversions_le_two b
  cases hp : a.place? with
  | none =>
    have := conversions_le_one hp
    exact hless (by omega)
  | some p =>
    cases hq : b.place? with
    | none =>
      have := conversions_le_one hq
      exact hless (by omega)
    | some q => exact ⟨0, Nat.zero_le _, .done (answersAtOnce_of_place? ha hb hp hq)⟩

end Algorithm

/-- The loose equality comes to an answer, having begun three times at most. The answer is what the
standard algorithm comes to, within three conversions. Both equalities are symmetric, and by both
every value but NaN is equal to itself. The strict one is transitive and implies the loose one. By
the loose one, undefined and null are equal to null and nothing else is. By both, arrays and objects
are equal if they stand in the same place. -/
theorem equality_laws {store : Store} {a b : Value} (ha : a.StandsIn store) (hb : b.StandsIn store)
    (c : Value) :
    (∀ room, 3 ≤ room → looseEquals? room a b = some (a.looseEquals b)) ∧
    ((∃ n ≤ 3, Compares a b n (a.looseEquals b)) ∧
      ∀ n equal, Compares a b n equal → equal = a.looseEquals b) ∧
    a.looseEquals b = b.looseEquals a ∧ a.strictEquals b = b.strictEquals a ∧
    (a.strictEquals b → a.looseEquals b) ∧
    (a.strictEquals a ↔ a ≠ .number Number.notANumber) ∧
    (a.looseEquals a ↔ a ≠ .number Number.notANumber) ∧
    (a.strictEquals b → b.strictEquals c → a.strictEquals c) ∧
    (a.looseEquals .null ↔ a = .undefined ∨ a = .null) ∧
    ∀ p q, a.place? = some p → b.place? = some q →
      (a.strictEquals b ↔ p = q) ∧ (a.looseEquals b ↔ p = q) := by
  refine ⟨fun _ hroom => looseEquals?_eq_some_looseEquals hroom a b,
    ⟨compares_looseEquals ha hb, fun n equal h => h.eq ha hb⟩, looseEquals_comm a b,
    strictEquals_comm a b, looseEquals_of_strictEquals, strictEquals_self_iff a, ?_,
    strictEquals_trans, looseEquals_null_iff, fun p q hp hq => ?_⟩
  · rw [looseEquals_of_kind_eq rfl, strictEquals_self_iff]
  · rw [looseEquals_of_place? hp hq]
    exact ⟨strictEquals_iff_of_place? ha hb hp hq, strictEquals_iff_of_place? ha hb hp hq⟩

/-- An array that is read twice, and another with the same items. -/
theorem equality_laws_read_twice :
    let store := Store.ofFields [("xs", .array [.null]), ("ys", .array [.null])]
    let xs := Value.array [.null] [.key "xs"]
    let ys := Value.array [.null] [.key "ys"]
    xs.StandsIn store ∧ ys.StandsIn store ∧
      (xs.strictEquals xs ∧ xs.looseEquals xs) ∧
      ¬ xs.strictEquals ys ∧ ¬ xs.looseEquals ys := by
  intro store xs ys
  let scope : Scope := ⟨.each ["xs", "ys"], store⟩
  have hxs : scope.evaluate (.name "xs" ⟨2, 4⟩) = .ok xs := rfl
  have hys : scope.evaluate (.name "ys" ⟨2, 4⟩) = .ok ys := rfl
  replace hxs : xs.StandsIn store := Scope.standsIn_of_evaluate_eq_ok hxs
  replace hys : ys.StandsIn store := Scope.standsIn_of_evaluate_eq_ok hys
  obtain ⟨-, -, -, -, hloose, hself, -, htrans, -, -⟩ := equality_laws hxs hxs xs
  obtain ⟨-, -, -, -, -, -, -, -, -, hplaces⟩ := equality_laws hxs hys xs
  have hsame : xs.strictEquals xs := hself.2 nofun
  have hne : [Step.key "xs"] ≠ [Step.key "ys"] := by decide
  exact ⟨hxs, hys, ⟨htrans hsame hsame, hloose hsame⟩, mt (hplaces _ _ rfl rfl).1.1 hne,
    mt (hplaces _ _ rfl rfl).2.1 hne⟩

end Value

end TemplateLiteral
