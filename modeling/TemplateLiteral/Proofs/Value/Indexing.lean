import Mathlib.Data.List.Basic
import TemplateLiteral.Proofs.Expr.Evaluation
import TemplateLiteral.Proofs.Number.Digits
import TemplateLiteral.Proofs.Text.Units

/-!
# Elements by their index

The elements of an array and the units of a string are read with their index as the key, which is a
text. A key reads an element if and only if it is the numeral of the index, so that no element has
two keys: not one with a sign, with zeros in front or with an exponent. Of all other keys only one
reads something, which is the number of elements.

## Main definitions

* `Value.Indexes`: what is read from something that has elements
* `Value.total`: the sum of values

## Main results

* `Value.index?_eq_some_iff`: the keys that are an index
* `Text.map_charOfUnit_units`: what the units of a text read as
* `Value.indexing`: what is read from an array and from a string
-/

namespace TemplateLiteral

namespace Text

/-! ## What units read as -/

/-- A unit that is not a surrogate reads as its character. -/
theorem charOfUnit_toNat (c : Char) : charOfUnit c.toNat = c := by
  have hvalid : c.toNat.isValidChar := c.valid
  rw [charOfUnit, if_pos hvalid, Char.ofNat_toNat]

theorem charOfUnit_of_surrogate {unit : Nat} (hlow : 0xD800 ≤ unit) (hhigh : unit ≤ 0xDFFF) :
    charOfUnit unit = replacement := by
  refine if_neg fun hvalid => ?_
  rcases hvalid with h | ⟨h, -⟩
  · omega
  · omega

/-- Two units that are one character do not read as any, and every other unit reads as its
character. -/
theorem map_charOfUnit_units (text : List Char) :
    (units text).map charOfUnit = text.flatMap fun c =>
      if c.toNat < 0x10000 then [c] else [replacement, replacement] := by
  induction text with
  | nil => rfl
  | cons c text ih =>
    rw [units_cons, List.map_append, ih, List.flatMap_cons]
    congr 1
    rcases unitsOfChar_cases c with ⟨hplane, hc⟩ | ⟨high, low, hc, hhigh, hlow, hcode⟩
    · rw [hc, if_pos hplane, List.map_singleton, charOfUnit_toNat]
    · rw [hc, if_neg (by omega), List.map_cons, List.map_singleton,
        charOfUnit_of_surrogate (by omega) (by omega),
        charOfUnit_of_surrogate (by omega) (by omega)]

/-- The units of characters of the Basic Multilingual Plane read as these. -/
theorem map_charOfUnit_units_of_lt {text : List Char} (h : ∀ c ∈ text, c.toNat < 0x10000) :
    (units text).map charOfUnit = text := by
  rw [map_charOfUnit_units]
  induction text with
  | nil => rfl
  | cons c text ih =>
    obtain ⟨hc, htext⟩ := List.forall_mem_cons.1 h
    rw [List.flatMap_cons, if_pos hc, ih htext, List.singleton_append]

end Text

namespace Value

open Number (IsNumeral isNumeral_iff)

/-! ## Keys -/

/-- The keys that are an index. -/
theorem index?_eq_some_iff {key : String} {i : Nat} :
    index? key = some i ↔ IsNumeral key.toList i := by
  rw [isNumeral_iff, index?]
  constructor
  · intro h
    split at h
    next hcond =>
      obtain rfl := Option.some.inj h
      exact hcond.2.symm
    · cases h
  · intro h
    have hvalue : Number.ofDigits 10 key.toList = i := by rw [h, Number.ofDigits_toDigits]
    have hall : key.toList.all (Number.isDigitOf 10) = true := by
      rw [h]
      exact List.all_eq_true.2 fun _ => Number.isDigitOf_of_mem_toDigits
    have hdigits : Number.toDigits (Number.ofDigits 10 key.toList) = key.toList := by rw [hvalue, h]
    rw [if_pos ⟨hall, hdigits⟩, hvalue]

/-- The key that reads the length is not an index. -/
theorem index?_length : index? "length" = none := by
  decide

/-- What is read from something that has elements: with the numeral of an index the element, with
the key for it the number of elements, and nothing with any other key. -/
inductive Indexes (elements : List Value) : String → Value → Prop where
  | element {key : String} {i : Nat} (h : i < elements.length) :
      IsNumeral key.toList i → Indexes elements key elements[i]
  | length : Indexes elements "length" (.number (Number.ofInt elements.length))
  | nothing {key : String} : key ≠ "length" → (∀ i < elements.length, ¬ IsNumeral key.toList i) →
      Indexes elements key .undefined

section Indexes

variable {elements : List Value} {key : String} {v : Value}

/-- For every key there is one value, and it is found by the index that the key is. -/
theorem indexes_iff : Indexes elements key v ↔
    (if key = "length" then .number (Number.ofInt elements.length)
      else ((index? key).bind (elements[·]?)).getD .undefined) = v := by
  constructor
  · intro h
    cases h with
    | @element _ i h hkey =>
      have hindex := index?_eq_some_iff.2 hkey
      have hne : key ≠ "length" := by
        rintro rfl
        rw [index?_length] at hindex
        cases hindex
      rw [if_neg hne, hindex, Option.bind_some, List.getElem?_eq_getElem h, Option.getD_some]
    | length => exact if_pos rfl
    | nothing hne hno =>
      rw [if_neg hne]
      cases hindex : index? key with
      | none => rfl
      | some i =>
        have hlong : elements.length ≤ i := by
          by_contra hlt
          exact hno i (Nat.lt_of_not_le hlt) (index?_eq_some_iff.1 hindex)
        rw [Option.bind_some, List.getElem?_eq_none hlong, Option.getD_none]
  · rintro rfl
    split
    next h =>
      subst h
      exact .length
    next hne =>
      cases hindex : index? key with
      | none =>
        refine .nothing hne fun i _ hkey => ?_
        rw [index?_eq_some_iff.2 hkey] at hindex
        cases hindex
      | some i =>
        have hkey := index?_eq_some_iff.1 hindex
        rcases Nat.lt_or_ge i elements.length with hlt | hge
        · rw [Option.bind_some, List.getElem?_eq_getElem hlt, Option.getD_some]
          exact .element hlt hkey
        · rw [Option.bind_some, List.getElem?_eq_none hge, Option.getD_none]
          refine .nothing hne fun j hj hkey' => ?_
          -- A text is the numeral of one number only.
          have hsame : i = j := hkey.value.symm.trans hkey'.value
          omega

end Indexes

/-! ## Arrays and strings -/

/-- What is read from an array are its items, each in its place. -/
theorem property_array (items : List Data) (place : Place) (key : String) (v : Value) :
    (array items place).property key = v ↔
      Indexes (items.mapIdx fun i item => ofData (.item i :: place) item) key v := by
  rw [indexes_iff, property, List.length_mapIdx]
  unfold lengthKey
  cases index? key with
  | none => rfl
  | some i =>
    rw [Option.bind_some, List.getElem?_mapIdx]
    change (if _ then _ else ofData? (.item i :: place) items[i]?) = v ↔ _
    cases items[i]? <;> rfl

/-- What is read from a string are its units. -/
theorem property_string (text : String) (key : String) (v : Value) :
    (string text).property key = v ↔
      Indexes ((Text.units text.toList).map fun unit => string (Text.charOfUnit unit).toString)
        key v := by
  rw [indexes_iff, property, List.length_map]
  unfold lengthKey
  cases index? key with
  | none => rfl
  | some i =>
    rw [Option.bind_some, Option.bind_some, List.getElem?_map]
    cases (Text.units text.toList)[i]? <;> rfl

/-- Whatever is in a place, it is not undefined. -/
theorem ofData_ne_undefined (place : Place) (data : Data) : ofData place data ≠ .undefined := by
  cases data <;> exact nofun

/-! ## The sum of the units of a string -/

/-- The sum of values, from left to right. -/
def total : List Value → Value
  | [] => .string ""
  | v :: vs => vs.foldl BinaryOperator.add.apply v

theorem foldl_add_chars (front : String) (text : List Char) :
    (text.map fun c => string c.toString).foldl BinaryOperator.add.apply (string front) =
      string (front ++ String.ofList text) := by
  induction text generalizing front with
  | nil =>
    rw [String.ofList_nil, String.append_empty]
    rfl
  | cons c text ih =>
    rw [List.map_cons, List.foldl_cons]
    refine (ih (front ++ c.toString)).trans (congrArg string ?_)
    apply String.ext
    simp [Char.toString]

theorem total_chars (text : List Char) :
    total (text.map fun c => string c.toString) = string (String.ofList text) := by
  cases text with
  | nil => rfl
  | cons c text =>
    refine (foldl_add_chars c.toString text).trans (congrArg string ?_)
    apply String.ext
    simp [Char.toString]

/-- The unit with a given index. -/
theorem property_unit {text : String} {i : Nat} (h : i < (Text.units text.toList).length) :
    (string text).property (toString i) =
      string (Text.charOfUnit (Text.units text.toList)[i]).toString := by
  have hkey : IsNumeral (toString i).toList i := by
    rw [Nat.toString_eq_repr, Nat.toList_repr]
    exact Number.isNumeral_toDigits i
  rw [property_string]
  have hlength : i < ((Text.units text.toList).map fun unit =>
      string (Text.charOfUnit unit).toString).length := by rwa [List.length_map]
  have hread := Indexes.element hlength hkey
  rwa [List.getElem_map] at hread

/-- The units of a string of which no character is two units, put together again. -/
theorem total_units {text : String} (h : ∀ c ∈ text.toList, c.toNat < 0x10000) :
    total ((List.range (Text.units text.toList).length).map fun i =>
      (string text).property (toString i)) = string text := by
  have hunits : ((List.range (Text.units text.toList).length).map fun i =>
      (string text).property (toString i)) = text.toList.map fun c => string c.toString := by
    conv_rhs => rw [← Text.map_charOfUnit_units_of_lt h, List.map_map]
    refine List.ext_getElem (by simp) fun i hi hi' => ?_
    rw [List.getElem_map, List.getElem_range, List.getElem_map, Function.comp_apply]
    exact property_unit (by simpa using hi)
  rw [hunits, total_chars, String.ofList_toList]

end Value

/-! ## Keys in expressions -/

namespace Scope

variable {scope : Scope} {receiver key : Expr} {v k : Value}

/-- What has a value that is something is not cut short. -/
theorem chain_eq_of_evaluate_eq_ok (h : scope.evaluate receiver = .ok v)
    (hsome : v.isNullish = false) : scope.chain receiver = .ok (some v) := by
  obtain ⟨found, hchain, hfound⟩ := bind_eq_ok_iff.1 h
  obtain rfl : found.getD .undefined = v := Except.ok.inj hfound
  cases found with
  | none => cases hsome
  | some v => exact hchain

/-- A computed key is the text of its value. -/
theorem evaluate_index (hreceiver : scope.evaluate receiver = .ok v) (hsome : v.isNullish = false)
    (hkey : scope.evaluate key = .ok k) (optional : Bool) (region : Region) :
    scope.evaluate (.index receiver key optional region) = .ok (v.property k.text) := by
  have hread : read v k.text region = .ok (v.property k.text) := if_neg (by simp [hsome])
  rw [evaluate, chain_index, chain_eq_of_evaluate_eq_ok hreceiver hsome]
  change (if (optional && v.isNullish) = true then _ else _ : Except EvalFault (Option Value)) >>=
    _ = _
  rw [if_neg (by simp [hsome]), hkey]
  change (read v k.text region >>= fun w => Except.ok (some w)) >>= _ = _
  rw [hread]
  rfl

end Scope

/-! ## Elements -/

namespace Value

/-- From an array its items are read with the numerals of their indices as keys, and from a string
its units; with the key for it the number of items or units is read, and with any other key nothing.
No item is undefined. The two units of a character outside the Basic Multilingual Plane read as the
replacement character, and all other units as their characters, so that the sum of the units of a
string without such characters is the string. In an expression the key is the text of the value of
what stands between the brackets. -/
theorem indexing (items : List Data) (place : Place) (text : String) (key : String) (v : Value) :
    ((array items place).property key = v ↔
      Indexes (items.mapIdx fun i item => ofData (.item i :: place) item) key v) ∧
    (∀ i item, ofData (.item i :: place) item ≠ .undefined) ∧
    ((string text).property key = v ↔
      Indexes ((Text.units text.toList).map fun unit => string (Text.charOfUnit unit).toString)
        key v) ∧
    (Text.units text.toList).map Text.charOfUnit = (text.toList.flatMap fun c =>
      if c.toNat < 0x10000 then [c] else ['\uFFFD', '\uFFFD']) ∧
    ((∀ c ∈ text.toList, c.toNat < 0x10000) →
      total ((List.range (Text.units text.toList).length).map fun i =>
        (string text).property (toString i)) = string text) ∧
    (∀ (scope : Scope) (receiver index : Expr) (optional : Bool) (region : Region) (k : Value),
      scope.evaluate receiver = .ok v → v.isNullish = false → scope.evaluate index = .ok k →
      scope.evaluate (.index receiver index optional region) = .ok (v.property k.text)) :=
  ⟨property_array items place key v, fun _ item => ofData_ne_undefined _ item,
    property_string text key v, Text.map_charOfUnit_units text.toList, total_units,
    fun _ _ _ optional region _ hreceiver hsome hindex =>
      Scope.evaluate_index hreceiver hsome hindex optional region⟩

/-- The sum of two units, and one of the two units of a character, read with a number as the key. -/
theorem indexing_surrogate : ∃ scope : Scope,
    (∀ c ∈ "é€".toList, c.toNat < 0x10000) ∧
    total ((List.range 2).map fun i => (string "é€").property (toString i)) = string "é€" ∧
    scope.evaluate (.literal (.string "a😀") ⟨2, 8⟩) = .ok (string "a😀") ∧
    scope.evaluate (.literal (.number (Number.ofInt 2)) ⟨9, 10⟩) = .ok (number (Number.ofInt 2)) ∧
    scope.evaluate (.index (.literal (.string "a😀") ⟨2, 8⟩)
      (.literal (.number (Number.ofInt 2)) ⟨9, 10⟩) false ⟨2, 11⟩) = .ok (string "\uFFFD") := by
  have hplane : ∀ c ∈ "é€".toList, c.toNat < 0x10000 := by simp
  obtain ⟨-, -, -, -, htotal, -⟩ := indexing [] [] "é€" "" .null
  obtain ⟨-, -, -, -, -, hindex⟩ := indexing [] [] "" "" (string "a😀")
  refine ⟨⟨.each [], .empty⟩, hplane, htotal hplane, rfl, rfl, ?_⟩
  have hkey : (number (Number.ofInt 2)).text = "2" := by decide +kernel
  have hread := hindex ⟨.each [], .empty⟩ (.literal (.string "a😀") ⟨2, 8⟩)
    (.literal (.number (Number.ofInt 2)) ⟨9, 10⟩) false ⟨2, 11⟩ (number (Number.ofInt 2))
    rfl rfl rfl
  rw [hkey] at hread
  exact hread

end Value

end TemplateLiteral
