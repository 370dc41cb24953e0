import Mathlib.Data.List.Basic
import TemplateLiteral.Rendering

/-!
# The text of a value

A value has one text, and four things come from it: what a marker shows, what is joined to other
text by a sum, the key that a computed property is looked up under, and what a report says of a
value. The rules for it are few, and they leave no choice: the text of an array is made from the
texts of its items, and these are values again.

Output is written piece by piece into a buffer. No text of an array is put together on the way: its
items are written one after the other, each behind a comma but the first, and arrays in arrays are
written into the same buffer.

## Main definitions

* `Value.TextRules`: what the text of a value has to be
* `Value.write`, `Template.write`: output that is written into a buffer

## Main results

* `Value.textRules_iff`: there is one text that obeys the rules
* `Value.write_eq`: a value is written as its text
* `Template.write_eq`: a template is written as its output
-/

namespace TemplateLiteral

/-! ## Rules -/

namespace Value

/-- The text of an item of an array, given the texts of values: null is left out. -/
def itemText (text : Value → String) (place : Place) : Data → String
  | .null => ""
  | item => text (ofData place item)

/-- What the text of a value has to be. -/
structure TextRules (text : Value → String) : Prop where
  undefined : text .undefined = "undefined"
  null : text .null = "null"
  boolean (truth : Bool) : text (.boolean truth) = if truth then "true" else "false"
  number (x : Float) : text (.number x) = Number.text x
  string (s : String) : text (.string s) = s
  object (fields : List (String × Data)) (place : Place) :
    text (.object fields place) = "[object Object]"
  array (items : List Data) (place : Place) : text (.array items place) =
    ",".intercalate (items.mapIdx fun i item => itemText text (.item i :: place) item)

theorem text_ofData (place : Place) (data : Data) : (ofData place data).text = data.text := by
  cases data with
  | boolean truth => cases truth <;> rfl
  | _ => rfl

/-- An item that is null has no text, and all others have their own. -/
theorem itemTexts_cons (place : Place) (item : Data) (items : List Data) :
    Data.itemTexts (item :: items) = itemText text place item :: Data.itemTexts items := by
  cases item with
  | null => rfl
  | _ => simp only [Data.itemTexts, itemText, text_ofData]

theorem mapIdx_itemText (places : Nat → Place) (items : List Data) :
    items.mapIdx (fun i item => itemText text (places i) item) = Data.itemTexts items := by
  induction items generalizing places with
  | nil => rfl
  | cons item items ih =>
    rw [List.mapIdx_cons, itemTexts_cons (places 0), ih fun i => places (i + 1)]

theorem textRules_text : TextRules text where
  undefined := rfl
  null := rfl
  boolean truth := by cases truth <;> rfl
  number _ := rfl
  string _ := rfl
  object _ _ := rfl
  array items place := by
    rw [mapIdx_itemText fun i => .item i :: place, text, Data.text]

theorem itemText_congr {f g : Value → String} {place : Place} {item : Data}
    (h : f (ofData place item) = g (ofData place item)) :
    itemText f place item = itemText g place item := by
  cases item with
  | null => rfl
  | _ => exact h

/-- The rules leave no choice for data, in whatever place. -/
theorem TextRules.eq_text_of_data {f : Value → String} (h : TextRules f) :
    (data : Data) → (place : Place) → f (ofData place data) = text (ofData place data)
  | .null, _ => h.null
  | .boolean truth, _ => (h.boolean truth).trans (textRules_text.boolean truth).symm
  | .integer n, _ => h.number (Number.ofInt n)
  | .fraction x, _ => h.number x
  | .string s, _ => h.string s
  | .object fields, place => h.object fields place
  | .array items, place => by
    have hitems : (items.mapIdx fun i item => itemText f (.item i :: place) item) =
        items.mapIdx fun i item => itemText text (.item i :: place) item := by
      refine List.mapIdx_eq_mapIdx_iff.2 fun i hi => itemText_congr ?_
      have hmem : items[i] ∈ items := List.getElem_mem hi
      exact h.eq_text_of_data items[i] (.item i :: place)
    rw [ofData, h.array, textRules_text.array, hitems]
termination_by data => sizeOf data
decreasing_by
  have := List.sizeOf_lt_of_mem hmem
  simp
  omega

theorem TextRules.eq_text {f : Value → String} (h : TextRules f) (v : Value) : f v = v.text := by
  cases v with
  | undefined => exact h.undefined
  | null => exact h.null
  | boolean truth => exact (h.boolean truth).trans (textRules_text.boolean truth).symm
  | number x => exact h.number x
  | string s => exact h.string s
  | array items place => exact h.eq_text_of_data (.array items) place
  | object fields place => exact h.object fields place

/-- There is one text that obeys the rules. -/
theorem textRules_iff {f : Value → String} : TextRules f ↔ f = text := by
  constructor
  · exact fun h => funext h.eq_text
  · rintro rfl
    exact textRules_text

end Value

/-! ## Writing -/

mutual

/-- The buffer after data is written to it. -/
def Data.write (buffer : List Char) : Data → List Char
  | .null => buffer ++ "null".toList
  | .boolean truth => buffer ++ (if truth then "true" else "false").toList
  | .integer n => buffer ++ (Number.text (Number.ofInt n)).toList
  | .fraction x => buffer ++ (Number.text x).toList
  | .string text => buffer ++ text.toList
  | .array items => Data.writeItems buffer 0 items
  | .object _ => buffer ++ Data.objectText.toList

/-- The buffer after items of an array are written to it, the first of which has the given index.
Only the very first item of an array has no comma before it. -/
def Data.writeItems (buffer : List Char) (index : Nat) : List Data → List Char
  | [] => buffer
  | .null :: items =>
    let buffer := if 0 < index then buffer ++ [','] else buffer
    Data.writeItems buffer (index + 1) items
  | item :: items =>
    let buffer := if 0 < index then buffer ++ [','] else buffer
    Data.writeItems (Data.write buffer item) (index + 1) items

end

/-- The buffer after a value is written to it. -/
def Value.write (buffer : List Char) : Value → List Char
  | .undefined => buffer ++ "undefined".toList
  | .null => buffer ++ "null".toList
  | .boolean truth => buffer ++ (if truth then "true" else "false").toList
  | .number x => buffer ++ (Number.text x).toList
  | .string text => buffer ++ text.toList
  | .array items _ => Data.writeItems buffer 0 items
  | .object _ _ => buffer ++ Data.objectText.toList

/-- The texts of items, the first of which has the given index, with commas between them. -/
def Data.separated (index : Nat) : List String → List Char
  | [] => []
  | text :: texts =>
    (if 0 < index then [','] else []) ++ text.toList ++ separated (index + 1) texts

theorem Data.toList_intercalate (index : Nat) (text : String) (texts : List String) :
    (",".intercalate (text :: texts)).toList = text.toList ++ separated (index + 1) texts := by
  induction texts generalizing text index with
  | nil => rw [String.intercalate_singleton, separated, List.append_nil]
  | cons next texts ih =>
    rw [String.intercalate_cons_cons, String.toList_append, String.toList_append, ih (index + 1),
      separated, if_pos (Nat.succ_pos index)]
    simp

theorem Data.separated_zero (texts : List String) :
    separated 0 texts = (",".intercalate texts).toList := by
  cases texts with
  | nil => rfl
  | cons text texts =>
    rw [Data.toList_intercalate 0]
    rfl

mutual

/-- Data is written as its text. -/
theorem Data.write_eq (buffer : List Char) :
    (data : Data) → Data.write buffer data = buffer ++ data.text.toList
  | .null | .integer _ | .fraction _ | .string _ | .object _ => rfl
  | .boolean true | .boolean false => rfl
  | .array items => by
    rw [Data.write, Data.writeItems_eq, Data.separated_zero, Data.text]

theorem Data.writeItems_eq (buffer : List Char) (index : Nat) : (items : List Data) →
    Data.writeItems buffer index items = buffer ++ Data.separated index (Data.itemTexts items)
  | [] => (List.append_nil buffer).symm
  | item :: items => by
    -- The comma belongs to what is written of the item, and is in the buffer before it.
    have hcomma : (if 0 < index then buffer ++ [','] else buffer) =
        buffer ++ if 0 < index then [','] else [] := by
      split <;> simp
    by_cases hnull : item = .null
    · subst hnull
      rw [Data.writeItems, Data.writeItems_eq, hcomma, Data.itemTexts, Data.separated]
      simp
    · rw [Data.writeItems, Data.writeItems_eq, Data.write_eq, hcomma, Data.itemTexts,
        Data.separated]
      · simp
      · exact hnull
      · exact hnull

end

/-- A value is written as its text. -/
theorem Value.write_eq (buffer : List Char) (v : Value) :
    v.write buffer = buffer ++ v.text.toList := by
  cases v with
  | boolean truth => cases truth <;> rfl
  | array items place => exact Data.write_eq buffer (.array items)
  | _ => rfl

/-! ## Writing templates -/

/-- The buffer after a segment is written to it. -/
def Segment.write (scope : Scope) (buffer : List Char) : Segment → Except EvalFault (List Char)
  | .literal text _ => .ok (buffer ++ text)
  | .marker e _ _ => do
    return (← scope.evaluate e).write buffer

theorem Segment.write_eq (scope : Scope) (buffer : List Char) (s : Segment) :
    s.write scope buffer = do return buffer ++ (← s.text scope) := by
  cases s with
  | literal text region => rfl
  | marker e text region =>
    rw [Segment.write, Segment.text]
    cases scope.evaluate e with
    | error fault => rfl
    | ok v => exact congrArg Except.ok (v.write_eq buffer)

/-- The buffer after the segments of a template are written to it, or the first fault in them. -/
def Template.write (t : Template) (store : Store) (buffer : List Char) :
    Except EvalFault (List Char) :=
  t.segments.foldlM (Segment.write (t.scope store)) buffer

/-- A template is written as its output. -/
theorem Template.write_eq (t : Template) (store : Store) (buffer : List Char) :
    t.write store buffer = do return buffer ++ (← t.output store) := by
  rw [write, output]
  induction t.segments generalizing buffer with
  | nil => exact congrArg Except.ok (List.append_nil buffer).symm
  | cons s segments ih =>
    rw [List.foldlM_cons, Segment.write_eq, List.mapM_cons]
    cases s.text (t.scope store) with
    | error fault => rfl
    | ok text =>
      change List.foldlM _ (buffer ++ text) segments = _
      rw [ih]
      cases segments.mapM (Segment.text (t.scope store)) with
      | error fault => rfl
      | ok texts => exact congrArg Except.ok (List.append_assoc buffer text texts.flatten)

end TemplateLiteral
