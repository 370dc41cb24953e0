/-!
# The 16-bit units of a text

The length of a text, the positions in it and the order of two texts are those of its UTF-16
form: a character up to U+FFFF is one unit, and a character above is two, a high and a low
surrogate. A surrogate on its own stands for no character, and reads as U+FFFD.

## Main definitions

* `Text.units`: the units of a text
* `Text.charOfUnit`: the character that one unit reads as
* `Text.compareUnits`: the order of two texts by their units
-/

namespace TemplateLiteral.Text

/-- The units of one character. -/
def unitsOfChar (c : Char) : List Nat :=
  if c.toNat < 0x10000 then
    [c.toNat]
  else
    [0xD800 + (c.toNat - 0x10000) / 0x400, 0xDC00 + (c.toNat - 0x10000) % 0x400]

/-- The units of a text, in order. -/
def units (text : List Char) : List Nat :=
  text.flatMap unitsOfChar

/-- The replacement character U+FFFD. -/
def replacement : Char := '\uFFFD'

/-- The character that a unit stands for, or the replacement character for a surrogate. -/
def charOfUnit (unit : Nat) : Char :=
  if unit.isValidChar then Char.ofNat unit else replacement

/-- The first units that differ decide; a text comes after its own beginnings. -/
def compareUnits (a b : List Nat) : Ordering :=
  match a, b with
  | [], [] => .eq
  | [], _ :: _ => .lt
  | _ :: _, [] => .gt
  | x :: xs, y :: ys => if x < y then .lt else if y < x then .gt else compareUnits xs ys

end TemplateLiteral.Text
