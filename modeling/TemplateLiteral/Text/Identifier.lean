import TemplateLiteral.Text.Blank
import TemplateLiteral.Text.Identifier.Table
import TemplateLiteral.Text.Ranges

/-!
# The characters of a name

A name begins with a dollar sign, a low line or a character with the property XID_Start, and
goes on with dollar signs, the two joiners of width zero and characters with the property
XID_Continue.

Which characters have the two properties changes from one version of the Unicode standard to the
next. How a template is read does not change with it. All that counts is that the letters and
digits are the usual ones among the characters of ASCII, and that no blank character stands in a
name. So an alphabet is whatever keeps to this, and the tables of one version are an instance.

## Main definitions

* `Text.Alphabet`: the characters that names are written with
* `Text.isNameStart`, `Text.isNamePart`
* `Text.isPunctuation`: the characters of ASCII that no name has
* `Text.inStartTable`, `Text.inPartTable`: the characters of the tables

## Main results

* `Text.isNamePart_of_isNameStart`: a character that may begin a name may also stand inside it
* `Text.isNameStart_of_ascii`, `Text.isNamePart_of_ascii`: the names of ASCII
* `Text.isNamePart_eq_false_of_isPunctuation`, `Text.isNamePart_eq_false_of_isBlank`: what stands in
  no name
-/

namespace TemplateLiteral.Text

/-! ## Alphabets -/

/-- The characters that names are written with. -/
class Alphabet where
  /-- The character may begin a name. -/
  isStart : Char → Bool
  /-- The character may stand in a name after its first. -/
  isPart : Char → Bool
  isPart_of_isStart {c : Char} : isStart c → isPart c
  isStart_of_ascii {c : Char} : c.toNat < 128 → isStart c = (c.isAlpha || c = '$' || c = '_')
  isPart_of_ascii {c : Char} : c.toNat < 128 → isPart c = (c.isAlphanum || c = '$' || c = '_')
  isPart_of_isBlank {c : Char} : isBlank c → isPart c = false

/-- The character is one of ASCII that stands in no name. -/
def isPunctuation (c : Char) : Bool :=
  c.toNat < 128 && !(c.isAlphanum || c = '$' || c = '_')

theorem toNat_lt_of_isAlpha {c : Char} (h : c.isAlpha) : c.toNat < 128 := by
  have hends : c.isUpper ∨ c.isLower := Bool.or_eq_true_iff.1 h
  rcases hends with hupper | hlower
  · have hlast : c.val ≤ 'Z'.val := (of_decide_eq_true hupper).2
    exact Nat.lt_of_le_of_lt hlast (by decide)
  · have hlast : c.val ≤ 'z'.val := of_decide_eq_true (Bool.and_eq_true_iff.1 hlower).2
    exact Nat.lt_of_le_of_lt hlast (by decide)

section Alphabet

variable [Alphabet] {c : Char}

/-- The character may begin a name. -/
def isNameStart (c : Char) : Bool :=
  Alphabet.isStart c

/-- The character may stand in a name after its first. -/
def isNamePart (c : Char) : Bool :=
  Alphabet.isPart c

theorem isNamePart_of_isNameStart (h : isNameStart c) : isNamePart c :=
  Alphabet.isPart_of_isStart h

theorem isNameStart_of_ascii (h : c.toNat < 128) :
    isNameStart c = (c.isAlpha || c = '$' || c = '_') :=
  Alphabet.isStart_of_ascii h

theorem isNamePart_of_ascii (h : c.toNat < 128) :
    isNamePart c = (c.isAlphanum || c = '$' || c = '_') :=
  Alphabet.isPart_of_ascii h

theorem isNameStart_of_isAlpha (h : c.isAlpha) : isNameStart c := by
  rw [isNameStart_of_ascii (toNat_lt_of_isAlpha h), h]
  rfl

theorem isNamePart_eq_false_of_isPunctuation (h : isPunctuation c) : isNamePart c = false := by
  obtain ⟨hascii, hother⟩ := Bool.and_eq_true_iff.1 h
  rw [isNamePart_of_ascii (of_decide_eq_true hascii)]
  rwa [Bool.not_eq_true'] at hother

/-- No name goes on with a blank character. -/
theorem isNamePart_eq_false_of_isBlank (h : isBlank c) : isNamePart c = false :=
  Alphabet.isPart_of_isBlank h

theorem isNameStart_eq_false_of_isNamePart (h : isNamePart c = false) : isNameStart c = false := by
  cases hstart : isNameStart c with
  | false => rfl
  | true =>
    rw [isNamePart_of_isNameStart hstart] at h
    cases h

theorem isNameStart_eq_false_of_isPunctuation (h : isPunctuation c) : isNameStart c = false :=
  isNameStart_eq_false_of_isNamePart (isNamePart_eq_false_of_isPunctuation h)

end Alphabet

/-! ## The tables of one version -/

/-- The character may begin a name by the table. -/
def inStartTable (c : Char) : Bool :=
  c = '$' || c = '_' || inRanges c.toNat startRanges

/-- The character may stand in a name by the tables. -/
def inPartTable (c : Char) : Bool :=
  inStartTable c || c = '\u200C' || c = '\u200D' || inRanges c.toNat furtherRanges

theorem inStartTable_of_ascii {c : Char} (h : c.toNat < 128) :
    inStartTable c = (c.isAlpha || c = '$' || c = '_') := by
  have hascii : ∀ n < 128, inStartTable (Char.ofNat n) =
      ((Char.ofNat n).isAlpha || Char.ofNat n = '$' || Char.ofNat n = '_') := by decide
  simpa only [Char.ofNat_toNat] using hascii _ h

theorem inPartTable_of_ascii {c : Char} (h : c.toNat < 128) :
    inPartTable c = (c.isAlphanum || c = '$' || c = '_') := by
  have hascii : ∀ n < 128, inPartTable (Char.ofNat n) =
      ((Char.ofNat n).isAlphanum || Char.ofNat n = '$' || Char.ofNat n = '_') := by decide
  simpa only [Char.ofNat_toNat] using hascii _ h

theorem inPartTable_of_isBlank {c : Char} (h : isBlank c) : inPartTable c = false := by
  have hnone : ∀ n ∈ blankPoints, inPartTable (Char.ofNat n) = false := by decide +kernel
  simpa only [Char.ofNat_toNat] using hnone _ (mem_blankPoints_of_isBlank h)

/-- Names are written with the characters of the tables. -/
instance : Alphabet where
  isStart := inStartTable
  isPart := inPartTable
  isPart_of_isStart h := by simp [inPartTable, h]
  isStart_of_ascii := inStartTable_of_ascii
  isPart_of_ascii := inPartTable_of_ascii
  isPart_of_isBlank := inPartTable_of_isBlank

end TemplateLiteral.Text
