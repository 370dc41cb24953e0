/-!
# Regions of a text

A text is a list of characters, and a place in it is counted in the bytes of its UTF-8 form,
so that a place means the same to every tool that opens the text. A region is the stretch
between two such places. A place may fall inside a character or past the end; reading a
region then has no answer, which `Region.slice?` says with `none`.

## Main definitions

* `Text.byteLength`: how many bytes a text takes in UTF-8
* `Text.splitAtByte?`: a text cut at a byte offset, where that is the start of a character
* `Region`, `Region.cover`, `Region.slice?`

## Main results

* `Text.byteLength_append`: lengths add up
* `Text.splitAtByte?_append`: a text is cut in two exactly where its first part ends
-/

namespace TemplateLiteral

namespace Text

/-! ## Byte lengths -/

/-- The number of bytes of the UTF-8 form of a text. -/
def byteLength : List Char → Nat
  | [] => 0
  | c :: cs => c.utf8Size + byteLength cs

@[simp] theorem byteLength_nil : byteLength [] = 0 := rfl

@[simp] theorem byteLength_cons (c : Char) (cs : List Char) :
    byteLength (c :: cs) = c.utf8Size + byteLength cs := rfl

@[simp] theorem byteLength_append (xs ys : List Char) :
    byteLength (xs ++ ys) = byteLength xs + byteLength ys := by
  induction xs with
  | nil => simp
  | cons c cs ih => simp [ih, Nat.add_assoc]

theorem byteLength_pos {text : List Char} (h : text ≠ []) : 0 < byteLength text := by
  cases text with
  | nil => exact absurd rfl h
  | cons c text => exact Nat.add_pos_left c.utf8Size_pos _

/-- The text cut at a byte offset, or `none` where no character starts there. -/
def splitAtByte? : Nat → List Char → Option (List Char × List Char)
  | 0, cs => some ([], cs)
  | _ + 1, [] => none
  | n + 1, c :: cs =>
    if c.utf8Size ≤ n + 1 then
      (splitAtByte? (n + 1 - c.utf8Size) cs).map fun (before, after) => (c :: before, after)
    else
      none

theorem splitAtByte?_append (xs ys : List Char) :
    splitAtByte? (byteLength xs) (xs ++ ys) = some (xs, ys) := by
  induction xs with
  | nil => simp [splitAtByte?]
  | cons c cs ih =>
    obtain ⟨n, hn⟩ : ∃ n, c.utf8Size + byteLength cs = n + 1 :=
      ⟨c.utf8Size + byteLength cs - 1, by have := c.utf8Size_pos; omega⟩
    have hle : c.utf8Size ≤ n + 1 := by omega
    have hrest : n + 1 - c.utf8Size = byteLength cs := by omega
    simp [hn, splitAtByte?, hle, hrest, ih]

end Text

/-! ## Regions -/

/-- The stretch of a text from the byte offset `start` up to, and without, `stop`. -/
structure Region where
  /-- The offset of the first byte. -/
  start : Nat
  /-- The offset after the last byte. -/
  stop : Nat
deriving DecidableEq, Repr

namespace Region

/-- The smallest region around two. -/
def cover (a b : Region) : Region :=
  ⟨min a.start b.start, max a.stop b.stop⟩

/-- The text of a region, or `none` where the region is reversed, reaches past the end of the
text, or cuts a character. -/
def slice? (r : Region) (text : List Char) : Option (List Char) :=
  if r.start ≤ r.stop then do
    let (_, after) ← Text.splitAtByte? r.start text
    let (inside, _) ← Text.splitAtByte? (r.stop - r.start) after
    return inside
  else
    none

/-- A stretch of a text that starts where what stands before it ends is read as itself. -/
theorem slice?_append (before inside after : List Char) :
    slice? ⟨Text.byteLength before, Text.byteLength before + Text.byteLength inside⟩
      (before ++ (inside ++ after)) = some inside := by
  simp [slice?, Text.splitAtByte?_append]

end Region

end TemplateLiteral
