import TemplateLiteral.Text.Width.Table
import TemplateLiteral.Text.Ranges

/-!
# The width of a text

How many columns a text takes in a terminal. A character takes one column, or none if it only
adds to the character before it, or two if it is wide; sequences of characters that are drawn
as one sign take the columns of that sign. The text is read from its end, and what has been
read so far decides what the character before it adds.

## Main definitions

* `Width.Mark`: what of the following characters matters to the one before them
* `Width.step`: the columns that a character adds before a given mark
* `Text.width`: the width of a text
-/

namespace TemplateLiteral.Text

namespace Width

/-- What stands after a character, as far as it may join with it. -/
inductive Mark where
  /-- Nothing that joins. -/
  | plain
  /-- The end of a line. -/
  | lineFeed
  /-- A skin tone. -/
  | tone
  /-- One regional indicator. -/
  | indicator
  /-- Two or more regional indicators. -/
  | indicators
  /-- An emoji. -/
  | emoji
  /-- A joiner and an emoji. -/
  | joinedEmoji
  /-- The sign of a key cap, joined to an emoji. -/
  | joinedKeycap
  /-- A regional indicator, joined to an emoji. -/
  | joinedIndicator
  /-- An even number of regional indicators, joined to an emoji. -/
  | joinedEven
  /-- An odd number of regional indicators above one, joined to an emoji. -/
  | joinedOdd
  /-- The end of a sequence of tags, with so many letters before it, and digits before these. -/
  | joinedTags (letters digits : Nat)
  /-- An Arabic letter of the group of alef. -/
  | alef
  /-- The Hebrew letter lamed, perhaps after a joiner. -/
  | lamed (joined : Bool)
  /-- A Khmer letter that may be written below another. -/
  | coengLetter
  /-- The Buginese letter ya, perhaps after a joiner. -/
  | bugineseYa (joined : Bool)
  /-- The Buginese vowel sign i, joined to the letter ya. -/
  | bugineseVowelYa
  /-- A Tifinagh consonant, perhaps after a joiner. -/
  | tifinagh (joined : Bool)
  /-- The Tifinagh consonant joiner and a consonant. -/
  | tifinaghPair
  /-- A Lisu tone letter that ends a combination. -/
  | lisuTone
  /-- The Old Turkic letter i, perhaps after a joiner. -/
  | turkicI (joined : Bool)
deriving DecidableEq

/-- A selector between a character and what follows. -/
inductive Selector where
  | none
  | text
  | emoji
deriving DecidableEq

/-- What stands after a character. -/
structure Following where
  /-- The characters after the selector. -/
  mark : Mark
  /-- The selector before them. -/
  selector : Selector

namespace Mark

/-- A joiner and other marks that are not drawn may stand before the mark. -/
def letsThrough : Mark → Bool
  | .lamed _ | .coengLetter | .bugineseYa _ | .bugineseVowelYa | .tifinagh _ | .tifinaghPair
  | .lisuTone | .turkicI _ => true
  | _ => false

/-- The mark is that of letters, which no selector keeps from joining. -/
def joinsLetters (m : Mark) : Bool :=
  m = .alef || m.letsThrough

/-- The mark after a joiner is put before it. -/
def joined : Mark → Mark
  | .lamed _ => .lamed true
  | .bugineseYa _ => .bugineseYa true
  | .tifinagh _ => .tifinagh true
  | .turkicI _ => .turkicI true
  | m => m

/-- The mark is part of an emoji sequence that goes on to the left. -/
def continuesEmoji : Mark → Bool
  | .joinedEmoji | .joinedKeycap => true
  | _ => false

end Mark

/-! ## Classes of characters -/

/-- The code point lies between two others. -/
def within (n first last : Nat) : Bool :=
  first ≤ n && n ≤ last

/-- A regional indicator. -/
def isIndicator (n : Nat) : Bool :=
  within n 0x1F1E6 0x1F1FF

/-- A skin tone. -/
def isTone (n : Nat) : Bool :=
  within n 0x1F3FB 0x1F3FF

/-- A Tifinagh consonant. -/
def isTifinagh (n : Nat) : Bool :=
  within n 0x2D31 0x2D65 || n = 0x2D6F

/-- An Arabic letter of the group of alef. -/
def isAlef (n : Nat) : Bool :=
  [0x0622, 0x0623, 0x0625, 0x0627, 0x0671, 0x0672, 0x0673, 0x0675, 0x0773, 0x0774].contains n ||
    within n 0x0870 0x0882

/-- An Arabic letter of the group of lam. -/
def isLam (n : Nat) : Bool :=
  n = 0x0644 || within n 0x06B5 0x06B8 || n = 0x076A || n = 0x08A6 || n = 0x08C7

/-- A Khmer letter that may be written below another. -/
def isCoengLetter (n : Nat) : Bool :=
  within n 0x1780 0x1782 || within n 0x1784 0x1787 || within n 0x1789 0x178C ||
    within n 0x178E 0x1793 || within n 0x1795 0x1798 || within n 0x179B 0x179D ||
    n = 0x17A0 || n = 0x17A2 || n = 0x17A7 || within n 0x17AB 0x17AC || n = 0x17AF

/-- A mark that is not drawn and does not separate what it stands between. -/
def isUndrawn (n : Nat) : Bool :=
  n = 0x034F || within n 0x17B4 0x17B5 || within n 0x180B 0x180D || n = 0x180F ||
    within n 0xFE00 0xFE0F || within n 0xE0100 0xE01EF

/-- A mark of no width that does not keep Arabic letters from joining. -/
def isTransparent (n : Nat) : Bool :=
  inRanges n zeroRanges && !inRanges n opaqueRanges

/-- A selector may turn the character into an emoji. -/
def takesEmojiStyle (n : Nat) : Bool :=
  inRanges n styledRanges

/-- A selector may turn the character from an emoji into plain text. -/
def takesTextStyle (n : Nat) : Bool :=
  inRanges n plainRanges

/-- A selector shows the character as an emoji, or it is one without. -/
def isEmoji (n : Nat) : Bool :=
  inRanges n emojiRanges

/-! ## One character -/

/-- The columns of a character on its own, and the mark that it leaves. -/
def alone (n : Nat) : Int × Mark :=
  if isIndicator n then (1, .indicator)
  else if isTone n then (2, .tone)
  else if isEmoji n then (2, .emoji)
  else if isAlef n then (1, .alef)
  else if n = 0x05DC then (1, .lamed false)
  else if isCoengLetter n then (1, .coengLetter)
  else if n = 0x1A10 then (1, .bugineseYa false)
  else if isTifinagh n then (1, .tifinagh false)
  else if within n 0xA4FC 0xA4FD then (1, .lisuTone)
  else if n = 0x10C03 then (1, .turkicI false)
  else if n = 0x17D8 then (3, .plain)
  else if inRanges n zeroRanges then (0, .plain)
  else if inRanges n wideRanges then (2, .plain)
  else (1, .plain)

/-- The columns that a character adds by joining what follows it, or `none` if it does not. -/
def joining? (n : Nat) (mark : Mark) : Option (Int × Mark) :=
  match mark with
  | .alef =>
    if isLam n then some (0, .plain)
    else if isTransparent n then some (0, .alef)
    else none
  | .lamed true => if n = 0x05D0 then some (0, .plain) else none
  | .coengLetter => if n = 0x17D2 then some (-1, .plain) else none
  | .bugineseYa true => if n = 0x1A17 then some (0, .bugineseVowelYa) else none
  | .bugineseVowelYa => if n = 0x1A15 then some (0, .plain) else none
  | .tifinagh joined =>
    if n = 0x2D7F then some (1, .tifinaghPair)
    else if joined && isTifinagh n then some (0, .plain)
    else none
  | .tifinaghPair => if isTifinagh n then some (-1, .plain) else none
  | .lisuTone => if within n 0xA4F8 0xA4FB then some (0, .plain) else none
  | .turkicI true => if n = 0x10C32 then some (0, .plain) else none
  | .tone =>
    if inRanges n toneBaseRanges then some (0, .emoji)
    else if n = 0x200D then some (0, .joinedEmoji)
    else none
  | .indicator => if isIndicator n then some (1, .indicators) else none
  | .indicators =>
    if isIndicator n then some (1, .indicators)
    else if n = 0x200D then some (0, .joinedEmoji)
    else none
  | .emoji => if n = 0x200D then some (0, .joinedEmoji) else none
  | .joinedEmoji =>
    if n = 0x20E3 then some (0, .joinedKeycap)
    else if isIndicator n then some (1, .joinedIndicator)
    else if isTone n then some (0, .tone)
    else if n = 0xE007F then some (0, .joinedTags 0 0)
    else if isEmoji n then some (0, .emoji)
    else none
  | .joinedIndicator => if isIndicator n then some (-1, .joinedEven) else none
  | .joinedEven =>
    if isIndicator n then some (3, .joinedOdd)
    else if n = 0x200D then some (0, .joinedEmoji)
    else none
  | .joinedOdd =>
    if isIndicator n then some (-1, .joinedEven)
    else if n = 0x200D then some (0, .joinedEmoji)
    else none
  | .joinedTags letters digits =>
    if within n 0xE0061 0xE007A && digits = 0 && letters < 6 then
      some (0, .joinedTags (letters + 1) 0)
    else if within n 0xE0030 0xE0039 && (if digits = 0 then letters < 5 else digits < 3) then
      some (0, .joinedTags letters (digits + 1))
    else if n = 0x1F3F4 && (if digits = 0 then 3 ≤ letters else digits = 3) then
      some (0, .emoji)
    else none
  | _ => none

/-- What stands after a character, once the character does not go with the selector. -/
def Following.withoutSelector (next : Following) : Mark :=
  if next.selector = .none || next.mark.joinsLetters then next.mark else .plain

/-- The columns that a character above U+00A0 adds before characters that may join with it. -/
def besides (n : Nat) (next : Following) : Int × Following :=
  let mark := next.withoutSelector
  if n = 0xFE0F then
    (0, ⟨if mark.joinsLetters || mark.continuesEmoji then mark else .plain, .emoji⟩)
  else if n = 0xFE0E then
    (0, ⟨if mark.joinsLetters then mark else .plain, .text⟩)
  else if next.selector = .text && takesTextStyle n then
    (1, ⟨.plain, .none⟩)
  else if mark.letsThrough && n = 0x200D then
    (0, ⟨mark.joined, .none⟩)
  else if mark.letsThrough && isUndrawn n then
    (0, ⟨mark, .none⟩)
  else
    let (columns, mark) := (joining? n mark).getD (alone n)
    (columns, ⟨mark, .none⟩)

/-- The columns that a character adds before what follows it. -/
def step (c : Char) (next : Following) : Int × Following :=
  let n := c.toNat
  -- In front of a sequence of emoji, the sequence has the columns of both.
  if next.selector = .emoji && takesEmojiStyle n then
    (if next.mark.continuesEmoji then 0 else 2, ⟨.emoji, .none⟩)
  else if n ≤ 0xA0 then
    if n = 0x0A then (0, ⟨.lineFeed, .none⟩)
    else if n = 0x0D && next.mark = .lineFeed then (0, ⟨.plain, .none⟩)
    else (1, ⟨.plain, .none⟩)
  else
    besides n next

end Width

/-- The columns that a text takes. -/
def width (text : List Char) : Nat :=
  (text.foldr (fun c (sum, next) =>
    let (columns, following) := Width.step c next
    (sum + columns, following)) ((0 : Int), (⟨.plain, .none⟩ : Width.Following))).1.toNat

end TemplateLiteral.Text
