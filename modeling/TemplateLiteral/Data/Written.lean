import TemplateLiteral.Data.Basic
import TemplateLiteral.Number.Format

/-!
# Data in writing

Data as it stands in a message: JSON without blanks. In a string the quote, the backslash and
the characters below U+0020 are escaped and nothing else is. A fraction is written with its
shortest digits and always shows that it is none of the integers.

## Main definitions

* `Data.quoted`: a text between quotes
* `Data.written`: the JSON text of data
-/

namespace TemplateLiteral.Data

/-- A hexadecimal digit. -/
def hexDigit (n : Nat) : Char :=
  (Nat.toDigits 16 (n % 16)).headD '0'

/-- A character as it stands between quotes. -/
def quotedChar (c : Char) : List Char :=
  match c with
  | '"' => ['\\', '"']
  | '\\' => ['\\', '\\']
  | '\n' => ['\\', 'n']
  | '\r' => ['\\', 'r']
  | '\t' => ['\\', 't']
  | c =>
    if c.toNat = 8 then ['\\', 'b']
    else if c.toNat = 12 then ['\\', 'f']
    else if c.toNat < 0x20 then ['\\', 'u', '0', '0', hexDigit (c.toNat / 16), hexDigit c.toNat]
    else [c]

/-- A text between quotes. -/
def quoted (text : String) : List Char :=
  '"' :: (text.toList.flatMap quotedChar ++ ['"'])

/-- The decimal text of an integer. -/
def integerText : Int → List Char
  | .ofNat n => Number.toDigits n
  | .negSucc n => '-' :: Number.toDigits (n + 1)

mutual

/-- The JSON text of data. -/
def writtenChars : Data → List Char
  | .null => "null".toList
  | .boolean true => "true".toList
  | .boolean false => "false".toList
  | .integer n => integerText n
  | .fraction x => Number.Format.shown.write x
  | .string text => quoted text
  | .array items => '[' :: (writtenItems items ++ [']'])
  | .object fields => '{' :: (writtenFields fields ++ ['}'])

/-- The items of an array, separated by commas. -/
def writtenItems : List Data → List Char
  | [] => []
  | [x] => writtenChars x
  | x :: y :: rest => writtenChars x ++ ',' :: writtenItems (y :: rest)

/-- The fields of an object, separated by commas. -/
def writtenFields : List (String × Data) → List Char
  | [] => []
  | [(k, v)] => quoted k ++ ':' :: writtenChars v
  | (k, v) :: f :: rest => quoted k ++ ':' :: (writtenChars v ++ ',' :: writtenFields (f :: rest))

end

/-- The JSON text of data. -/
def written (data : Data) : String :=
  String.ofList data.writtenChars

end TemplateLiteral.Data
