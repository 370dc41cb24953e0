import TemplateLiteral.Number.Digits

/-!
# Quoted texts

The text between the quotes of a string literal, with escapes. A backslash gives the character
after it another meaning: a control character, a character by its number, or nothing at all
before the end of a line. Any other character after a backslash stands for itself.

## Main definitions

* `Quoted.length?`: where a quoted text ends
* `Quoted.escape?`: what an escape stands for
* `Quoted.decode?`: the text that is meant
-/

namespace TemplateLiteral.Quoted

/-! ## Where a quoted text ends -/

/-- How many characters follow an opening quote up to the closing one, which is counted.
There is none if the line or the text ends before it. -/
def length? (quote : Char) : List Char → Option Nat
  | '\\' :: '\r' :: '\n' :: rest => (length? quote rest).map (· + 3)
  | '\\' :: _ :: rest => (length? quote rest).map (· + 2)
  | c :: rest =>
    if c = quote then some 1
    else if c = '\n' ∨ c = '\r' then none
    else (length? quote rest).map (· + 1)
  | [] => none

/-! ## What a quoted text means -/

/-- The character with a number that is given by hexadecimal digits. -/
def charOfHex? (digits : List Char) : Option Char :=
  if digits.all (Number.isDigitOf 16) then
    let n := Number.ofDigits 16 digits
    if n.isValidChar then some (Char.ofNat n) else none
  else
    none

/-- The character whose number is given by the next `count` digits. -/
def charOfNext? (count : Nat) (rest : List Char) : Option Char :=
  let digits := rest.take count
  if digits.length = count then charOfHex? digits else none

/-- What a backslash and the character `letter` stand for before `rest`, and how many
characters of `rest` belong to the escape. -/
def escape? (letter : Char) (rest : List Char) : Option (List Char × Nat) :=
  match letter with
  | 'n' => some (['\n'], 0)
  | 'r' => some (['\r'], 0)
  | 't' => some (['\t'], 0)
  | 'b' => some (['\x08'], 0)
  | 'f' => some (['\x0c'], 0)
  | 'v' => some (['\x0b'], 0)
  | '0' => some (['\x00'], 0)
  | '\n' => some ([], 0)
  | '\r' => some ([], if rest.head? = some '\n' then 1 else 0)
  | 'x' => (charOfNext? 2 rest).map fun c => ([c], 2)
  | 'u' =>
    match rest with
    | '{' :: rest =>
      let digits := rest.takeWhile (· ≠ '}')
      if digits.isEmpty then none
      else (charOfHex? digits).map fun c => ([c], digits.length + 2)
    | rest => (charOfNext? 4 rest).map fun c => ([c], 4)
  | c => some ([c], 0)

/-- The text that is meant by what stands between quotes, or `none` if an escape names no
character. -/
def decode? (text : List Char) : Option (List Char) :=
  match text with
  | [] => some []
  | c :: rest =>
    if c = '\\' then
      match rest with
      | [] => some []
      | letter :: rest => do
        let (meant, length) ← escape? letter rest
        return meant ++ (← decode? (rest.drop length))
    else
      (decode? rest).map (c :: ·)
termination_by text.length

end TemplateLiteral.Quoted
