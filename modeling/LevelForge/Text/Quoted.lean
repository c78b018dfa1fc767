import LevelForge.Text.Printable

/-!
# Quoted text

How messages show a text: between single quotes, or between double quotes when the text holds a
single quote and no double quote. A backslash and the enclosing quote are written after a
backslash, line feeds, carriage returns and tabs by their letters, and any other character that is
not printable by the hexadecimal digits of its code point.
-/

namespace LevelForge.Text

/-- The last `width` hexadecimal digits of a number, padded with zeros on the left. -/
def hexDigits (width n : Nat) : List Char :=
  let digits := Nat.toDigits 16 n
  List.replicate (width - digits.length) '0' ++ digits

/-- The escape of a character that is not printable: two, four or eight digits, whichever is the
first to hold the code point. -/
def hexEscape (c : Char) : List Char :=
  let n := c.toNat
  if n < 0x100 then '\\' :: 'x' :: hexDigits 2 n
  else if n < 0x10000 then '\\' :: 'u' :: hexDigits 4 n
  else '\\' :: 'U' :: hexDigits 8 n

/-- One character inside quotes of the given kind. -/
def quoteChar (mark c : Char) : List Char :=
  if c == mark || c == '\\' then ['\\', c]
  else if c == '\n' then ['\\', 'n']
  else if c == '\r' then ['\\', 'r']
  else if c == '\t' then ['\\', 't']
  else if isPrintable c then [c]
  else hexEscape c

/-- The quotation mark that encloses a text. -/
def quoteMark (text : List Char) : Char :=
  if text.contains '\'' && !text.contains '"' then '"' else '\''

/-- A text as messages show it. -/
def quote (text : String) : String :=
  let chars := text.toList
  let mark := quoteMark chars
  String.ofList (mark :: chars.flatMap (quoteChar mark) ++ [mark])

/-- An optional text as messages show it; a missing one is the word `None`. -/
def quoteOption : Option String → String
  | some text => quote text
  | none => "None"

/-- A list of numbers as messages show it: in square brackets, separated by commas. -/
def listNumbers (numbers : List Nat) : String :=
  "[" ++ ", ".intercalate (numbers.map toString) ++ "]"

end LevelForge.Text
