import CaseHerald.Text.Printable

/-!
# Quoted text

A text inside a message stands in double quotes. The quote and the backslash are escaped by a
backslash, four control characters by a letter, and every other character that cannot be shown by
its code point in braces.
-/
namespace CaseHerald.Text

/-- The lower-case hexadecimal digits of a number, without leading zeros. -/
def hexDigits (n : Nat) : List Char := Nat.toDigits 16 n

/-- How one character stands in a quoted text. -/
def quoteChar (c : Char) : List Char :=
  if c = '"' then ['\\', '"']
  else if c = '\\' then ['\\', '\\']
  else if c = '\n' then ['\\', 'n']
  else if c = '\r' then ['\\', 'r']
  else if c = '\t' then ['\\', 't']
  else if c = '\x00' then ['\\', '0']
  else if isPrintable c then [c]
  else ['\\', 'u', '\x7b'] ++ hexDigits c.toNat ++ ['\x7d']

/-- The text in quotes. -/
def quoted (s : String) : String :=
  String.ofList ('"' :: s.toList.flatMap quoteChar ++ ['"'])

/-- A file path in quotes, where the single quote is escaped as well. -/
def quotedPath (s : String) : String :=
  String.ofList ('"' :: s.toList.flatMap (fun c => if c = '\'' then ['\\', '\''] else quoteChar c) ++ ['"'])

/-- Quoted texts in brackets, separated by commas. -/
def quotedList (xs : List String) : String :=
  "[" ++ String.intercalate ", " (xs.map quoted) ++ "]"

end CaseHerald.Text
