import CaseHerald.Json.Document
import CaseHerald.Text.Numeral

/-!
# Writing a document

Documents are written without blanks. In a string only the quote, the backslash and the control
characters are escaped.
-/
namespace CaseHerald.Json

/-- A digit in base sixteen, in lower case. -/
def hexLetter (n : Nat) : Char := (Nat.digitChar (n % 16))

/-- How one character stands in a string. -/
def escape (c : Char) : List Char :=
  if c = '"' then ['\\', '"']
  else if c = '\\' then ['\\', '\\']
  else if c = '\x08' then ['\\', 'b']
  else if c = '\x0c' then ['\\', 'f']
  else if c = '\n' then ['\\', 'n']
  else if c = '\r' then ['\\', 'r']
  else if c = '\t' then ['\\', 't']
  else if c.toNat < 0x20 then ['\\', 'u', '0', '0', hexLetter (c.toNat / 16), hexLetter c.toNat]
  else [c]

/-- A string in quotes. -/
def writeText (s : String) : List Char := '"' :: (s.toList.flatMap escape ++ ['"'])

namespace Document

mutual

/-- The document as characters. -/
def write : Value → List Char
  | .null => ['n', 'u', 'l', 'l']
  | .bool true => ['t', 'r', 'u', 'e']
  | .bool false => ['f', 'a', 'l', 's', 'e']
  | .number n => n.write
  | .text s => writeText s
  | .list items => '[' :: writeItems items
  | .object fields => '\x7b' :: writeFields fields

/-- The items of a list, up to its closing bracket. -/
def writeItems : List Value → List Char
  | [] => [']']
  | item :: rest => write item ++ writeItemsAfter rest

/-- Further items of a list. -/
def writeItemsAfter : List Value → List Char
  | [] => [']']
  | item :: rest => ',' :: (write item ++ writeItemsAfter rest)

/-- The fields of an object, up to its closing brace. -/
def writeFields : List (String × Value) → List Char
  | [] => ['\x7d']
  | (name, v) :: rest => writeText name ++ ':' :: (write v ++ writeFieldsAfter rest)

/-- Further fields of an object. -/
def writeFieldsAfter : List (String × Value) → List Char
  | [] => ['\x7d']
  | (name, v) :: rest => ',' :: (writeText name ++ ':' :: (write v ++ writeFieldsAfter rest))

end

/-- The document as text. -/
def render (v : Value) : String := String.ofList v.write

end Document

end CaseHerald.Json
