/-!
# Lines of a text

A line ends with a line feed, before which a carriage return is part of the ending. Text after the
last ending is a line as well, unless it is empty.
-/
namespace CaseHerald.Text

/-- The line without a carriage return at its end. -/
def dropReturn (line : List Char) : List Char :=
  if line.getLast? = some '\r' then line.dropLast else line

/-- Splits the characters into lines, where `current` holds the line being read, last character
first. -/
def linesFrom (current : List Char) : List Char → List (List Char)
  | [] => if current.isEmpty then [] else [current.reverse]
  | '\n' :: rest => dropReturn current.reverse :: linesFrom [] rest
  | c :: rest => linesFrom (c :: current) rest

/-- The lines of the text. -/
def lines (s : String) : List String := (linesFrom [] s.toList).map String.ofList

end CaseHerald.Text
