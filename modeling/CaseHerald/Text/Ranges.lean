import CaseHerald.Text.Numeral

/-!
# Sets of characters given by ranges

A property of characters that a standard lists is kept as ascending, inclusive ranges of code
points. `Text.within` is membership in such a set. Long tables are written as lines of words, in which
code points are hexadecimal numbers.
-/
namespace CaseHerald.Text

/-- Inclusive ranges of code points, in ascending order. -/
abbrev Ranges := List (Nat × Nat)

/-- Whether the character lies in one of the ranges. -/
def within (ranges : Ranges) (c : Char) : Bool :=
  ranges.any fun r => r.1 ≤ c.toNat && c.toNat ≤ r.2

/-! ## Tables in words -/

/-- Splits at every separator. -/
def pieces (sep : Char) : List Char → List (List Char)
  | [] => [[]]
  | c :: rest =>
    match pieces sep rest with
    | [] => [[c]]
    | piece :: more => if c = sep then [] :: piece :: more else (c :: piece) :: more

/-- What stands before the first separator and after it. Without a separator both are the whole. -/
def splitAt (sep : Char) (cs : List Char) : List Char × List Char :=
  if cs.contains sep then (cs.takeWhile (· ≠ sep), (cs.dropWhile (· ≠ sep)).drop 1) else (cs, cs)

/-- The words of lines. -/
def words (lines : List String) : List (List Char) :=
  (lines.flatMap fun line => pieces ' ' line.toList).filter fun w => !w.isEmpty

/-- The code point that hexadecimal digits are. -/
def codeOf (cs : List Char) : Nat := (extendDigits? 16 hexDigit? 0 cs).getD 0

/-- The range of a word such as `41-5A`, or of a single code point. -/
def rangeOf (w : List Char) : Nat × Nat :=
  let (low, high) := splitAt '-' w
  (codeOf low, codeOf high)

/-- The ranges that lines tell. -/
def Ranges.ofText (lines : List String) : Ranges := (words lines).map rangeOf

/-- The ranges with a number each that lines tell in words such as `41-5A:7`. -/
def readRuns (lines : List String) : List (Nat × Nat × Nat) :=
  (words lines).map fun w =>
    let (range, value) := splitAt ':' w
    let (low, high) := rangeOf range
    (low, high, codeOf value)

/-- The number of the range in which the character lies. -/
def valueIn (runs : List (Nat × Nat × Nat)) (c : Char) : Option Nat :=
  (runs.find? fun r => r.1 ≤ c.toNat && c.toNat ≤ r.2.1).map (·.2.2)

end CaseHerald.Text
