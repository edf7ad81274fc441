/-!
# Numerals

Whole numbers as they are written in ASCII digits, with the bounds of the fields they go into.
-/
namespace CaseHerald.Text

/-- The value of an ASCII digit. -/
def digit? (c : Char) : Option Nat :=
  if '0' ≤ c ∧ c ≤ '9' then some (c.toNat - '0'.toNat) else none

/-- The value of a digit in base sixteen, of either case. -/
def hexDigit? (c : Char) : Option Nat :=
  if '0' ≤ c ∧ c ≤ '9' then some (c.toNat - '0'.toNat)
  else if 'a' ≤ c ∧ c ≤ 'f' then some (c.toNat - 'a'.toNat + 10)
  else if 'A' ≤ c ∧ c ≤ 'F' then some (c.toNat - 'A'.toNat + 10)
  else none

/-- Appends digits of the base to a number. -/
def extendDigits? (base : Nat) (value : Char → Option Nat) : Nat → List Char → Option Nat
  | acc, [] => some acc
  | acc, c :: rest =>
    match value c with
    | some d => if d < base then extendDigits? base value (acc * base + d) rest else none
    | none => none

/-- The number written in decimal digits, of which there is at least one. -/
def natural? (cs : List Char) : Option Nat :=
  if cs.isEmpty then none else extendDigits? 10 digit? 0 cs

/-- A number up to `most`, written in decimal digits that a plus sign may precede. -/
def naturalUpTo? (most : Nat) (cs : List Char) : Option Nat :=
  let digits := match cs with
    | '+' :: rest => rest
    | _ => cs
  match natural? digits with
  | some n => if n ≤ most then some n else none
  | none => none

/-- The largest number of eight bits. -/
def most8 : Nat := Nat.pow 2 8 - 1

/-- The largest number of thirty-two bits. -/
def most32 : Nat := Nat.pow 2 32 - 1

/-- The largest number of sixty-four bits. -/
def most64 : Nat := Nat.pow 2 64 - 1

/-- The number in decimal digits, with zeros in front up to the width. -/
def padded (width n : Nat) : List Char :=
  let digits := Nat.toDigits 10 n
  List.replicate (width - digits.length) '0' ++ digits

end CaseHerald.Text
