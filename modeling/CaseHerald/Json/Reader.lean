import CaseHerald.Json.Document
import CaseHerald.Text.Octets
import CaseHerald.Text.Numeral

/-!
# Reading a document

The reader follows the grammar of JSON exactly: no comments, no trailing comma, no leading zero, no
control character in a string. It reads characters that may have gaps; a gap is allowed only inside
a string, which then encodes no text, as does one with half of a surrogate pair.
-/
namespace CaseHerald.Json

open Text (Gapped)

/-- The characters after blanks. -/
def skipBlanks : Gapped → Gapped
  | some c :: rest =>
    if c = ' ' ∨ c = '\n' ∨ c = '\t' ∨ c = '\r' then skipBlanks rest else some c :: rest
  | rest => rest

/-! ## Strings -/

/-- A piece of a string: a character, a code unit given by its number, or a gap. -/
inductive Piece
  | char (c : Char)
  | unit (n : Nat)
  | gap

/-- The character that a letter after a backslash stands for. -/
def escaped? (c : Char) : Option Char :=
  if c = '"' ∨ c = '\\' ∨ c = '/' then some c
  else if c = 'b' then some '\x08'
  else if c = 'f' then some '\x0c'
  else if c = 'n' then some '\n'
  else if c = 'r' then some '\r'
  else if c = 't' then some '\t'
  else none

/-- The number of four hexadecimal digits. -/
def hexUnit? (a b c d : Char) : Option Nat := do
  let a ← Text.hexDigit? a
  let b ← Text.hexDigit? b
  let c ← Text.hexDigit? c
  let d ← Text.hexDigit? d
  return ((a * 16 + b) * 16 + c) * 16 + d

/-- The pieces up to the closing quote, and what follows it. -/
def readPieces : Gapped → Option (List Piece × Gapped)
  | [] => none
  | none :: rest => (readPieces rest).map fun r => (.gap :: r.1, r.2)
  | some '\\' :: some 'u' :: some a :: some b :: some c :: some d :: rest =>
    match hexUnit? a b c d with
    | none => none
    | some n => (readPieces rest).map fun r => (.unit n :: r.1, r.2)
  | some '\\' :: some e :: rest =>
    match escaped? e with
    | none => none
    | some c => (readPieces rest).map fun r => (.char c :: r.1, r.2)
  | some '"' :: rest => some ([], rest)
  | some c :: rest =>
    if c = '\\' ∨ c.toNat < 0x20 then none
    else (readPieces rest).map fun r => (.char c :: r.1, r.2)

/-- Whether the code unit is the first half of a surrogate pair. -/
def isLeadingHalf (n : Nat) : Bool := decide (0xD800 ≤ n ∧ n < 0xDC00)

/-- Whether the code unit is the second half of a surrogate pair. -/
def isTrailingHalf (n : Nat) : Bool := decide (0xDC00 ≤ n ∧ n < 0xE000)

/-- The characters of the pieces, if they have no gap and every half has its partner. -/
def joinPieces : List Piece → Option (List Char)
  | [] => some []
  | .char c :: rest => (joinPieces rest).map (c :: ·)
  | .gap :: _ => none
  | .unit n :: .unit m :: rest =>
    if isLeadingHalf n then
      if isTrailingHalf m then
        (joinPieces rest).map (Char.ofNat (0x10000 + (n - 0xD800) * 0x400 + (m - 0xDC00)) :: ·)
      else none
    else if isTrailingHalf n then none
    else (joinPieces (.unit m :: rest)).map (Char.ofNat n :: ·)
  | .unit n :: rest =>
    if isLeadingHalf n || isTrailingHalf n then none
    else (joinPieces rest).map (Char.ofNat n :: ·)

/-- The string up to its closing quote, and what follows it. -/
def readText (s : Gapped) : Option (Option String × Gapped) :=
  (readPieces s).map fun r => ((joinPieces r.1).map String.ofList, r.2)

/-! ## Numbers -/

/-- The digits at the front, and what follows them. -/
def takeDigits : Gapped → List Nat × Gapped
  | some c :: rest =>
    match Text.digit? c with
    | some d => ((takeDigits rest).map (d :: ·) id)
    | none => ([], some c :: rest)
  | rest => ([], rest)

/-- The number with the decimal digits. -/
def ofDigits (ds : List Nat) : Nat := ds.foldl (fun n d => n * 10 + d) 0

/-- The whole part of a number: a zero, or digits that start with another one. -/
def readWhole (s : Gapped) : Option (List Nat × Gapped) :=
  match takeDigits s with
  | ([], _) => none
  | (0 :: _ :: _, _) => none
  | (ds, rest) => some (ds, rest)

/-- The digits after a point, if there is one. -/
def readFraction : Gapped → Option (Option (List Nat) × Gapped)
  | some '.' :: s =>
    match takeDigits s with
    | ([], _) => none
    | (ds, rest) => some (some ds, rest)
  | s => some (none, s)

/-- The exponent, if there is one. -/
def readExponent : Gapped → Option (Option Int × Gapped)
  | some c :: s =>
    if c = 'e' ∨ c = 'E' then
      let (negative, s) : Bool × Gapped := match s with
        | some '-' :: s => (true, s)
        | some '+' :: s => (false, s)
        | s => (false, s)
      match takeDigits s with
      | ([], _) => none
      | (ds, rest) =>
        let n : Int := ofDigits ds
        some (some (if negative then -n else n), rest)
    else some (none, some c :: s)
  | s => some (none, s)

/-- A number without its sign. -/
def readMagnitude (negative : Bool) (s : Gapped) : Option (Numeral × Gapped) := do
  let (whole, s) ← readWhole s
  let (fraction, s) ← readFraction s
  let (exponent, s) ← readExponent s
  let scale : Option Int := match fraction, exponent with
    | none, none => none
    | _, _ => some (exponent.getD 0 - (fraction.getD []).length)
  return (⟨negative, ofDigits (whole ++ fraction.getD []), scale⟩, s)

/-! ## Values -/

/-- What follows the word, if the characters begin with it. -/
def readWord : List Char → Gapped → Option Gapped
  | [], s => some s
  | c :: cs, some d :: s => if c = d then readWord cs s else none
  | _ :: _, _ => none

mutual

/-- A value, with blanks in front of it, and what follows it. -/
def readValue : Nat → Gapped → Option (Raw × Gapped)
  | 0, _ => none
  | fuel + 1, s =>
    match skipBlanks s with
    | some '"' :: s => (readText s).map fun r => (.text r.1, r.2)
    | some '[' :: s =>
      match skipBlanks s with
      | some ']' :: s => some (.list [], s)
      | s => (readItems fuel s).map fun r => (.list r.1, r.2)
    | some '\x7b' :: s =>
      match skipBlanks s with
      | some '\x7d' :: s => some (.object [], s)
      | s => (readFields fuel s).map fun r => (.object r.1, r.2)
    | some 'n' :: s => (readWord ['u', 'l', 'l'] s).map fun s => (.null, s)
    | some 't' :: s => (readWord ['r', 'u', 'e'] s).map fun s => (.bool true, s)
    | some 'f' :: s => (readWord ['a', 'l', 's', 'e'] s).map fun s => (.bool false, s)
    | some '-' :: s => (readMagnitude true s).map fun r => (.number r.1, r.2)
    | s => (readMagnitude false s).map fun r => (.number r.1, r.2)

/-- The items of a list up to its closing bracket. -/
def readItems : Nat → Gapped → Option (List Raw × Gapped)
  | 0, _ => none
  | fuel + 1, s =>
    match readValue fuel s with
    | none => none
    | some (item, s) =>
      match skipBlanks s with
      | some ',' :: s => (readItems fuel s).map fun r => (item :: r.1, r.2)
      | some ']' :: s => some ([item], s)
      | _ => none

/-- The fields of an object up to its closing brace. -/
def readFields : Nat → Gapped → Option (List (Option String × Raw) × Gapped)
  | 0, _ => none
  | fuel + 1, s =>
    match skipBlanks s with
    | some '"' :: s =>
      match readText s with
      | none => none
      | some (name, s) =>
        match skipBlanks s with
        | some ':' :: s =>
          match readValue fuel s with
          | none => none
          | some (v, s) =>
            match skipBlanks s with
            | some ',' :: s => (readFields fuel s).map fun r => ((name, v) :: r.1, r.2)
            | some '\x7d' :: s => some ([(name, v)], s)
            | _ => none
        | _ => none
    | _ => none

end

/-- The document that the characters are, with blanks around it. -/
def read? (s : Gapped) : Option Raw :=
  match readValue (2 * s.length + 2) s with
  | none => none
  | some (raw, rest) => if (skipBlanks rest).isEmpty then some raw else none

end CaseHerald.Json
