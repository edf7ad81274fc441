import CaseHerald.Number.Decimal
import CaseHerald.Text.Numeral

/-!
# Characters of a TOML document

Blanks, comments, line ends, strings, numbers and keys. Each reader takes the characters and answers
what it has read and what follows.
-/
namespace CaseHerald.Toml

/-- What has been read, and what follows it. -/
abbrev Read (α : Type) := Option (α × List Char)

/-- The characters after spaces and tabs. -/
def skipSpaces (cs : List Char) : List Char := cs.dropWhile fun c => c = ' ' || c = '\t'

/-- The characters after a line end, if there is one. -/
def lineEnd? : List Char → Option (List Char)
  | '\n' :: cs => some cs
  | '\r' :: '\n' :: cs => some cs
  | _ => none

/-- Whether a comment may hold the character. -/
def isCommentChar (c : Char) : Bool := (c = '\t' || 0x20 ≤ c.toNat) && c.toNat ≠ 0x7F

/-- The characters after a comment, if there is one. -/
def skipComment : List Char → List Char
  | '#' :: cs => cs.dropWhile isCommentChar
  | cs => cs

/-- The characters after spaces, a comment, and the line end or the end of all. -/
def restOfLine? (cs : List Char) : Option (List Char) :=
  match skipComment (skipSpaces cs) with
  | [] => some []
  | cs => lineEnd? cs

/-- The characters after spaces, comments and line ends. -/
def skipLines : Nat → List Char → List Char
  | 0, cs => cs
  | fuel + 1, cs =>
    let rest := skipComment (skipSpaces cs)
    match lineEnd? rest with
    | some rest => skipLines fuel rest
    | none => rest

/-! ## Strings -/

/-- Whether a string may hold the character as it is. -/
def isTextChar (c : Char) : Bool := (c = '\t' || 0x20 ≤ c.toNat) && c.toNat ≠ 0x7F

/-- The character with the code point, if there is one. -/
def scalar? (n : Nat) : Option Char :=
  if n < 0xD800 ∨ (0xE000 ≤ n ∧ n < 0x110000) then some (Char.ofNat n) else none

/-- The character that hexadecimal digits stand for. -/
def codePoint? (digits : List Char) : Option Char :=
  (Text.extendDigits? 16 Text.hexDigit? 0 digits).bind scalar?

/-- The character that an escape stands for, after its backslash. -/
def escape? : List Char → Read Char
  | 'b' :: cs => some ('\x08', cs)
  | 't' :: cs => some ('\t', cs)
  | 'n' :: cs => some ('\n', cs)
  | 'f' :: cs => some ('\x0c', cs)
  | 'r' :: cs => some ('\r', cs)
  | '"' :: cs => some ('"', cs)
  | '\\' :: cs => some ('\\', cs)
  | 'u' :: cs =>
    if 4 ≤ cs.length then (codePoint? (cs.take 4)).map fun c => (c, cs.drop 4) else none
  | 'U' :: cs =>
    if 8 ≤ cs.length then (codePoint? (cs.take 8)).map fun c => (c, cs.drop 8) else none
  | _ => none

/-- The text of a string on one line, after its quote. -/
def basic? : Nat → List Char → Read (List Char)
  | 0, _ => none
  | _, [] => none
  | _, '"' :: cs => some ([], cs)
  | fuel + 1, '\\' :: cs =>
    match escape? cs with
    | some (c, cs) => (basic? fuel cs).map fun r => (c :: r.1, r.2)
    | none => none
  | fuel + 1, c :: cs =>
    if isTextChar c then (basic? fuel cs).map fun r => (c :: r.1, r.2) else none

/-- The text of a string on one line without escapes, after its quote. -/
def literal? : List Char → Read (List Char)
  | [] => none
  | '\'' :: cs => some ([], cs)
  | c :: cs => if isTextChar c then (literal? cs).map fun r => (c :: r.1, r.2) else none

/-- What comes of a run of quotes inside a string of several lines: content, or three quotes as its
end with up to two more before them. -/
def quoteRun (quote : Char) (cs : List Char) : List Char × Option (List Char) :=
  let count := (cs.takeWhile (· = quote)).length
  let rest := cs.drop count
  if count < 3 then (List.replicate count quote, some rest)
  else (List.replicate (min count 5 - 3) quote, none)

/-- The characters after the run of quotes that ends a string. -/
def afterRun (quote : Char) (cs : List Char) : List Char :=
  cs.drop (min (cs.takeWhile (· = quote)).length 5)

/-- The characters after blanks and line ends. -/
def skipBlankLines : List Char → List Char
  | [] => []
  | '\r' :: '\n' :: cs => skipBlankLines cs
  | c :: cs => if c = ' ' ∨ c = '\t' ∨ c = '\n' then skipBlankLines cs else c :: cs

/-- The characters after a backslash at the end of a line, if it stands there. -/
def joinLine? (cs : List Char) : Option (List Char) :=
  (lineEnd? (skipSpaces cs)).map skipBlankLines

/-- The text of a string of several lines, after its quotes and a line end. With `escapes`, a
backslash is not a character of its own. -/
def multiline? (quote : Char) (escapes : Bool) : Nat → List Char → Read (List Char)
  | 0, _ => none
  | _, [] => none
  | fuel + 1, c :: cs =>
    if c = quote then
      match quoteRun quote (c :: cs) with
      | (content, none) => some (content, afterRun quote (c :: cs))
      | (content, some rest) => (multiline? quote escapes fuel rest).map fun r => (content ++ r.1, r.2)
    else if escapes && c = '\\' then
      match joinLine? cs with
      | some rest => multiline? quote escapes fuel rest
      | none =>
        match escape? cs with
        | some (e, rest) => (multiline? quote escapes fuel rest).map fun r => (e :: r.1, r.2)
        | none => none
    else
      match lineEnd? (c :: cs) with
      | some rest => (multiline? quote escapes fuel rest).map fun r => ('\n' :: r.1, r.2)
      | none =>
        if isTextChar c then (multiline? quote escapes fuel cs).map fun r => (c :: r.1, r.2) else none

/-- The characters without a line end in front. -/
def dropLineEnd (cs : List Char) : List Char := (lineEnd? cs).getD cs

/-- A string of any kind. -/
def string? (cs : List Char) : Read String :=
  let fuel := cs.length + 1
  let text (r : Read (List Char)) : Read String := r.map fun r => (String.ofList r.1, r.2)
  match cs with
  | '"' :: '"' :: '"' :: cs => text (multiline? '"' true fuel (dropLineEnd cs))
  | '"' :: cs => text (basic? fuel cs)
  | '\'' :: '\'' :: '\'' :: cs => text (multiline? '\'' false fuel (dropLineEnd cs))
  | '\'' :: cs => text (literal? cs)
  | _ => none

/-! ## Integers -/

/-- Digits of which each but the first may have an underscore in front. -/
def digits (isDigit : Char → Bool) : List Char → List Char × List Char
  | [] => ([], [])
  | '_' :: c :: cs =>
    if isDigit c then
      let r := digits isDigit cs
      (c :: r.1, r.2)
    else ([], '_' :: c :: cs)
  | c :: cs =>
    if isDigit c then
      let r := digits isDigit cs
      (c :: r.1, r.2)
    else ([], c :: cs)

/-- The number in the base, written in at least one digit. -/
def based? (base : Nat) (cs : List Char) : Read Nat :=
  let isDigit (c : Char) : Bool := ((Text.hexDigit? c).map fun d => decide (d < base)).getD false
  match cs with
  | c :: _ =>
    if isDigit c then
      let (ds, rest) := digits isDigit cs
      (Text.extendDigits? base Text.hexDigit? 0 ds).map fun n => (n, rest)
    else none
  | [] => none

/-- A decimal number, which starts with a zero only if that is all. -/
def decimal? (cs : List Char) : Read Nat :=
  match cs with
  | '0' :: rest => some (0, rest)
  | cs => based? 10 cs

/-- An integer of 64 bits. -/
def integer? (cs : List Char) : Read Int :=
  let inRange (n : Int) (rest : List Char) : Read Int :=
    if -Int.pow 2 63 ≤ n ∧ n < Int.pow 2 63 then some (n, rest) else none
  let natural (r : Read Nat) : Read Int := r.bind fun r => inRange r.1 r.2
  match cs with
  | '0' :: 'x' :: cs => natural (based? 16 cs)
  | '0' :: 'o' :: cs => natural (based? 8 cs)
  | '0' :: 'b' :: cs => natural (based? 2 cs)
  | '+' :: cs => natural (decimal? cs)
  | '-' :: cs => (decimal? cs).bind fun r => inRange (-r.1) r.2
  | cs => natural (decimal? cs)

/-! ## Real numbers -/

/-- The sign of a number, if it has one: whether it is a minus sign. -/
def sign (cs : List Char) : Option Bool × List Char :=
  match cs with
  | '+' :: cs => (some false, cs)
  | '-' :: cs => (some true, cs)
  | _ => (none, cs)

/-- At least one decimal digit. -/
def someDigits? (cs : List Char) : Read (List Char) :=
  let (ds, rest) := digits (fun c => (Text.digit? c).isSome) cs
  if ds.isEmpty || cs.head? = some '_' then none else some (ds, rest)

/-- The digits after a point, if there is one. -/
def fraction? : List Char → Read (Option (List Char))
  | '.' :: cs => (someDigits? cs).map fun r => (some r.1, r.2)
  | cs => some (none, cs)

/-- The exponent, if there is one. -/
def exponent? : List Char → Read (Option Int)
  | [] => some (none, [])
  | c :: cs =>
    if c = 'e' ∨ c = 'E' then
      let (negative, cs) := sign cs
      (someDigits? cs).map fun r =>
        let n : Int := Number.digitsValue r.1
        (some (if negative = some true then -n else n), r.2)
    else some (none, c :: cs)

/-- The whole part of a number, which starts with a zero only if that is all. -/
def wholeDigits? (cs : List Char) : Read (List Char) :=
  match cs with
  | '0' :: rest => some (['0'], rest)
  | cs => someDigits? cs

/-- A number with a fraction or an exponent. -/
def scaled? (cs : List Char) : Option (Number.Extended × List Char) := do
  let (negative, rest) := sign cs
  let (whole, rest) ← wholeDigits? rest
  let (fraction, rest) ← fraction? rest
  let (exponent, rest) ← exponent? rest
  if fraction.isNone && exponent.isNone then none
  else
    let places := fraction.getD []
    let q := Number.ofDecimal (Number.digitsValue (whole ++ places)) (exponent.getD 0 - places.length)
    some (Number.binary64.round (if negative = some true then -q else q), rest)

/-- The word for an infinity or for what is not a number. -/
def special? (cs : List Char) : Read Number.Extended :=
  match sign cs with
  | (negative, 'i' :: 'n' :: 'f' :: rest) => some (.infinite (negative = some true), rest)
  | (_, 'n' :: 'a' :: 'n' :: rest) => some (.nan, rest)
  | _ => none

/-- A real number. One with digits may not be too large, but it may be too small. -/
def real? (cs : List Char) : Read Number.Extended :=
  match scaled? cs with
  | some (.infinite false, _) => none
  | some r => some r
  | none => special? cs

/-! ## Keys -/

/-- Whether a key without quotes may hold the character. -/
def isKeyChar (c : Char) : Bool := c.isAlphanum || c = '_' || c = '-'

/-- A key with quotes or without. -/
def key? (cs : List Char) : Read String :=
  let fuel := cs.length + 1
  match cs with
  | '"' :: cs => (basic? fuel cs).map fun r => (String.ofList r.1, r.2)
  | '\'' :: cs => (literal? cs).map fun r => (String.ofList r.1, r.2)
  | cs =>
    let k := cs.takeWhile isKeyChar
    if k.isEmpty then none else some (String.ofList k, cs.drop k.length)

/-- Keys with points between them. -/
def keys? : Nat → List Char → Read (List String)
  | 0, _ => none
  | fuel + 1, cs =>
    match key? (skipSpaces cs) with
    | none => none
    | some (k, rest) =>
      match skipSpaces rest with
      | '.' :: rest => (keys? fuel rest).map fun r => (k :: r.1, r.2)
      | rest => some ([k], rest)

/-- The greatest depth of lists and tables in each other, and the most keys of a path. -/
def mostDepth : Nat := 79

/-- The path of keys to a value. -/
def path? (fuel : Nat) (cs : List Char) : Read (List String) :=
  match keys? fuel cs with
  | some (path, rest) => if path.length ≤ mostDepth then some (path, rest) else none
  | none => none

end CaseHerald.Toml
