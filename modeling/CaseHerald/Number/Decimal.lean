import CaseHerald.Number.Binary
import CaseHerald.Text.Numeral

/-!
# Real numbers in decimal notation

The value of a decimal notation as an exact rational number, and the reading of such a notation from
text: digits with or without a point and an exponent, or one of the words for an infinity and for
what is not a number.
-/
namespace CaseHerald.Number

/-- The number `digits · 10 ^ scale`. A number above `10 ^ 400` counts as that, and one below
`10 ^ -400` as zero: every binary format rounds them to an infinity and to zero. -/
def ofDecimal (digits : Nat) (scale : Int) : Rat :=
  let length : Int := (Nat.toDigits 10 digits).length
  if digits = 0 ∨ length + scale < -400 then 0
  else if 400 < length + scale then (Nat.pow 10 400 : Rat)
  else if 0 ≤ scale then ((digits * Nat.pow 10 scale.toNat : Nat) : Rat)
  else (digits : Rat) / (Nat.pow 10 (-scale).toNat : Rat)

/-- The digits at the front, and what follows them. -/
def spanDigits (cs : List Char) : List Char × List Char :=
  cs.span fun c => (Text.digit? c).isSome

/-- The number that the decimal digits are; none is zero. -/
def digitsValue (cs : List Char) : Nat :=
  cs.foldl (fun n c => n * 10 + (Text.digit? c).getD 0) 0

/-- The exponent that the rest of a notation is, where nothing is zero. -/
def exponent? : List Char → Option Int
  | [] => some 0
  | c :: rest =>
    if c = 'e' ∨ c = 'E' then
      let (negative, digits) : Bool × List Char := match rest with
        | '-' :: ds => (true, ds)
        | '+' :: ds => (false, ds)
        | ds => (false, ds)
      (Text.natural? digits).map fun n => if negative then -(n : Int) else n
    else none

/-- The rational number of a notation without a sign. There is a digit on at least one side of the
point. -/
def magnitude? (cs : List Char) : Option Rat :=
  let (whole, rest) := spanDigits cs
  let (fraction, rest) := match rest with
    | '.' :: rest => spanDigits rest
    | rest => ([], rest)
  if whole.isEmpty && fraction.isEmpty then none
  else (exponent? rest).map fun e => ofDecimal (digitsValue (whole ++ fraction)) (e - fraction.length)

/-- The letters of the text in lower case, as far as they are ASCII. -/
def lowered (cs : List Char) : List Char := cs.map Char.toLower

/-- The number of the binary format that the notation stands for. -/
def real? (f : Format) (s : String) : Option Extended :=
  let (negative, cs) : Bool × List Char := match s.toList with
    | '-' :: cs => (true, cs)
    | '+' :: cs => (false, cs)
    | cs => (false, cs)
  let word := String.ofList (lowered cs)
  if word = "inf" ∨ word = "infinity" then some (.infinite negative)
  else if word = "nan" then some .nan
  else (magnitude? cs).map fun q => f.round (if negative then -q else q)

end CaseHerald.Number
