/-!
# Binary floating-point numbers

A binary format has as its numbers the multiples of powers of two with a bounded count of bits.
Every operation is the exact one on rational numbers followed by rounding to the nearest number of
the format, where a tie goes to the even neighbour. Signed zeros are not told apart.
-/
namespace CaseHerald.Number

/-- A rational number, an infinity, or the result of an operation that has none. -/
inductive Extended
  | nan
  | infinite (negative : Bool)
  | finite (q : Rat)
  deriving DecidableEq

/-- The size of a format: the bits of a significand, and the least and greatest power of two that
may scale it. -/
structure Format where
  bits : Nat
  least : Int
  greatest : Int

/-- The format of thirty-two bits. -/
def binary32 : Format := ⟨24, -149, 104⟩

/-- The format of sixty-four bits. -/
def binary64 : Format := ⟨53, -1074, 971⟩

/-- The integer nearest to the quotient, the even one of two. -/
def roundQuotient (num den : Nat) : Nat :=
  let q := num / den
  let twice := 2 * (num % den)
  if twice < den then q
  else if den < twice then q + 1
  else if q % 2 = 0 then q else q + 1

/-- The power of two, as a rational number. -/
def powerOfTwo (e : Int) : Rat :=
  if 0 ≤ e then (Nat.pow 2 e.toNat : Rat) else 1 / (Nat.pow 2 (-e).toNat : Rat)

/-- The nearest integer to a rational number that is not negative, the even one of two. -/
def roundToNat (q : Rat) : Nat := roundQuotient q.num.natAbs q.den

/-- The greatest power of two that is not above the positive rational number. -/
def floorLog (q : Rat) : Int :=
  let e : Int := (q.num.natAbs.log2 : Int) - (q.den.log2 : Int)
  if powerOfTwo e ≤ q then e else e - 1

namespace Format

/-- The number of the format that is nearest to a positive rational number. -/
def roundPositive (f : Format) (q : Rat) : Extended :=
  let scale := max (floorLog q - (f.bits - 1)) f.least
  let rounded := (roundToNat (q / powerOfTwo scale) : Rat) * powerOfTwo scale
  if (Nat.pow 2 f.bits : Rat) * powerOfTwo f.greatest ≤ rounded then .infinite false
  else .finite rounded

/-- The number of the format that is nearest to the rational number. -/
def round (f : Format) (q : Rat) : Extended :=
  if q = 0 then .finite 0
  else if 0 < q then f.roundPositive q
  else match f.roundPositive (-q) with
    | .finite r => .finite (-r)
    | .infinite _ => .infinite true
    | .nan => .nan

/-- A number of another format, rounded to this one. -/
def convert (f : Format) : Extended → Extended
  | .finite q => f.round q
  | x => x

/-- The product of two numbers. -/
def mul (f : Format) : Extended → Extended → Extended
  | .nan, _ | _, .nan => .nan
  | .finite a, .finite b => f.round (a * b)
  | .finite a, .infinite s | .infinite s, .finite a =>
    if a = 0 then .nan else .infinite (s != decide (a < 0))
  | .infinite s, .infinite t => .infinite (s != t)

/-- The power of a number by repeated squaring, from the low bits of the exponent up. -/
def powerFrom (f : Format) : Nat → Extended → Extended → Nat → Extended
  | 0, acc, _, _ => acc
  | fuel + 1, acc, square, n =>
    let acc := if n % 2 = 1 then f.mul acc square else acc
    if n / 2 = 0 then acc else powerFrom f fuel acc (f.mul square square) (n / 2)

/-- The power of a number. -/
def power (f : Format) (x : Extended) (n : Nat) : Extended :=
  f.powerFrom (n + 1) (.finite 1) x n

end Format

/-- The number itself, or one where it is smaller or not a number. -/
def Extended.atLeastOne : Extended → Extended
  | .finite q => .finite (if q ≤ 1 then 1 else q)
  | .infinite false => .infinite false
  | _ => .finite 1

end CaseHerald.Number
