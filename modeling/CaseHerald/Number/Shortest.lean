import CaseHerald.Number.Decimal

/-!
# The shortest decimal of a binary number

A binary number is told by the fewest decimal digits that read back as it. On each decimal grid only
its two neighbours have to be tried: if any point of the grid reads back, one of them does.
-/
namespace CaseHerald.Number

/-- The greatest power of ten that is not above the positive rational number. -/
def floorLogTen (q : Rat) : Int :=
  let length (n : Nat) : Int := (Nat.toDigits 10 n).length
  let e := length q.num.natAbs - length q.den
  if ofDecimal 1 e ≤ q then e else e - 1

/-- The distance of two rational numbers. -/
def distance (a b : Rat) : Rat := if a ≤ b then b - a else a - b

namespace Format

/-- Whether the decimal is rounded to the number. -/
def readsBack (f : Format) (q : Rat) (digits : Nat) (scale : Int) : Bool :=
  f.round (ofDecimal digits scale) = .finite q

/-- The neighbour of the number on the decimal grid that reads back as it, the nearer one of two. -/
def onGrid? (f : Format) (q : Rat) (scale : Int) : Option Nat :=
  let below := (q / ofDecimal 1 scale).floor.toNat
  let nearer := if distance q (ofDecimal below scale) ≤ distance q (ofDecimal (below + 1) scale)
    then [below, below + 1] else [below + 1, below]
  nearer.find? fun digits => f.readsBack q digits scale

/-- The coarsest grid, from `count` digits on, that has a decimal for the number. -/
def shortestFrom (f : Format) (q : Rat) (top : Int) : (fuel count : Nat) → Option (Nat × Int)
  | 0, _ => none
  | fuel + 1, count =>
    let scale := top - count
    match f.onGrid? q scale with
    | some digits => some (digits, scale)
    | none => shortestFrom f q top fuel (count + 1)

/-- The most digits that a number of the formats takes. -/
def mostDigits : Nat := 17

/-- The digits and the power of ten of the shortest decimal of a positive number of the format. A
power of ten may be found as ten on the grid below it. -/
def shortest (f : Format) (q : Rat) : Nat × Int :=
  match f.shortestFrom q (floorLogTen q) mostDigits 0 with
  | some (10, scale) => (1, scale + 1)
  | some found => found
  | none => (0, 0)

end Format

end CaseHerald.Number
