import CaseHerald.Number.Decimal

/-!
# Reading a decimal by scaling

A decimal is read into a binary format in few steps: the digits that fit into 64 bits are rounded, and
the result is multiplied or divided by a rounded power of ten, which rounds once more. The last bits
may differ from those of the nearest number; a decimal that leaves the range on the way has no value.
-/
namespace CaseHerald.Number

/-- The digits that fit into 64 bits, from the front, and the number of those cut off. -/
def leading (digits : Nat) : Nat × Nat :=
  if _h : digits ≤ Text.most64 then (digits, 0)
  else ((leading (digits / 10)).1, (leading (digits / 10)).2 + 1)
termination_by digits
decreasing_by all_goals omega

/-- The greatest power of ten that scales in one step. -/
def mostPower : Nat := 308

namespace Format

/-- The power of ten as a number of the format. -/
def tenTo (f : Format) (e : Nat) : Rat :=
  match f.round (ofDecimal 1 e) with
  | .finite p => p
  | _ => 1

/-- The number times a power of ten, unless it leaves the range. -/
def scaleBy? (f : Format) (x : Rat) (e : Int) : Option Rat :=
  let finite : Extended → Option Rat
    | .finite q => some q
    | _ => none
  if e.natAbs ≤ mostPower then
    finite (f.round (if 0 ≤ e then x * f.tenTo e.natAbs else x / f.tenTo e.natAbs))
  else if x = 0 then some 0
  else if 0 ≤ e then none
  else
    match finite (f.round (x / f.tenTo mostPower)) with
    | some x => scaleBy? f x (e + mostPower)
    | none => none
termination_by e.natAbs
decreasing_by simp only [mostPower] at *; omega

/-- The number of the format that the decimal `digits · 10 ^ scale` is read as. -/
def ofScaled? (f : Format) (digits : Nat) (scale : Int) : Option Rat :=
  let (front, cut) := leading digits
  match f.round front with
  | .finite x => f.scaleBy? x (scale + cut)
  | _ => none

end Format

end CaseHerald.Number
