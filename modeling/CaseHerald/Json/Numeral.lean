import CaseHerald.Text.Numeral

/-!
# Numbers of a JSON document

A number is kept as it is written: its sign, its digits, and, if it has a fraction or an exponent,
the power of ten that scales them. Nothing is rounded.
-/
namespace CaseHerald.Json

/-- The number `±digits`, or `±digits · 10 ^ scale` if there is a scale. -/
structure Numeral where
  negative : Bool
  digits : Nat
  scale : Option Int
  deriving DecidableEq, Repr

namespace Numeral

/-- A natural number. -/
def ofNat (n : Nat) : Numeral := ⟨false, n, none⟩

/-- The integer, unless the number is written with a fraction or an exponent. -/
def toInt? (n : Numeral) : Option Int :=
  match n.scale with
  | none => some (if n.negative then -n.digits else n.digits)
  | some _ => none

/-- The natural number, if it is written as one. -/
def toNat? (n : Numeral) : Option Nat :=
  match n.toInt? with
  | some (.ofNat k) => some k
  | _ => none

/-- The sign and digits of an integer. -/
def integerText (negative : Bool) (n : Nat) : List Char :=
  (if negative then ['-'] else []) ++ Nat.toDigits 10 n

/-- An exponent. -/
def exponentText (e : Int) : List Char := 'e' :: integerText (decide (e < 0)) e.natAbs

/-- Digits scaled by a power of ten: with a point where it falls among the digits or up to five places
before them, otherwise with an exponent. -/
def scaledText (digits : Nat) (scale : Int) : List Char :=
  let ds := Nat.toDigits 10 digits
  let point : Int := ds.length + scale
  if scale < 0 ∧ 0 < point ∧ point ≤ 16 then
    ds.take point.toNat ++ '.' :: ds.drop point.toNat
  else if scale < 0 ∧ -5 < point ∧ point ≤ 0 then
    '0' :: '.' :: (List.replicate point.natAbs '0' ++ ds)
  else if ds.length ≤ 1 then ds ++ exponentText scale
  else ds.take 1 ++ '.' :: (ds.drop 1 ++ exponentText (point - 1))

/-- The written form: an integer, or a number with a point or an exponent if there is a scale. -/
def write (n : Numeral) : List Char :=
  match n.scale with
  | none => integerText n.negative n.digits
  | some e => (if n.negative then ['-'] else []) ++ scaledText n.digits e

end Numeral

end CaseHerald.Json
