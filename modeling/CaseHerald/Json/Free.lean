import CaseHerald.Json.Reader
import CaseHerald.Number.Scaled
import CaseHerald.Number.Shortest

/-!
# Documents of no particular shape

A document that is taken as it comes has to hold texts throughout, be nested less than 128 levels
deep, and hold only numbers that a 64-bit integer or a finite binary number can represent. Every
number but an integer of 64 bits becomes a binary number. Of two fields with one name the later
counts.
-/
namespace CaseHerald.Json

open Number (binary64)

namespace Numeral

/-- Whether the number is an integer that 64 bits can represent. A negative zero is none. -/
def isShort (n : Numeral) : Bool :=
  n.scale.isNone &&
    (if n.negative then n.digits ≠ 0 && n.digits ≤ Nat.pow 2 63 else n.digits ≤ Text.most64)

/-- The binary number that the magnitude is read as, if it is in range. -/
def toBinary? (n : Numeral) : Option Rat := binary64.ofScaled? n.digits (n.scale.getD 0)

/-- A binary number in its shortest decimal form. An integer below `10 ^ 16` has one place. -/
def ofBinary (negative : Bool) (magnitude : Rat) : Numeral :=
  if magnitude = 0 then ⟨negative, 0, some (-1)⟩
  else
    let (digits, scale) := binary64.shortest magnitude
    let places : Int := (Nat.toDigits 10 digits).length + scale
    if 0 ≤ scale ∧ places ≤ 16 then ⟨negative, digits * Nat.pow 10 (scale.toNat + 1), some (-1)⟩
    else ⟨negative, digits, some scale⟩

/-- The number as it is represented, if it can be. -/
def represented? (n : Numeral) : Option Numeral :=
  if n.isShort then some n else n.toBinary?.map (ofBinary n.negative)

end Numeral

mutual

/-- The document as a value, if it is nested no deeper than the depth. -/
def free? (depth : Nat) : Raw → Option Value
  | .null => some .null
  | .bool b => some (.bool b)
  | .number n => n.represented?.map .number
  | .text s => s.map .text
  | .list items =>
    match depth with
    | 0 => none
    | d + 1 => (freeItems? d items).map .list
  | .object fields =>
    match depth with
    | 0 => none
    | d + 1 => (freeFields? d fields).map .object

/-- The items as values. -/
def freeItems? (depth : Nat) : List Raw → Option (List Value)
  | [] => some []
  | item :: rest =>
    match free? depth item, freeItems? depth rest with
    | some v, some vs => some (v :: vs)
    | _, _ => none

/-- The fields as values. -/
def freeFields? (depth : Nat) : List (Option String × Raw) → Option (List (String × Value))
  | [] => some []
  | (name, item) :: rest =>
    match name, free? depth item, freeFields? depth rest with
    | some n, some v, some vs => some (if vs.any (·.1 == n) then vs else (n, v) :: vs)
    | _, _, _ => none

end

/-- The greatest depth of nesting. -/
def mostNesting : Nat := 127

/-- The value that the characters are a document of. -/
def readFree? (s : Text.Gapped) : Option Value := (read? s).bind (free? mostNesting)

end CaseHerald.Json
