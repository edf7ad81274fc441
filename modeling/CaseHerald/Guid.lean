import CaseHerald.Text.Numeral

/-!
# Tokens of writes

Every write to the store carries a token of 128 bits of its own. It is written as five groups of
hexadecimal digits; it is read from that form, bare or wrapped as a name, or from its 32 digits
alone, in letters of either case.
-/
namespace CaseHerald

/-- A token of 128 bits. -/
structure Guid where
  bits : BitVec 128
  deriving DecidableEq

namespace Guid

/-- The token with a number. -/
def ofNat (n : Nat) : Guid := ⟨BitVec.ofNat 128 n⟩

/-- The token of a time in milliseconds and a random number: the time comes first, so that tokens are
in the order of their times. -/
def ofTime (millis random : Nat) : Guid :=
  let high := random / Nat.pow 2 62 % Nat.pow 2 12
  ofNat (millis % Nat.pow 2 48 * Nat.pow 2 80 + 7 * Nat.pow 2 76 + high * Nat.pow 2 64 +
    2 * Nat.pow 2 62 + random % Nat.pow 2 62)

/-- The `count` low hexadecimal digits of a number. -/
def hexDigits (count n : Nat) : List Char :=
  (List.range count).map fun i => Nat.digitChar (n / Nat.pow 16 (count - 1 - i) % 16)

/-- The written form: groups of 8, 4, 4, 4 and 12 digits. -/
def write (g : Guid) : List Char :=
  let ds := hexDigits 32 g.bits.toNat
  ds.take 8 ++ '-' :: (ds.drop 8).take 4 ++ '-' :: (ds.drop 12).take 4 ++
    '-' :: (ds.drop 16).take 4 ++ '-' :: ds.drop 20

/-- The written form as a text. -/
def render (g : Guid) : String := String.ofList g.write

/-- The token of 32 hexadecimal digits. -/
def ofDigits? (ds : List Char) : Option Guid :=
  if ds.length = 32 then (Text.extendDigits? 16 Text.hexDigit? 0 ds).map ofNat else none

/-- The digits of the grouped form. -/
def ungroup? (cs : List Char) : Option (List Char) :=
  let isHyphen (i : Nat) : Bool := cs[i]? == some '-'
  if cs.length = 36 ∧ isHyphen 8 ∧ isHyphen 13 ∧ isHyphen 18 ∧ isHyphen 23 then
    some (cs.take 8 ++ (cs.drop 9).take 4 ++ (cs.drop 14).take 4 ++ (cs.drop 19).take 4 ++ cs.drop 24)
  else none

/-- The grouped form inside braces or after the name of its kind, in letters of either case. -/
def unwrap (cs : List Char) : List Char :=
  let name := ['u', 'r', 'n', ':', 'u', 'u', 'i', 'd', ':']
  if cs.length = 45 ∧ (cs.take 9).map Char.toLower = name then cs.drop 9
  else if cs.length = 38 ∧ cs.head? = some '\x7b' ∧ cs.getLast? = some '\x7d' then
    (cs.drop 1).dropLast
  else cs

/-- The token that the text stands for. -/
def read? (s : String) : Option Guid :=
  let cs := s.toList
  if cs.length = 32 then ofDigits? cs
  else (ungroup? (unwrap cs)).bind ofDigits?

end Guid

end CaseHerald
