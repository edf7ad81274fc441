import CaseHerald.Instant.Basic
import CaseHerald.Text.Numeral

/-!
# Instants as text

A timestamp is written as its date and its time of day in UTC. A year outside `0` to `9999` has a
sign. A leap second is written as the second after it, so that at the end of a minute it is second 60.
The fraction has three, six or nine digits as needed, or always nine where texts of instants are
compared.
-/
namespace CaseHerald.Timestamp

open Text (padded)

/-- A year with four digits, or with a sign and at least four. -/
def yearText (y : Int) : List Char :=
  if 0 ≤ y ∧ y ≤ 9999 then padded 4 y.toNat
  else (if y < 0 then '-' else '+') :: padded 4 y.natAbs

/-- The date and the time to the second. -/
def secondsText (t : Timestamp) : List Char :=
  let date := Civil.Date.ofDayNumber (t.seconds / secondsInDay)
  let time := (t.seconds % secondsInDay).toNat
  let second := time % 60 + t.nanos / nanosInSecond
  yearText date.year ++ '-' :: padded 2 date.month ++ '-' :: padded 2 date.day ++
    'T' :: padded 2 (time / 3600) ++ ':' :: padded 2 (time / 60 % 60) ++ ':' :: padded 2 second

/-- The fraction of a second with as many digits as needed. -/
def fractionText (nanos : Nat) : List Char :=
  if nanos = 0 then []
  else if nanos % 1000000 = 0 then '.' :: padded 3 (nanos / 1000000)
  else if nanos % 1000 = 0 then '.' :: padded 6 (nanos / 1000)
  else '.' :: padded 9 nanos

/-- The written form of a timestamp. -/
def write (t : Timestamp) : List Char :=
  t.secondsText ++ fractionText (t.nanos % nanosInSecond) ++ ['Z']

/-- The written form with nine digits of the fraction. -/
def writeFull (t : Timestamp) : List Char :=
  t.secondsText ++ '.' :: padded 9 (t.nanos % nanosInSecond) ++ ['Z']

/-- The written form as a text. -/
def render (t : Timestamp) : String := String.ofList t.write

end CaseHerald.Timestamp
