import CaseHerald.Instant.Basic
import CaseHerald.Text.Blank
import CaseHerald.Text.Numeral

/-!
# Reading an instant

Two readings share their parts. The strict one is that of RFC 3339: fixed widths and no blanks. The
lenient one takes blanks between the parts, fewer digits, a year with a sign, and `UTC` for the
offset. An offset is less than a day.
-/
namespace CaseHerald.Instant

/-- Why a text is no instant. -/
inductive Fault
  | outOfRange
  | invalid
  | tooShort
  | trailing
  deriving DecidableEq, Repr

/-- The fault in words. -/
def Fault.message : Fault → String
  | .outOfRange => "input is out of range"
  | .invalid => "input contains invalid characters"
  | .tooShort => "premature end of input"
  | .trailing => "trailing input"

/-- A reader of a part of a text. -/
abbrev Scan (α : Type) := StateT (List Char) (Except Fault) α

namespace Scan

/-- The characters that are left. -/
def rest : Scan (List Char) := get

/-- Whether the UTF-8 encoding of the characters has at least `n` octets. -/
def holdsOctets (n : Nat) (cs : List Char) : Bool := n ≤ (String.ofList cs).utf8ByteSize

/-- At least `least` and at most `most` digits, or any number of them. -/
def digits (least : Nat) (most : Option Nat) : Scan (List Nat) := do
  let cs ← rest
  if holdsOctets least cs then
    let front := match most with
      | some n => cs.take n
      | none => cs
    let ds := (front.map Text.digit?).takeWhile Option.isSome
    if ds.length < least then throw .invalid
    else
      set (cs.drop ds.length)
      return ds.filterMap id
  else throw .tooShort

/-- A number of some digits. -/
def number (least : Nat) (most : Option Nat) : Scan Nat := do
  return (← digits least most).foldl (fun n d => n * 10 + d) 0

/-- The number if it lies between two bounds. -/
def ranged (low high : Nat) (n : Nat) : Scan Nat :=
  if low ≤ n ∧ n ≤ high then pure n else throw .outOfRange

/-- One of the given characters. -/
def oneOf (options : List Char) : Scan Unit := do
  match ← rest with
  | [] => throw .tooShort
  | c :: cs => if options.contains c then set cs else throw .invalid

/-- The given character. -/
def char (c : Char) : Scan Unit := oneOf [c]

/-- Blanks, if there are any. -/
def blanks : Scan Unit := modify Text.dropBlanks

/-- The nanoseconds of a fraction, if a point follows. Digits beyond the ninth are passed over. -/
def fraction : Scan Nat := do
  match ← rest with
  | '.' :: cs =>
    set cs
    let ds ← digits 1 (some 9)
    modify fun cs => cs.dropWhile fun c => (Text.digit? c).isSome
    return ds.foldl (fun n d => n * 10 + d) 0 * Nat.pow 10 (9 - ds.length)
  | _ => return 0

/-- The sign of an offset: whether it is a minus. -/
def offsetSign : Scan Bool := do
  match ← rest with
  | [] => throw .tooShort
  | c :: cs =>
    set cs
    if c = '+' then return false
    else if c = '-' ∨ c = '\u2212' then return true
    else throw .invalid

/-- The offset from UTC in seconds. Its minutes are below 60. -/
def offset (separator : Scan Unit) : Scan Int := do
  match ← rest with
  | 'Z' :: cs | 'z' :: cs =>
    set cs
    return 0
  | _ =>
    let negative ← offsetSign
    let hours ← number 2 (some 2)
    separator
    let minutes ← number 2 (some 2) >>= ranged 0 59
    let seconds : Int := hours * 3600 + minutes * 60
    return if negative then -seconds else seconds

/-- The end of the text. -/
def finish : Scan Unit := do
  if (← rest).isEmpty then pure () else throw .trailing

end Scan

/-- The instant of a date, a time of day and an offset from UTC. The offset is less than a day. -/
def assemble (date : Civil.Date) (hour minute second nanos : Nat) (offset : Int) :
    Except Fault Instant :=
  if date.Valid ∧ firstYear ≤ date.year ∧ date.year ≤ lastYear ∧ offset.natAbs < 86400 then
    let leap := second = 60
    let second := if leap then 59 else second
    let onClock := date.dayNumber * secondsInDay + (hour * 3600 + minute * 60 + second : Nat)
    match of? (onClock - offset) (if leap then nanos + nanosInSecond else nanos) with
    | some t => .ok t
    | none => .error .outOfRange
  else .error .outOfRange

/-- The date and time parts of a reading. -/
structure Parts where
  date : Civil.Date
  hour : Nat
  minute : Nat
  second : Nat
  nanos : Nat
  offset : Int

/-- The instant of the parts. -/
def Parts.instant (p : Parts) : Except Fault Instant :=
  assemble p.date p.hour p.minute p.second p.nanos p.offset

/-- The number of octets of a date and a time to the second. -/
def wholePart : Nat := 19

/-- The parts of a text by RFC 3339. The date is checked before the time is read. -/
def strictParts : Scan Parts := do
  if !Scan.holdsOctets wholePart (← Scan.rest) then throw .tooShort
  let year ← Scan.number 4 (some 4)
  Scan.char '-'
  let month ← Scan.number 2 (some 2)
  Scan.char '-'
  let day ← Scan.number 2 (some 2)
  let date : Civil.Date := ⟨year, month, day⟩
  if ¬date.Valid then throw .outOfRange
  Scan.oneOf ['t', 'T', ' ']
  let hour ← Scan.number 2 (some 2)
  Scan.char ':'
  let minute ← Scan.number 2 (some 2)
  Scan.char ':'
  let second ← Scan.number 2 (some 2)
  let nanos ← Scan.fraction
  if 23 < hour ∨ 59 < minute ∨ 60 < second then throw .outOfRange
  let offset ← Scan.offset (Scan.char ':')
  return ⟨date, hour, minute, second, nanos, offset⟩

/-- A year of up to four digits, or of any number of them after a sign. -/
def lenientYear : Scan Int := do
  Scan.blanks
  match ← Scan.rest with
  | '-' :: cs =>
    set cs
    return -(← Scan.number 1 none)
  | '+' :: cs =>
    set cs
    return (← Scan.number 1 none)
  | _ => return (← Scan.number 1 (some 4))

/-- A number of one or two digits after blanks. -/
def lenientNumber (low high : Nat) : Scan Nat := do
  Scan.blanks
  let n ← Scan.number 1 (some 2)
  Scan.ranged low high n

/-- A character after blanks. -/
def lenientChar (c : Char) : Scan Unit := do
  Scan.blanks
  Scan.char c

/-- An offset, or `UTC` in letters of either case. -/
def lenientOffset : Scan Int := do
  let cs ← Scan.rest
  if (cs.take 3).map Char.toUpper = ['U', 'T', 'C'] then
    set (cs.drop 3)
    return 0
  else
    Scan.offset (modify fun cs => cs.dropWhile fun c => c = ':' || Text.isBlank c)

/-- The parts of a text in the lenient form. -/
def lenientParts : Scan Parts := do
  let year ← lenientYear
  lenientChar '-'
  let month ← lenientNumber 1 12
  lenientChar '-'
  let day ← lenientNumber 1 31
  Scan.oneOf ['t', 'T', ' ']
  let hour ← lenientNumber 0 23
  lenientChar ':'
  let minute ← lenientNumber 0 59
  lenientChar ':'
  let second ← lenientNumber 0 60
  let nanos ← Scan.fraction
  Scan.blanks
  let offset ← lenientOffset
  Scan.blanks
  return ⟨⟨year, month, day⟩, hour, minute, second, nanos, offset⟩

/-- The instant of a text, whose parts the reader finds. -/
def readWith (parts : Scan Parts) (s : String) : Except Fault Instant := do
  let (p, _) ← (do let p ← parts; Scan.finish; return p : Scan Parts).run s.toList
  p.instant

/-- The instant of a text in the form of RFC 3339. -/
def readStrict (s : String) : Except Fault Instant := readWith strictParts s

/-- The instant of a text in the lenient form. -/
def readLenient? (s : String) : Option Instant := (readWith lenientParts s).toOption

end CaseHerald.Instant
