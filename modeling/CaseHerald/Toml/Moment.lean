import CaseHerald.Instant.Civil
import CaseHerald.Toml.Lexical

/-!
# Dates and times of a TOML document

A moment is a date, a time of day, or both with a space or a letter between them; with both there may
be an offset. The date has to be one of the calendar, and a minute may have a leap second.
-/
namespace CaseHerald.Toml

/-- A number of two digits from `low` to `high`. -/
def twoDigits? (low high : Nat) : List Char → Read Nat
  | a :: b :: cs =>
    match Text.natural? [a, b] with
    | some n => if low ≤ n ∧ n ≤ high then some (n, cs) else none
    | none => none
  | _ => none

/-- The characters after a character. -/
def after? (c : Char) : List Char → Option (List Char)
  | d :: cs => if d = c then some cs else none
  | [] => none

/-- The characters after a date. -/
def afterDate? (cs : List Char) : Option (List Char) := do
  let year ← Text.natural? (cs.take 4)
  let rest ← after? '-' (cs.drop 4)
  let (month, rest) ← twoDigits? 1 12 rest
  let rest ← after? '-' rest
  let (_, rest) ← twoDigits? 1 (Civil.daysInMonth year month) rest
  return rest

/-- The characters after the places of a second, if there are any. -/
def afterPlaces (cs : List Char) : List Char :=
  match cs with
  | '.' :: rest =>
    let (places, rest) := rest.span fun c => (Text.digit? c).isSome
    if places.isEmpty then cs else rest
  | _ => cs

/-- The characters after a time of day. -/
def afterTime? (cs : List Char) : Option (List Char) := do
  let (_, rest) ← twoDigits? 0 23 cs
  let rest ← after? ':' rest
  let (_, rest) ← twoDigits? 0 59 rest
  let rest ← after? ':' rest
  let (_, rest) ← twoDigits? 0 60 rest
  return afterPlaces rest

/-- The characters after an offset. -/
def afterOffset? : List Char → Option (List Char)
  | [] => none
  | c :: cs =>
    if c = 'Z' ∨ c = 'z' then some cs
    else if c = '+' ∨ c = '-' then do
      let (_, rest) ← twoDigits? 0 23 cs
      let rest ← after? ':' rest
      let (_, rest) ← twoDigits? 0 59 rest
      return rest
    else none

/-- The characters after the time that follows a date, if there is one. -/
def afterTimeOfDate (cs : List Char) : List Char :=
  match cs with
  | c :: rest =>
    if c = 'T' ∨ c = 't' ∨ c = ' ' then
      match afterTime? rest with
      | some rest => (afterOffset? rest).getD rest
      | none => cs
    else cs
  | [] => cs

/-- The characters after a moment. -/
def afterMoment? (cs : List Char) : Option (List Char) :=
  match afterDate? cs with
  | some rest => some (afterTimeOfDate rest)
  | none => afterTime? cs

/-- A moment, as it is written. -/
def moment? (cs : List Char) : Read String :=
  (afterMoment? cs).map fun rest => (String.ofList (cs.take (cs.length - rest.length)), rest)

end CaseHerald.Toml
