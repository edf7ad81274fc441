import CaseHerald.Number.Binary

/-!
# Spans of time

A span of time is a count of nanoseconds. Scaling one by a factor goes through numbers of
sixty-four bits, as seconds; the result is none if it is not a number of seconds below `2 ^ 64`.
-/
namespace CaseHerald

open Number (Extended Format binary64)

/-- A span of time in nanoseconds. -/
structure Span where
  nanos : Nat
  deriving DecidableEq, Repr

namespace Span

instance : Add Span := ⟨fun a b => ⟨a.nanos + b.nanos⟩⟩

@[simp] theorem nanos_add (a b : Span) : (a + b).nanos = a.nanos + b.nanos := rfl

/-- Nanoseconds in a second. -/
def nanosPerSecond : Nat := 1000000000

/-- A number of whole seconds. -/
def seconds (n : Nat) : Span := ⟨n * nanosPerSecond⟩

/-- A number of whole milliseconds. -/
def millis (n : Nat) : Span := ⟨n * 1000000⟩

/-- The whole milliseconds of the span. -/
def wholeMillis (s : Span) : Nat := s.nanos / 1000000

/-- The shorter of two spans. -/
def shorter (a b : Span) : Span := if a.nanos ≤ b.nanos then a else b

/-- The span of a number of seconds, to the nearest nanosecond, the even one of two. -/
def ofSeconds? : Extended → Option Span
  | .finite q =>
    if q < 0 then none
    else
      let nanos := Number.roundToNat (q * (nanosPerSecond : Rat))
      if nanos < Nat.pow 2 64 * nanosPerSecond then some ⟨nanos⟩ else none
  | _ => none

/-- The finite number, or zero. -/
def finitePart : Extended → Rat
  | .finite q => q
  | _ => 0

/-- The span in seconds, as the sum of its rounded whole seconds and its rounded fraction. -/
def inSeconds (f : Format) (s : Span) : Extended :=
  let whole := finitePart (f.round (s.nanos / nanosPerSecond : Nat))
  let rest := finitePart (f.round (s.nanos % nanosPerSecond : Nat))
  let unit := finitePart (f.round (nanosPerSecond : Nat))
  f.round (whole + finitePart (f.round (rest / unit)))

/-- The span times a factor. -/
def scale? (s : Span) (factor : Extended) : Option Span :=
  ofSeconds? (binary64.mul factor (s.inSeconds binary64))

end Span

end CaseHerald
