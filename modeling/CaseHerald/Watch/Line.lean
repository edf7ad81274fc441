import CaseHerald.Span

/-!
# The line on which an end is called for

A watcher holds one end of a line. What is said at the other end replaces what was said before, and the
watcher can tell whether it has looked since; the other end may also hang up. A look in a pause that
finds a call for an end ends the pause early. After any other look the watcher waits for the next notice
or for what is left of the pause, whichever comes first.
-/
namespace CaseHerald.Watch

/-- What may happen at the other end of a line. -/
inductive Notice
  /-- whether an end is called for -/
  | tells (stop : Bool)
  | hangsUp
  deriving DecidableEq, Repr

/-- What a line shows. -/
structure Signal where
  /-- what was said last -/
  value : Bool
  /-- whether something has been said since the last look -/
  unseen : Bool
  hungUp : Bool
  deriving DecidableEq, Repr

namespace Signal

/-- The signal of a line on which nothing has been said. -/
def quiet : Signal := ⟨false, false, false⟩

/-- The signal after a notice. -/
def hear (s : Signal) : Notice → Signal
  | .tells stop => { s with value := stop, unseen := true }
  | .hangsUp => { s with hungUp := true }

/-- The signal after a look. -/
def seen (s : Signal) : Signal := { s with unseen := false }

/-- Whether a look in a pause finds a call for an end. -/
def calls (s : Signal) : Bool := s.hungUp || (s.unseen && s.value)

end Signal

/-- A line with what is to come on it: notices in order, each no sooner than at its time. Those that come
between two looks count as the last of them. -/
structure Line where
  signal : Signal
  coming : List (Span × Notice)
  deriving DecidableEq, Repr

namespace Line

/-- A line on which nothing is to come. -/
def quiet : Line := ⟨.quiet, []⟩

/-- The notices that come before a time. -/
def upcoming (l : Line) (time : Span) : List (Span × Notice) :=
  l.coming.takeWhile fun n => n.1.nanos < time.nanos

/-- The line after the notices that come before a time. -/
def upTo (l : Line) (time : Span) : Line :=
  ⟨(l.upcoming time).foldl (fun s n => s.hear n.2) l.signal,
    l.coming.dropWhile fun n => n.1.nanos < time.nanos⟩

end Line

/-- A pause from `now` to the limit: whether it is ended by a call, the time at its end, and the line
then. -/
def Signal.await (limit : Span) : Span → List (Span × Notice) → Signal → Bool × Span × Line
  | now, [], s => if s.calls then (true, now, ⟨s.seen, []⟩) else (false, limit, ⟨s.seen, []⟩)
  | now, (time, notice) :: rest, s =>
    if s.calls then (true, now, ⟨s.seen, (time, notice) :: rest⟩)
    else if time.nanos < limit.nanos then
      Signal.await limit ⟨max now.nanos time.nanos⟩ rest (s.seen.hear notice)
    else (false, limit, ⟨s.seen, (time, notice) :: rest⟩)

/-- A pause of a span from `now`: whether it is ended by a call, the time at its end, and the line
then. -/
def Line.wait (l : Line) (now span : Span) : Bool × Span × Line :=
  let l := l.upTo now
  l.signal.await (now + span) now l.coming

end CaseHerald.Watch
