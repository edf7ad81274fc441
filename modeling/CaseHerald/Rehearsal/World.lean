import CaseHerald.Rehearsal.Desk
import CaseHerald.Rehearsal.Fault
import CaseHerald.Store.Memory
import CaseHerald.Store.Volume
import CaseHerald.Watch.Line
import CaseHerald.Watch.Schedule

/-!
# Surroundings for rehearsals

A `World` is everything that watchers meet when they are rehearsed: one store with its faults, one
resource tree, one support desk, a clock that moves only when somebody sleeps, and for each watcher a
scripted case service and a record of what it announces. `World.handler` meets the requests of one
watcher.
-/
namespace CaseHerald.Rehearsal

open Store (Query Memory Volume)

/-! ## The store -/

/-- The store behind the faults. -/
inductive Backing
  | memory (m : Memory)
  /-- the store of a namespace on a volume -/
  | volume (v : Volume) (space : String)
  /-- a volume of which no store is open, and the failure of each step on it -/
  | closed (v : Volume) (f : StoreFailure)

/-- One step on the store, where `fresh` is the token of a write. -/
def Backing.answer (fresh : Guid) (q : Query) : Backing → Except StoreFailure q.Answer × Backing
  | .memory m =>
    let (a, m) := m.answer fresh q
    (a, .memory m)
  | .volume v space =>
    let (a, v) := v.answer fresh space q
    (a, .volume v space)
  | .closed v f => (.error f, .closed v f)

/-! ## One watcher's part -/

/-- A watcher, the case service that it polls, and what it has announced. -/
structure Booth where
  /-- the fetches to come -/
  script : List (Except SourceFailure (List CaseRecord))
  /-- the last fetch, which is repeated when there is none to come -/
  last : Except SourceFailure (List CaseRecord)
  fetches : Nat
  /-- the announcements since the record was last looked at -/
  events : List Event
  sinkFails : Bool
  /-- the watcher, unless it has been used up -/
  watcher : Option Watch.Watcher
  metrics : Watch.Metrics

namespace Booth

/-- The part of a watcher before its first cycle. -/
def new (subscribes sinkFails : Bool) : Booth :=
  { script := [], last := .ok [], fetches := 0, events := [], sinkFails
    watcher := some (.new subscribes), metrics := .zero }

/-- The next fetch. -/
def fetch (b : Booth) : Except SourceFailure (List CaseRecord) × Booth :=
  match b.script with
  | [] => (b.last, { b with fetches := b.fetches + 1 })
  | next :: rest => (next, { b with script := rest, last := next, fetches := b.fetches + 1 })

/-- Records an announcement, which may be reported as failed all the same. -/
def announce (b : Booth) (e : Event) : Except NotifyFailure Unit × Booth :=
  (if b.sinkFails then .error (.delivery "recording" "configured to fail") else .ok (),
    { b with events := b.events ++ [e] })

end Booth

/-! ## The world -/

/-- Everything that watchers meet. -/
structure World where
  backing : Backing
  faults : List Fault
  /-- the number of the next write's token -/
  next : Nat
  tree : Tree
  lookups : List String
  desk : Desk
  booths : List (String × Booth)
  /-- the time on the clock -/
  now : Span
  /-- the line on which an end is called for -/
  line : Watch.Line

namespace World

/-- A world with the store and nothing else. -/
def new (backing : Backing) : World :=
  { backing, faults := [], next := 1, tree := .empty, lookups := [], desk := .empty, booths := []
    now := ⟨0⟩, line := .quiet }

/-- A step on the store without faults. -/
def bare (w : World) (q : Query) : Except StoreFailure q.Answer × World :=
  let (a, backing) := w.backing.answer (.ofNat w.next) q
  let wrote : Bool := match q, a with
    | .write _, .ok _ => true
    | _, _ => false
  (a, { w with backing, next := if wrote then w.next + 1 else w.next })

/-- A step on the store under a fault's effect. -/
def underEffect (w : World) : Effect → (q : Query) → Except StoreFailure q.Answer × World
  | .fail f, _ => (.error f, w)
  | _, .firstWriter .. => (.ok none, w)
  | .raced, .write r => ((w.bare (.write r)).2).bare (.write r)
  | _, q => w.bare q

/-- A step on the store. -/
def ask (w : World) (q : Query) : Except StoreFailure q.Answer × World :=
  match Call.ofQuery? q with
  | none => w.bare q
  | some call =>
    let (effect, faults) := takeFault call w.faults
    let w := { w with faults }
    match effect with
    | none => w.bare q
    | some e => w.underEffect e q

/-- A step on the store leaves everything else as it was. -/
theorem exists_ask (w : World) (q : Query) :
    ∃ backing faults next, (w.ask q).2 = { w with backing, faults, next } := by
  unfold ask
  split
  · exact ⟨_, _, _, rfl⟩
  · simp only
    split
    · exact ⟨_, _, _, rfl⟩
    · unfold underEffect
      split <;> exact ⟨_, _, _, rfl⟩

/-- The part of a watcher. -/
def booth (w : World) (name : String) : Booth :=
  (valueOf? name w.booths).getD (.new false false)

/-- The world with another part of a watcher. -/
def withBooth (w : World) (name : String) (b : Booth) : World :=
  { w with booths := (name, b) :: w.booths.filter fun e => e.1 != name }

/-- The world some time later. -/
def later (w : World) (span : Span) : World := { w with now := w.now + span }

/-- The time of a pause passes, unless an end is called for in it. -/
def pause (w : World) (span : Span) : Bool × World :=
  let (called, now, line) := w.line.wait w.now span
  (called, { w with now, line })

/-- Meets the requests of the watcher with the name. -/
def handler (name : String) : Proc.Handler Watch.interface World
  | .fetch, w =>
    let (r, b) := (w.booth name).fetch
    (r, w.withBooth name b)
  | .store q, w => w.ask q
  | .announce e, w =>
    let (r, b) := (w.booth name).announce e
    (r, w.withBooth name b)
  | .find l, w =>
    (w.tree.find l, if w.tree.logs l then { w with lookups := w.lookups ++ [l.resource] } else w)
  | .subscribe channel number emails _, w =>
    let (r, desk) := w.desk.subscribe channel number emails
    (r, { w with desk })
  | .comment c, w =>
    let (r, desk) := w.desk.comment c
    (r, { w with desk })
  | .sleep span, w => ((), w.later span)
  | .pause span, w => w.pause span
  | .isStopping, w => ((w.line.upTo w.now).signal.value, { w with line := w.line.upTo w.now })

/-- The result of a watcher's program. -/
def run {α : Type} (name : String) (p : Proc Watch.interface α) (w : World) :
    Except Crash α × World :=
  p.run (handler name) w

end World

end CaseHerald.Rehearsal
