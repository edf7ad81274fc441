import CaseHerald.Rehearsal.World

/-!
# Rehearsing

The things that can be done in a rehearsal: one watcher runs a cycle or a flush, carries out a plan
made from an older list, or follows its schedule up to a call for an end; the store is opened anew.
Each leaves its mark in the `World`.
-/
namespace CaseHerald.Rehearsal

open Store (Memory Volume)
open Watch (Watcher Report Summary Metrics Schedule Subscribed)

namespace World

/-- The announcements of a watcher since they were last taken. -/
def takeEvents (w : World) (name : String) : List Event × World :=
  let b := w.booth name
  (b.events, w.withBooth name { b with events := [] })

/-- The cases that wait for their deletion by a watcher. -/
def queue (w : World) (name : String) : List String :=
  match (w.booth name).watcher with
  | some watcher => watcher.queue
  | none => []

/-- Adds a fetch to the script of a watcher. -/
def push (w : World) (name : String) (fetch : Except SourceFailure (List CaseRecord)) : World :=
  let b := w.booth name
  w.withBooth name { b with script := b.script ++ [fetch] }

/-- Keeps what a watcher remembers. -/
def keep (w : World) (name : String) (watcher : Watcher) (metrics : Metrics) : World :=
  w.withBooth name { w.booth name with watcher := some watcher, metrics }

/-- Runs a program of a watcher that has not been used up. -/
def withWatcher {α : Type} (w : World) (name : String)
    (p : Watcher → Metrics → Proc Watch.interface (α × Watcher × Metrics)) :
    Except Crash (Option α) × World :=
  match (w.booth name).watcher with
  | none => (.ok none, w)
  | some watcher =>
    match w.run name (p watcher (w.booth name).metrics) with
    | (.ok (a, watcher, metrics), w) => (.ok (some a), w.keep name watcher metrics)
    | (.error crash, w) => (.error crash, w)

/-- One cycle of a watcher; answers its last report as well. -/
def cycle (w : World) (name : String) :
    Except Crash (Option (Except Failure (Summary × Option Report))) × World :=
  w.withWatcher name fun watcher metrics => do
    let (r, watcher) ← Watch.cycle watcher
    return (r.map fun s => (s, watcher.lastReport), watcher, metrics)

/-- One flush of a watcher. -/
def flush (w : World) (name : String) : Except Crash (Option (Except Failure Nat)) × World :=
  w.withWatcher name fun watcher metrics => do
    let (r, watcher) ← Watch.flush watcher
    return (r, watcher, metrics)

/-- A watcher carries out what an older list and some records call for. -/
def reconcile (w : World) (name : String) (previous : List Snapshot) (live : List CaseRecord) :
    Except Crash (Except Failure Report) × World :=
  w.run name (Watch.reconcile previous live).outcome

/-- A watcher runs once. -/
def runOnce (w : World) (name : String) (schedule : Schedule) :
    Except Crash (Option (Except Failure Summary)) × World :=
  w.withWatcher name fun watcher metrics => Watch.runOnce schedule watcher metrics

/-- The most iterations up to the end. -/
def mostRounds (schedule : Schedule) (span : Span) : Nat :=
  let shortest := (schedule.poll.shorter schedule.defer).wholeMillis
  span.wholeMillis / max 1 shortest + 2

/-- A watcher follows its schedule until an end is called for after the span of time. It is used up
by that. -/
def watch (w : World) (name : String) (schedule : Schedule) (span : Span) :
    Except Crash (Option Metrics) × World :=
  match (w.booth name).watcher with
  | none => (.ok none, w)
  | some watcher =>
    let w := { w with line := ⟨.quiet, [(w.now + span, .tells true)]⟩ }
    let (r, w) := w.run name (Watch.watch schedule (mostRounds schedule span) watcher .zero)
    let w := { w.withBooth name { w.booth name with watcher := none } with line := .quiet }
    (r.map fun p => some p.2, w)

/-- Subscribes to a case as if it were new. -/
def autoSubscribe (w : World) (r : CaseRecord) : Except Crash (Except Failure Subscribed) × World :=
  w.run "" (Watch.autoSubscribe r).outcome

/-- Where a case lies in the resource tree. -/
def ancestry (w : World) (r : CaseRecord) : Except Crash (Except HierarchyFailure Ancestry) × World :=
  w.run "" (Watch.ancestry r).outcome

end World

/-! ## Opening the store -/

/-- A failure to open a store, or the crash over a name that it cannot have. -/
abbrev Opened := Except Crash (Except StoreFailure Backing)

/-- The volume with the store of the namespace. -/
def openSpace (v : Except VolumeFailure Volume) (space : String) : Opened :=
  match v with
  | .error f => .ok (.error f.toStore)
  | .ok v =>
    if space.contains '\x00' then .error .nameWithNul
    else match v.addStore space with
      | .error f => .ok (.error f.toStore)
      | .ok v => .ok (.ok (.volume v space))

/-- A volume of the size with the store of the namespace. -/
def openVolume (space : String) (megabytes : Nat) : Opened :=
  openSpace (Volume.create megabytes) space

namespace World

/-- Opens another namespace of the volume, or an empty store in memory. A failure leaves the store as
it is. -/
def openStore (w : World) (space : String) (megabytes : Nat) :
    Except Crash (Except StoreFailure Unit) × World :=
  match w.backing with
  | .memory _ => (.ok (.ok ()), { w with backing := .memory .empty })
  | .volume v _ | .closed v _ =>
    match openSpace (v.openAgain megabytes) space with
    | .error crash => (.error crash, w)
    | .ok (.error f) => (.ok (.error f), w)
    | .ok (.ok backing) => (.ok (.ok ()), { w with backing })

/-- Closes the store and opens it again. After a failure no store is open, and every step fails with
`closed`. -/
def reopenStore (w : World) (space : String) (closed : StoreFailure) :
    Except Crash (Except StoreFailure Unit) × World :=
  match w.backing with
  | .memory _ => (.ok (.ok ()), { w with backing := .memory .empty })
  | .volume v _ | .closed v _ =>
    match w.openStore space v.megabytes with
    | (.ok (.error f), w) => (.ok (.error f), { w with backing := .closed v closed })
    | r => r

/-- The numbers of snapshots and markers in a store in memory. -/
def counts (w : World) : Option (Nat × Nat) :=
  match w.backing with
  | .memory m => some (m.snapshots.size, m.markers.size)
  | _ => none

/-- Lets cases be written and deleted in a store in memory, or not. -/
def setWritable (w : World) (writable : Bool) : World :=
  match w.backing with
  | .memory m => { w with backing := .memory { m with writable } }
  | _ => w

/-- The snapshot of a case in a store in memory. -/
def snapshot? (w : World) (number : String) : Option Snapshot :=
  match w.backing with
  | .memory m => m.snapshots.find? (Text.octets number)
  | _ => none

end World

end CaseHerald.Rehearsal
