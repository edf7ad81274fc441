import CaseHerald.Watch.AutoSubscribe
import CaseHerald.Watch.Reconcile

/-!
# Cycles

One cycle fetches the open cases, lists the store, carries out the plan, and subscribes to the new
cases. A case that is to be deleted waits in the watcher's queue until the queue is flushed. A cycle
that fails leaves the watcher as it was; a flush that fails keeps what it has not deleted.
-/
namespace CaseHerald.Watch

/-- What a watcher remembers between its cycles. -/
structure Watcher where
  /-- whether it subscribes to new cases -/
  subscribes : Bool
  /-- the cases that wait for their deletion, each once -/
  queue : List String
  lastReport : Option Report
  deriving DecidableEq

namespace Watcher

/-- A watcher before its first cycle. -/
def new (subscribes : Bool) : Watcher := ⟨subscribes, [], none⟩

/-- The queue with one more case, unless it is in it. -/
def enqueue (queue : List String) (number : String) : List String :=
  if queue.contains number then queue else queue ++ [number]

/-- The watcher after a cycle with the report. -/
def after (w : Watcher) (report : Report) : Watcher :=
  { w with queue := report.deletions.foldl enqueue w.queue, lastReport := some report }

end Watcher

/-- The counts of one cycle. -/
structure Summary where
  live : Nat
  events : Nat
  created : Nat
  queued : Nat
  subscribed : Nat
  subscribeFailures : Nat
  deriving DecidableEq, Repr

/-- The counts of addresses and failures with those of one more new case. -/
def Summary.addSubscribed (s : Summary) : Except Failure Subscribed → Summary
  | .ok r => { s with
      subscribed := s.subscribed + r.added.length
      subscribeFailures := s.subscribeFailures + r.failures }
  | .error _ => { s with subscribeFailures := s.subscribeFailures + 1 }

/-- Fetches, lists and carries out; answers the number of records fetched as well. -/
def poll : Step (Nat × Report) := do
  let live ← fetch
  let previous ← store .list
  return (live.length, ← reconcile previous live)

/-- Subscribes to the cases and counts what came of it. -/
def subscribeAll (s : Summary) (created : List CaseRecord) : Proc interface Summary :=
  created.foldlM (fun s r => do return s.addSubscribed (← (autoSubscribe r).outcome)) s

/-- One cycle of a watcher. -/
def cycle (w : Watcher) : Proc interface (Except Failure Summary × Watcher) := do
  match ← poll.outcome with
  | .error f => return (.error f, w)
  | .ok (live, report) =>
    let counts : Summary :=
      ⟨live, report.events.length, report.created.length, report.deletions.length, 0, 0⟩
    let summary ← if w.subscribes then subscribeAll counts report.created else pure counts
    return (.ok summary, w.after report)

/-- Deletes the cases in order up to the first failure. Answers the count of those deleted, or the
failure with the cases that are left. -/
def deleteAll (count : Nat) : List String → Proc interface (Except (Failure × List String) Nat)
  | [] => return .ok count
  | number :: rest => do
    match ← (store (.delete number)).outcome with
    | .ok () => deleteAll (count + 1) rest
    | .error f => return .error (f, number :: rest)

/-- Deletes the cases that wait for it; answers how many. -/
def flush (w : Watcher) : Proc interface (Except Failure Nat × Watcher) := do
  match ← deleteAll 0 w.queue with
  | .ok count => return (.ok count, { w with queue := [] })
  | .error (f, left) => return (.error f, { w with queue := left })

end CaseHerald.Watch
