import CaseHerald.Watch.Cycle

/-!
# The schedule

A watcher runs a cycle, pauses for the polling interval, and flushes its queue; after a cycle that
fails it pauses for the shorter deferral and flushes nothing. So a case is deleted no sooner than one
polling interval after it was queued. A call for an end is heeded in every pause.
-/
namespace CaseHerald.Watch

/-- The spans between cycles. -/
structure Schedule where
  /-- after a cycle that succeeds -/
  poll : Span
  /-- after a cycle that fails -/
  defer : Span
  deriving DecidableEq, Repr

/-- The counts of a watcher over its cycles. -/
structure Metrics where
  cycles : Nat
  events : Nat
  created : Nat
  deferred : Nat
  /-- the deferred cycles whose cause is a malformed record -/
  malformed : Nat
  deletions : Nat
  subscribeFailures : Nat
  deriving DecidableEq, Repr

namespace Metrics

/-- The counts before the first cycle. -/
def zero : Metrics := ⟨0, 0, 0, 0, 0, 0, 0⟩

/-- The counts with those of one more cycle. -/
def addCycle (m : Metrics) : Except Failure Summary → Metrics
  | .ok s => { m with
      cycles := m.cycles + 1
      events := m.events + s.events
      created := m.created + s.created
      subscribeFailures := m.subscribeFailures + s.subscribeFailures }
  | .error f => { m with
      deferred := m.deferred + 1
      malformed := m.malformed + if f.isMalformed then 1 else 0 }

/-- The counts with those of one more flush, of which only a whole one counts. -/
def addFlush (m : Metrics) : Except Failure Nat → Metrics
  | .ok n => { m with deletions := m.deletions + n }
  | .error _ => m

end Metrics

/-- One cycle, the polling interval if anything is queued, and a flush. A failure ends it. -/
def runOnce (schedule : Schedule) (w : Watcher) (m : Metrics) :
    Proc interface (Except Failure Summary × Watcher × Metrics) := do
  let (result, w) ← cycle w
  let m := m.addCycle result
  match result with
  | .error f => return (.error f, w, m)
  | .ok summary =>
    if !w.queue.isEmpty then sleep schedule.poll
    let (flushed, w) ← flush w
    let m := m.addFlush flushed
    match flushed with
    | .error f => return (.error f, w, m)
    | .ok _ => return (.ok summary, w, m)

/-- One cycle, its pause, and the flush if the cycle succeeded. Answers whether an end was called for
in the pause. -/
def iterate (schedule : Schedule) (w : Watcher) (m : Metrics) :
    Proc interface (Bool × Watcher × Metrics) := do
  let (result, w) ← cycle w
  let m := m.addCycle result
  match result with
  | .error _ =>
    let stop ← pause schedule.defer
    return (stop, w, m)
  | .ok _ =>
    if ← pause schedule.poll then return (true, w, m)
    let (flushed, w) ← flush w
    return (false, w, m.addFlush flushed)

/-- At most `rounds` iterations, up to the one in whose pause an end is called for. -/
def watch (schedule : Schedule) : Nat → Watcher → Metrics → Proc interface (Watcher × Metrics)
  | 0, w, m => return (w, m)
  | rounds + 1, w, m => do
    if ← isStopping then return (w, m)
    let (stop, w, m) ← iterate schedule w m
    if stop then return (w, m) else watch schedule rounds w m

end CaseHerald.Watch
