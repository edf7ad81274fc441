import CaseHerald.Plan
import CaseHerald.Watch.Interface

/-!
# Carrying out a plan

A plan is carried out step by step: closures, then updates, then creations. Every write is followed
by the question whose write of this version was the first; only the first writer announces. A failure
of the store ends the work, and what has been announced by then stays announced.
-/
namespace CaseHerald.Watch

/-- A write to the store in the course of a plan, with its token. -/
inductive StoreOp
  | write (number : String) (guid : Guid)
  | markClosed (number : String) (guid : Guid)
  deriving DecidableEq

/-- What has been done in the course of a plan. -/
structure Report where
  /-- what this watcher announced, in order -/
  events : List Event
  created : List CaseRecord
  /-- the cases to be deleted after the next pause -/
  deletions : List String
  writes : List StoreOp
  deriving DecidableEq

namespace Report

/-- The report of nothing. -/
def empty : Report := ⟨[], [], [], []⟩

/-- The report with one more announcement. -/
def addEvent (r : Report) (e : Event) : Report := { r with events := r.events ++ [e] }

/-- The report with one more write. -/
def addWrite (r : Report) (op : StoreOp) : Report := { r with writes := r.writes ++ [op] }

/-- The report with more cases to delete. -/
def addDeletions (r : Report) (numbers : List String) : Report :=
  { r with deletions := r.deletions ++ numbers }

/-- The report with one more case created. -/
def addCreated (r : Report) (record : CaseRecord) : Report :=
  { r with created := r.created ++ [record] }

end Report

/-- Whether the write with the token was the first of its version. -/
def isFirstWriter (number : String) (updated : Instant) (guid : Guid) : Step Bool := do
  match ← store (.firstWriter number updated) with
  | some first => return first.guid = guid
  | none => return false

/-- Sends an announcement and reports it. -/
def emit (report : Report) (e : Event) : Step Report := do
  announce e
  return report.addEvent e

/-- Marks a case as closed, announces that, and reports the case as one to delete. -/
def close (report : Report) (s : Snapshot) : Step Report := do
  let number := s.number
  let marked := s.record.mark
  let guid ← store (.write marked)
  let report := report.addWrite (.markClosed number guid)
  let mine ← isFirstWriter number marked.updated guid
  let report ← if mine then emit report (.closed number) else pure report
  return report.addDeletions [number]

/-- Stores a case anew and announces its changes, all of them or none. -/
def update (report : Report) (u : PlannedUpdate) : Step Report := do
  let number := u.current.number
  let guid ← store (.write u.current)
  let report := report.addWrite (.write number guid)
  if u.changes.isEmpty then return report
  if ← isFirstWriter number u.current.updated guid then
    u.changes.foldlM (fun r c => emit r (c.event number)) report
  else return report

/-- Stores a case that is new. -/
def create (report : Report) (r : CaseRecord) : Step Report := do
  let guid ← store (.write r)
  return (report.addWrite (.write r.number guid)).addCreated r

/-- Carries out a plan. -/
def carryOut (p : Plan) : Step Report := do
  let report ← p.closures.foldlM close Report.empty
  let report ← p.updates.foldlM update (report.addDeletions p.sweeps)
  p.creations.foldlM create report

/-- Carries out what the stored snapshots and the fetched records call for. -/
def reconcile (previous : List Snapshot) (live : List CaseRecord) : Step Report :=
  carryOut (.of previous live)

end CaseHerald.Watch
