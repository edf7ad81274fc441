import CaseHerald.Case.Record
import CaseHerald.Event

/-!
# What a cycle has to do

`Plan.of` compares the stored snapshots with the records of the open cases. Each case number is
judged by the first of its snapshots, and by the last of its open records where it is stored. A stored
case that is not open is closed, or swept away if it has been announced as closed; a stored open case
is updated if its time of update has moved; an open case that is not stored is created.
-/
namespace CaseHerald

/-- The first element with each key, in order. -/
def firstOfEach {α : Type} (key : α → String) : List α → List α
  | [] => []
  | a :: rest => a :: (firstOfEach key rest).filter fun b => key b ≠ key a

/-- The announced differences between two records of a case, in the order comment, priority,
escalation. A comment counts if the comments differ and the newest is by the support staff. -/
def classify (previous current : CaseRecord) : List FieldChange :=
  let comment :=
    if previous.comments = current.comments then []
    else match current.newest? with
      | some c => if c.author.isSupport then [FieldChange.comment c.body] else []
      | none => []
  let priority :=
    if previous.priority = current.priority then []
    else [FieldChange.priority previous.priority current.priority]
  let escalation :=
    if previous.escalated = current.escalated then [] else [FieldChange.escalation current.escalated]
  comment ++ priority ++ escalation

/-- A stored case whose time of update has moved. It is stored anew even if there is no change to
announce. -/
structure PlannedUpdate where
  previous : Snapshot
  current : CaseRecord
  changes : List FieldChange
  deriving DecidableEq

/-- Everything that one cycle has to do. -/
structure Plan where
  /-- stored cases that are not open and not announced as closed -/
  closures : List Snapshot
  /-- numbers of stored cases that are not open and announced as closed -/
  sweeps : List String
  updates : List PlannedUpdate
  /-- open cases that are not stored -/
  creations : List CaseRecord
  deriving DecidableEq

namespace Plan

/-- The last open record of the case. -/
def lastActive? (live : List CaseRecord) (number : String) : Option CaseRecord :=
  (live.filter (·.isActive)).reverse.find? fun r => r.number = number

/-- The update of a stored case that is open. -/
def update? (live : List CaseRecord) (s : Snapshot) : Option PlannedUpdate :=
  match lastActive? live s.number with
  | some r => if r.updated = s.record.updated then none else some ⟨s, r, classify s.record r⟩
  | none => none

/-- Whether the case has an open record. -/
def isLive (live : List CaseRecord) (number : String) : Bool :=
  live.any fun r => r.isActive && r.number = number

/-- Whether the case has a snapshot. -/
def isStored (previous : List Snapshot) (number : String) : Bool :=
  previous.any fun s => s.number = number

/-- The plan for stored snapshots and fetched records. -/
def of (previous : List Snapshot) (live : List CaseRecord) : Plan :=
  let stored := firstOfEach Snapshot.number previous
  let gone := stored.filter fun s => !isLive live s.number
  { closures := gone.filter fun s => !s.isMarked
    sweeps := (gone.filter fun s => s.isMarked).map Snapshot.number
    updates := stored.filterMap (update? live)
    creations := firstOfEach CaseRecord.number
      (live.filter fun r => r.isActive && !isStored previous r.number) }

/-- Whether there is nothing to do. -/
def isEmpty (p : Plan) : Bool :=
  p.closures.isEmpty && p.sweeps.isEmpty && p.updates.isEmpty && p.creations.isEmpty

/-- The number of announcements if every one is this watcher's to make. -/
def mostEvents (p : Plan) : Nat :=
  p.closures.length + (p.updates.flatMap (·.changes)).length

end Plan

end CaseHerald
