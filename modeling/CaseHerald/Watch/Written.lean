import CaseHerald.Case.Written
import CaseHerald.Watch.Schedule

/-!
# Plans, reports and counts as documents
-/
namespace CaseHerald

open Json (Value Document)

/-- A planned update as a document. -/
def PlannedUpdate.toJson (u : PlannedUpdate) : Value :=
  .object
    [("previous", u.previous.toJson), ("current", u.current.toJson),
     ("changes", .list (u.changes.map FieldChange.toJson))]

/-- A plan as a document, with what is said of it as a whole. -/
def Plan.toJson (p : Plan) : Value :=
  .object
    [("closures", .list (p.closures.map Snapshot.toJson)), ("sweeps", Document.texts p.sweeps),
     ("updates", .list (p.updates.map PlannedUpdate.toJson)),
     ("creations", .list (p.creations.map CaseRecord.toJson)),
     ("is_empty", .bool p.isEmpty), ("max_events", .nat p.mostEvents)]

/-- A requested comment as a document. -/
def CommentRequest.toJson (c : CommentRequest) : Value :=
  .object
    [("channel_id", .text c.channel), ("case_number", .text c.caseNumber), ("body", .text c.body),
     ("user_id", .text c.user), ("author_label", .text c.author), ("notify", .bool c.announced)]

namespace Watch

/-- A write to the store as a document, where `named` shows its token. -/
def StoreOp.toJson (named : Guid → Value) : StoreOp → Value
  | .write number guid => .list [.text "write", .text number, named guid]
  | .markClosed number guid => .list [.text "mark_closed", .text number, named guid]

/-- The fields of a report, where `named` shows a token. -/
def Report.fields (named : Guid → Value) (r : Report) : List (String × Value) :=
  [("events", .list (r.events.map Event.toJson)),
   ("created", Document.texts (r.created.map (·.number))),
   ("pending_deletions", Document.texts r.deletions),
   ("store_ops", .list (r.writes.map (StoreOp.toJson named)))]

/-- The counts of a cycle as a document. -/
def Summary.toJson (s : Summary) : Value :=
  .object
    [("live_cases", .nat s.live), ("events", .nat s.events), ("created", .nat s.created),
     ("queued_deletions", .nat s.queued), ("subscribed_emails", .nat s.subscribed),
     ("autosubscribe_failures", .nat s.subscribeFailures)]

/-- The counts of a watcher as a document. -/
def Metrics.toJson (m : Metrics) : Value :=
  .object
    [("cycles", .nat m.cycles), ("events_emitted", .nat m.events), ("cases_created", .nat m.created),
     ("deferred_cycles", .nat m.deferred), ("malformed_aborts", .nat m.malformed),
     ("deletions", .nat m.deletions), ("autosubscribe_failures", .nat m.subscribeFailures)]

end Watch

end CaseHerald
