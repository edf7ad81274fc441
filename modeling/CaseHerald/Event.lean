import CaseHerald.Case.Field

/-!
# Announcements

What is announced about a case: that it has been closed, or that a field has changed. The opening of
a case is not announced.
-/
namespace CaseHerald

/-- The kind of an announcement. -/
inductive EventKind
  | closed
  | comment
  | priority
  | escalated
  | deEscalated
  deriving DecidableEq, Repr

namespace EventKind

/-- The name of the kind. -/
def name : EventKind → String
  | .closed => "closed"
  | .comment => "comment"
  | .priority => "priority"
  | .escalated => "escalated"
  | .deEscalated => "de-escalated"

/-- All kinds with their names. -/
def named : List (String × EventKind) :=
  [closed, comment, priority, escalated, deEscalated].map fun k => (k.name, k)

end EventKind

/-- One announcement about a case. -/
structure Event where
  caseNumber : String
  kind : EventKind
  payload : String
  deriving DecidableEq, Repr

/-- The announcement that a case has been closed. -/
def Event.closed (caseNumber : String) : Event := ⟨caseNumber, .closed, ""⟩

/-- A difference between two records of a case that is announced. -/
inductive FieldChange
  /-- the newest comment is a new one by the support staff -/
  | comment (body : String)
  | priority (before after : Priority)
  | escalation (escalated : Bool)
  deriving DecidableEq, Repr

namespace FieldChange

/-- The kind of announcement that tells the change. -/
def kind : FieldChange → EventKind
  | .comment _ => .comment
  | .priority .. => .priority
  | .escalation true => .escalated
  | .escalation false => .deEscalated

/-- What the announcement carries: the comment, the new priority's ordinal, or a truth value. -/
def payload : FieldChange → String
  | .comment body => body
  | .priority _ after => after.digit
  | .escalation true => "true"
  | .escalation false => "false"

/-- The announcement of the change. -/
def event (c : FieldChange) (caseNumber : String) : Event := ⟨caseNumber, c.kind, c.payload⟩

end FieldChange

end CaseHerald
