import CaseHerald.Case.Field
import CaseHerald.Event
import CaseHerald.Text.Lines

/-!
# Announcements in words

The text that people read for each kind of announcement. A comment is quoted line by line.
-/
namespace CaseHerald

/-- The text with a mark of quotation before each line. -/
def quoteLines (body : String) : String :=
  String.intercalate "\n" ((Text.lines body).map fun line => "> " ++ line)

/-- The label of the priority that an announcement carries, or what it carries if that is none. -/
def priorityText (payload : String) : String :=
  match Priority.read payload with
  | .ok p => p.label
  | .error _ => payload

/-- The announcement in words. -/
def Event.text (e : Event) : String :=
  let subject := "Case " ++ e.caseNumber
  match e.kind with
  | .closed => subject ++ " has been closed."
  | .comment => subject ++ " has a new comment from support:\n" ++ quoteLines e.payload
  | .priority => subject ++ " priority changed to " ++ priorityText e.payload ++ "."
  | .escalated => subject ++ " has been escalated."
  | .deEscalated => subject ++ " has been de-escalated."

end CaseHerald
