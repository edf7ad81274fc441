import CaseHerald.Case.Name
import CaseHerald.Failure
import CaseHerald.Instant.Reader
import CaseHerald.Json.Reader
import CaseHerald.Support.Payload

/-!
# From payloads to records

The border between what the case service sends and what is known to make sense. The checks are made in
a fixed order, and the first one that fails is the cause of a malformed record.
-/
namespace CaseHerald.Support

/-- What does not make sense about a case. -/
abbrev Normalized (α : Type) := Except SourceFailure α

/-- The instant of a field, which has to be there. -/
def instantOf (number field : String) : Option String → Normalized Instant
  | none => .error (.malformed (some number) ("missing " ++ field))
  | some raw =>
    match Instant.readStrict raw with
    | .ok t => .ok t
    | .error fault =>
      .error (.malformed (some number)
        ("invalid " ++ field ++ " " ++ Text.quoted raw ++ ": " ++ fault.message))

/-- A field that has to fit the model of a case. -/
def fieldOf {α : Type} (number : String) : Except FieldFault α → Normalized α
  | .ok a => .ok a
  | .error fault => .error (.malformed (some number) fault.message)

/-- The comment of a payload. -/
def CommentPayload.normalize (number : String) (c : CommentPayload) : Normalized Comment := do
  let a := c.creator.getD .unknown
  let created ← instantOf number "comment createTime" c.createTime
  return { author := ⟨a.displayName, a.email, a.isSupport⟩, body := c.body, created }

/-- The priority of a payload, or the severity where it has none. -/
def CasePayload.priorityText (number : String) (c : CasePayload) : Normalized String :=
  match c.priority.or c.severity with
  | some raw => .ok raw
  | none => .error (.malformed (some number) "missing priority")

/-- The record of a case's payload and those of its comments. -/
def CasePayload.normalize (c : CasePayload) (comments : List CommentPayload) :
    Normalized CaseRecord := do
  let (parent, number) ← match CaseName.split? c.name with
    | some parts => Except.ok parts
    | none => .error (.malformed none ("unrecognized case name " ++ Text.quoted c.name))
  let state ← fieldOf number (CaseState.ofReport c.state)
  let raw ← c.priorityText number
  let priority ← fieldOf number (Priority.read raw)
  let updated ← instantOf number "updateTime" c.updateTime
  let comments ← comments.mapM (CommentPayload.normalize number)
  return { number, parent, displayName := c.displayName, state, priority
           escalated := c.escalated, updated, comments := newestFirst comments }

/-- The value of a JSON text, or the failure that names what it is the text of. -/
def decodePayload {α : Type} (what : String) (d : Json.Decoder α) (s : Text.Gapped) : Normalized α :=
  match (Json.read? s).bind d with
  | some a => .ok a
  | none => .error (.malformed none (what ++ ": not a document of its kind"))

/-- The record of the JSON texts of a case and its comments, where no text stands for no comment. -/
def normalizeTexts (caseText commentText : Text.Gapped) : Normalized CaseRecord := do
  let c ← decodePayload "case payload" CasePayload.ofJson? caseText
  let comments ← if commentText.isEmpty then pure []
    else decodePayload "comment payload" (.list CommentPayload.ofJson?) commentText
  c.normalize comments

end CaseHerald.Support
