import CaseHerald.Case.Record
import CaseHerald.Event
import CaseHerald.Instant.Reader
import CaseHerald.Instant.Text
import CaseHerald.Json.Reader
import CaseHerald.Json.Record
import CaseHerald.Json.Writer
import CaseHerald.Resource

/-!
# Written forms of the domain's values

Every value that is stored or handed on is written as a JSON document by `toJson` and read back by
`ofJson?`. Writing is plain; reading also takes fields with defaults, records as lists, the older
spellings of a priority, lenient instants and every form of a token.
-/
namespace CaseHerald

open Json (Value Raw Document Record Decoder)

/-- The value of a JSON text whose document is decoded. -/
def ofJsonText? {α : Type} (d : Decoder α) (s : Text.Gapped) : Option α := (Json.read? s).bind d

/-- Times that are written as timestamps. -/
class HasTimestamp (τ : Type) where
  timestamp : τ → Timestamp

instance : HasTimestamp Timestamp := ⟨id⟩
instance : HasTimestamp Instant := ⟨Instant.toTimestamp⟩

/-- The timestamp as a document. -/
def Timestamp.toJson (t : Timestamp) : Value := .text t.render

/-- The instant of a document. -/
def Instant.ofJson? : Decoder Instant := Decoder.via Instant.readLenient?

namespace Guid

/-- The token as a document. -/
def toJson (g : Guid) : Value := .text g.render

/-- The token of a document. -/
def ofJson? : Decoder Guid := Decoder.via read?

end Guid

namespace CaseState

/-- The state as a document. -/
def toJson (s : CaseState) : Value := .text s.name

/-- The state of a document. -/
def ofJson? : Decoder CaseState := Decoder.choice named

end CaseState

namespace Priority

/-- The priority as a document. -/
def toJson (p : Priority) : Value := .text p.label

/-- The priority of a document. -/
def ofJson? : Decoder Priority := Decoder.via fun s => (read s).toOption

end Priority

namespace Author

/-- The author as a document. -/
def toJson (a : Author) : Value :=
  .object [("display_name", .text a.displayName), ("email", Document.textOrNull a.email),
    ("google_support", .bool a.isSupport)]

/-- The author of a document. -/
def ofJson? : Decoder Author := fun raw => do
  let r ← Record.read? ["display_name", "email", "google_support"] false raw
  let displayName ← r.need "display_name" .text
  let email ← r.orElse "email" (.optional .text) none
  let isSupport ← r.orElse "google_support" .bool false
  return { displayName, email, isSupport }

end Author

namespace Comment

/-- The comment as a document. -/
def toJson {τ : Type} [HasTimestamp τ] (c : Comment τ) : Value :=
  .object [("creator", c.author.toJson), ("body", .text c.body),
    ("create_time", (HasTimestamp.timestamp c.created).toJson)]

/-- The comment of a document. -/
def ofJson? : Decoder Comment := fun raw => do
  let r ← Record.read? ["creator", "body", "create_time"] false raw
  let author ← r.need "creator" Author.ofJson?
  let body ← r.need "body" .text
  let created ← r.need "create_time" Instant.ofJson?
  return { author, body, created }

end Comment

namespace CaseRecord

/-- The record as a document. -/
def toJson {τ : Type} [HasTimestamp τ] (r : CaseRecord τ) : Value :=
  .object [("case_number", .text r.number), ("parent", .text r.parent),
    ("display_name", .text r.displayName), ("state", r.state.toJson),
    ("priority", r.priority.toJson), ("escalated", .bool r.escalated),
    ("update_time", (HasTimestamp.timestamp r.updated).toJson),
    ("comment_list", .list (r.comments.map Comment.toJson))]

/-- The record of a document. -/
def ofJson? : Decoder CaseRecord := fun raw => do
  let r ← Record.read? ["case_number", "parent", "display_name", "state", "priority", "escalated",
    "update_time", "comment_list"] false raw
  let number ← r.need "case_number" .text
  let parent ← r.orElse "parent" .text ""
  let displayName ← r.orElse "display_name" .text ""
  let state ← r.need "state" CaseState.ofJson?
  let priority ← r.need "priority" Priority.ofJson?
  let escalated ← r.need "escalated" .bool
  let updated ← r.need "update_time" Instant.ofJson?
  let comments ← r.orElse "comment_list" (.list Comment.ofJson?) []
  return { number, parent, displayName, state, priority, escalated, updated, comments }

end CaseRecord

namespace Snapshot

/-- The snapshot as a document. -/
def toJson {τ : Type} [HasTimestamp τ] (s : Snapshot τ) : Value :=
  .object [("record", s.record.toJson), ("guid", s.guid.toJson)]

/-- The snapshot of a document. -/
def ofJson? : Decoder Snapshot := fun raw => do
  let r ← Record.read? ["record", "guid"] false raw
  let record ← r.need "record" CaseRecord.ofJson?
  let guid ← r.need "guid" Guid.ofJson?
  return { record, guid }

end Snapshot

namespace Marker

/-- The marker as a document. -/
def toJson {τ : Type} [HasTimestamp τ] (m : Marker τ) : Value :=
  .object [("guid", m.guid.toJson), ("record", m.record.toJson)]

/-- The marker of a document. -/
def ofJson? : Decoder Marker := fun raw => do
  let r ← Record.read? ["guid", "record"] false raw
  let guid ← r.need "guid" Guid.ofJson?
  let record ← r.need "record" CaseRecord.ofJson?
  return { guid, record }

end Marker

namespace Asset

/-- The asset as a document. -/
def toJson (a : Asset) : Value :=
  .object [("channel_id", .text a.channel), ("asset_kind", .text a.kind.name),
    ("asset_id", .text a.id), ("cc_list", Document.texts a.ccList), ("user_id", .text a.user)]

/-- The asset of a document. -/
def ofJson? : Decoder Asset := fun raw => do
  let r ← Record.read? ["channel_id", "asset_kind", "asset_id", "cc_list", "user_id"] true raw
  let channel ← r.need "channel_id" .text
  let kind ← r.need "asset_kind" (.choice AssetKind.named)
  let id ← r.need "asset_id" .text
  let ccList ← r.orElse "cc_list" (.list .text) []
  let user ← r.orElse "user_id" .text ""
  return { channel, kind, id, ccList, user }

end Asset

namespace Event

/-- The announcement as a document. -/
def toJson (e : Event) : Value :=
  .object [("case_number", .text e.caseNumber), ("kind", .text e.kind.name),
    ("payload", .text e.payload)]

/-- The announcement of a document. -/
def ofJson? : Decoder Event := fun raw => do
  let r ← Record.read? ["case_number", "kind", "payload"] false raw
  let caseNumber ← r.need "case_number" .text
  let kind ← r.need "kind" (.choice EventKind.named)
  let payload ← r.need "payload" .text
  return { caseNumber, kind, payload }

end Event

namespace FieldChange

/-- The change as a document. -/
def toJson : FieldChange → Value
  | .comment body => .object [("Comment", .object [("body", .text body)])]
  | .priority before after =>
    .object [("Priority", .object [("from", before.toJson), ("to", after.toJson)])]
  | .escalation escalated => .object [("Escalation", .object [("escalated", .bool escalated)])]

/-- The change of a document. -/
def ofJson? : Decoder FieldChange := fun raw =>
  match raw with
  | .object [(some name, content)] =>
    if name = "Comment" then do
      let r ← Record.read? ["body"] false content
      return .comment (← r.need "body" .text)
    else if name = "Priority" then do
      let r ← Record.read? ["from", "to"] false content
      return .priority (← r.need "from" Priority.ofJson?) (← r.need "to" Priority.ofJson?)
    else if name = "Escalation" then do
      let r ← Record.read? ["escalated"] false content
      return .escalation (← r.need "escalated" .bool)
    else none
  | _ => none

end FieldChange

namespace Project

/-- The project as a document. -/
def toJson (p : Project) : Value :=
  .object [("name", .text p.name), ("project_id", .text p.projectId), ("parent", .text p.parent)]

/-- The project of a document. -/
def ofJson? : Decoder Project := fun raw => do
  let r ← Record.read? ["name", "project_id", "parent"] false raw
  let name ← r.need "name" .text
  let projectId ← r.orElse "project_id" .text ""
  let parent ← r.orElse "parent" .text ""
  return { name, projectId, parent }

end Project

namespace Folder

/-- The folder as a document. -/
def toJson (f : Folder) : Value :=
  .object [("name", .text f.name), ("parent", .text f.parent)]

/-- The folder of a document. -/
def ofJson? : Decoder Folder := fun raw => do
  let r ← Record.read? ["name", "parent"] false raw
  let name ← r.need "name" .text
  let parent ← r.orElse "parent" .text ""
  return { name, parent }

end Folder

end CaseHerald
