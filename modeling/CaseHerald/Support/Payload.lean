import CaseHerald.Json.Record

/-!
# Payloads of the case service

Cases and comments as the service sends them. Nearly everything may be missing, and times and
priorities are texts; only `Normalize` decides what makes sense.
-/
namespace CaseHerald.Support

open Json (Value Document Record Decoder)

/-- A case as the service sends it. -/
structure CasePayload where
  name : String
  displayName : String
  state : String
  priority : Option String
  /-- stands for the priority where that is missing -/
  severity : Option String
  escalated : Bool
  updateTime : Option String
  subscribers : List String
  deriving DecidableEq

namespace CasePayload

/-- The case of a document. -/
def ofJson? : Decoder CasePayload := fun raw => do
  let r ← Record.read? ["name", "displayName", "state", "priority", "severity", "escalated",
    "updateTime", "subscriberEmailAddresses"] false raw
  let name ← r.need "name" .text
  let displayName ← r.orElse "displayName" .text ""
  let state ← r.orElse "state" .text ""
  let priority ← r.orElse "priority" (.optional .text) none
  let severity ← r.orElse "severity" (.optional .text) none
  let escalated ← r.orElse "escalated" .bool false
  let updateTime ← r.orElse "updateTime" (.optional .text) none
  let subscribers ← r.orElse "subscriberEmailAddresses" (.list .text) []
  return { name, displayName, state, priority, severity, escalated, updateTime, subscribers }

/-- The field with the name, unless there is no text for it. -/
def optionalField (name : String) : Option String → List (String × Value)
  | none => []
  | some s => [(name, .text s)]

/-- The case as a document, without the fields that have nothing. -/
def toJson (c : CasePayload) : Value :=
  .object ([("name", .text c.name), ("displayName", .text c.displayName), ("state", .text c.state)] ++
    optionalField "priority" c.priority ++ optionalField "severity" c.severity ++
    [("escalated", .bool c.escalated)] ++ optionalField "updateTime" c.updateTime ++
    if c.subscribers.isEmpty then []
    else [("subscriberEmailAddresses", Document.texts c.subscribers)])

end CasePayload

/-- The author of a comment as the service sends it. -/
structure AuthorPayload where
  displayName : String
  email : Option String
  isSupport : Bool
  deriving DecidableEq

namespace AuthorPayload

/-- An author of whom nothing is known. -/
def unknown : AuthorPayload := ⟨"", none, false⟩

/-- The author of a document. -/
def ofJson? : Decoder AuthorPayload := fun raw => do
  let r ← Record.read? ["displayName", "email", "googleSupport"] false raw
  let displayName ← r.orElse "displayName" .text ""
  let email ← r.orElse "email" (.optional .text) none
  let isSupport ← r.orElse "googleSupport" .bool false
  return { displayName, email, isSupport }

/-- The author as a document. -/
def toJson (a : AuthorPayload) : Value :=
  .object ([("displayName", .text a.displayName)] ++ CasePayload.optionalField "email" a.email ++
    [("googleSupport", .bool a.isSupport)])

end AuthorPayload

/-- A comment as the service sends it. -/
structure CommentPayload where
  name : String
  createTime : Option String
  creator : Option AuthorPayload
  body : String
  deriving DecidableEq

namespace CommentPayload

/-- The comment of a document. -/
def ofJson? : Decoder CommentPayload := fun raw => do
  let r ← Record.read? ["name", "createTime", "creator", "body"] false raw
  let name ← r.orElse "name" .text ""
  let createTime ← r.orElse "createTime" (.optional .text) none
  let creator ← r.orElse "creator" (.optional AuthorPayload.ofJson?) none
  let body ← r.orElse "body" .text ""
  return { name, createTime, creator, body }

/-- The comment as a document. -/
def toJson (c : CommentPayload) : Value :=
  .object ([("name", .text c.name)] ++ CasePayload.optionalField "createTime" c.createTime ++
    (match c.creator with
      | none => []
      | some a => [("creator", a.toJson)]) ++ [("body", .text c.body)])

end CommentPayload

/-- One page of a listing. -/
structure Page (α : Type) where
  items : List α
  next : Option String

/-- The page of a document, whose items are in the field with the name. -/
def Page.ofJson? {α : Type} (name : String) (d : Decoder α) : Decoder (Page α) := fun raw => do
  let r ← Record.read? [name, "nextPageToken"] false raw
  let items ← r.orElse name (.list d) []
  let next ← r.orElse "nextPageToken" (.optional .text) none
  return { items, next }

end CaseHerald.Support
