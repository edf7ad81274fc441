import CaseHerald.Net.Transport
import CaseHerald.Support.Normalize
import CaseHerald.Support.Pages
import CaseHerald.Support.Subscribers
import CaseHerald.Table
import CaseHerald.Watch.Interface

/-!
# The case service

The client lists the open cases of an organisation with their comments, and comments on a case or
subscribes addresses to it. It remembers the full names of the cases that it has listed; a case that
has not been listed is looked for in the organisation itself. A listing that fails leaves the names
as they were.
-/
namespace CaseHerald.Support

open Json (Value Document)
open Net (Transport)
open Text (octets)

/-- A client of the case service. -/
structure Client where
  transport : Transport
  orgId : String
  /-- whether there is a channel to announce comments in -/
  announces : Bool
  /-- the full names of listed cases, under their numbers -/
  names : Table String

/-- The name of the service. -/
def serviceName : String := "cloudsupport"

/-- The path of a resource of the service. -/
def pathOf (name : String) : String := "v2beta/" ++ name

/-- The query for the open cases of an organisation. -/
def openCasesQuery (orgId : String) : String :=
  "organization=\"organizations/" ++ orgId ++ "\" AND state=OPEN"

/-- The part of a query that asks for a page. -/
def pageQuery (token : Option String) : List (String × String) :=
  ("pageSize", "100") :: match token with
    | none => []
    | some t => [("pageToken", t)]

/-- A program that calls the service. -/
abbrev Call (α : Type) := Attempt Net.interface SourceFailure α

namespace Client

/-- A client that has not listed anything. -/
def new (transport : Transport) (orgId : String) (announces : Bool) : Client :=
  ⟨transport, orgId, announces, ∅⟩

/-- The client that a configuration tells. -/
def ofConfig (c : Config) (announces : Bool) : Client :=
  new (.ofConfig serviceName c.supportUrl c) c.orgId announces

/-- The client as it is shown, without its secrets. -/
def debug (c : Client) : String :=
  "CloudSupportClient \x7b transport: " ++ c.transport.debug ++ ", org_id: " ++ Text.quoted c.orgId ++
    ", channel_poster: " ++ (if c.announces then "true" else "false") ++ " \x7d"

/-- The full name of a case. -/
def caseName (c : Client) (number : String) : String :=
  (c.names.find? (octets number)).getD ("organizations/" ++ c.orgId ++ "/cases/" ++ number)

/-- The client with the name of a listed case. -/
def remember (c : Client) (r : CaseRecord) : Client :=
  { c with names := c.names.insert (octets r.number) r.resourceName }

/-! ## Listing -/

/-- The open cases of an organisation. -/
def openCases (c : Client) (orgId : String) : Call (List CasePayload) :=
  allItems fun token =>
    c.transport.get (pathOf "cases:search") (("query", openCasesQuery orgId) :: pageQuery token)
      (Page.ofJson? "cases" CasePayload.ofJson?)

/-- The comments on the case with the full name. -/
def comments (c : Client) (name : String) : Call (List CommentPayload) :=
  allItems fun token =>
    c.transport.get (pathOf (name ++ "/comments")) (pageQuery token)
      (Page.ofJson? "comments" CommentPayload.ofJson?)

/-- The record of a listed case. -/
def recordOf (c : Client) (p : CasePayload) : Call CaseRecord := do
  let comments ← c.comments p.name
  Attempt.ofExcept id (p.normalize comments)

/-- The records of the open cases of an organisation. -/
def openRecords (c : Client) (orgId : String) : Call (List CaseRecord) := do
  let cases ← c.openCases orgId
  cases.mapM c.recordOf

/-- The records of the open cases of an organisation, and the client that remembers them. -/
def searchOpen (c : Client) (orgId : String) :
    Proc Net.interface (Except SourceFailure (List CaseRecord) × Client) := do
  match ← (c.openRecords orgId).outcome with
  | .ok records => return (.ok records, records.foldl remember c)
  | .error f => return (.error f, c)

/-! ## Single cases -/

/-- A case as the service sends it. -/
def getCase (c : Client) (number : String) : Call CasePayload :=
  c.transport.get (pathOf (c.caseName number)) [] CasePayload.ofJson?

/-- The path of the parent of a case. -/
def caseParent (c : Client) (number : String) : Call String := do
  let p ← c.getCase number
  match CaseName.split? p.name with
  | some (parent, _) => return parent
  | none => throw (.malformed (some number) ("unrecognized case name " ++ Text.quoted p.name))

/-- What is said in the channel of a comment. -/
def announcement (q : CommentRequest) : String :=
  "Comment added to case " ++ q.caseNumber ++ " by " ++ (if q.author.isEmpty then q.user else q.author) ++
    ":\n> " ++ q.body

/-- Makes a comment; answers what is to be said in its channel. -/
def comment (c : Client) (q : CommentRequest) : Call (Option String) := do
  let _ ← c.transport.submit "POST" (pathOf (c.caseName q.caseNumber ++ "/comments")) []
    (.object [("body", .text q.signedBody)]) CommentPayload.ofJson?
  return if q.announced && c.announces then some (announcement q) else none

/-- The document that sets the subscribers of a case. -/
def subscribersDocument (emails : List String) : Value :=
  .object [("subscriberEmailAddresses", Document.texts emails)]

/-- Adds subscribers to a case; answers those that are new. Nothing is sent if there are none. -/
def subscribe (c : Client) (number : String) (emails : List String) : Call (List String) := do
  let p ← c.getCase number
  let added := newSubscribers p.subscribers emails
  if added.isEmpty then return []
  let _ ← c.transport.submit "PATCH" (pathOf p.name) [("updateMask", "subscriberEmailAddresses")]
    (subscribersDocument (p.subscribers ++ added)) CasePayload.ofJson?
  return added

end Client

end CaseHerald.Support
