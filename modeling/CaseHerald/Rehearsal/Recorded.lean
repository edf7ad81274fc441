import CaseHerald.Digest.Hmac
import CaseHerald.Json.Free
import CaseHerald.Net.Http
import CaseHerald.Text.Blank

/-!
# Recorded requests as documents

A request is shown with its address, the headers that matter and its body. A delivery of the webhook
is shown with a star for what differs each time, and with whether its signature is right.
-/
namespace CaseHerald.Rehearsal

open Json (Value Document)
open Net (Request)

/-- The header as it is shown. -/
def shownHeader (r : Request) (name : String) : Value :=
  Document.textOrNull ((r.header? name).map Text.trim)

/-- The document in the body. -/
def bodyOf (r : Request) : Value :=
  (Json.readFree? (Text.ofOctets (r.body.getD []))).getD .null

/-- A star for a field that differs each time. -/
def starred : Value → Value
  | .object fields => .object (fields.map fun (name, v) =>
      (name, if name = "delivery_id" ∨ name = "timestamp" then .text "*" else v))
  | v => v

/-- What a request of any client shows. -/
def shownFields (r : Request) : List (String × Value) :=
  let isDelivery := (r.header? "x-casewatch-signature").isSome
  [("method", .text r.method), ("path", .text r.url.path), ("query", Document.textOrNull r.url.query),
   ("authorization", shownHeader r "authorization"), ("content_type", shownHeader r "content-type"),
   ("body", if isDelivery then starred (bodyOf r) else bodyOf r)]

/-- What a delivery that is signed with the secret shows besides. -/
def deliveryFields (secret : String) (r : Request) : List (String × Value) :=
  let signature := "sha256=" ++ Digest.sign secret (r.body.getD [])
  let isNamed : Bool := match (bodyOf r).field? "delivery_id" with
    | some (.text id) => r.header? "x-casewatch-delivery-id" == some id
    | _ => false
  [("event_header", shownHeader r "x-casewatch-event"), ("user_agent", shownHeader r "user-agent"),
   ("signature_ok", .bool (r.header? "x-casewatch-signature" == some signature)),
   ("delivery_id_matches", .bool isNamed)]

/-- A request as a document, with what a delivery shows if there is a secret. -/
def shownRequest (secret : Option String) (r : Request) : Value :=
  .object (shownFields r ++ match secret with
    | none => []
    | some s => deliveryFields s r)

/-- The most requests that are shown one by one. -/
def mostShown : Nat := 40

/-- Requests as a document, of which only the first and the last two are shown if they are many. -/
def shownRequests (secret : Option String) (requests : List Request) : Value :=
  let all := requests.map (shownRequest secret)
  if mostShown < all.length then
    .object [("count", .nat all.length), ("first", .list (all.take 2)),
      ("last", .list (all.drop (all.length - 2)))]
  else .list all

end CaseHerald.Rehearsal
