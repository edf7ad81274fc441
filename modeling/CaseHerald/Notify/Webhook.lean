import CaseHerald.Config.Basic
import CaseHerald.Digest.Hmac
import CaseHerald.Instant.Text
import CaseHerald.Net.Http
import CaseHerald.Notify.Fanout
import CaseHerald.Notify.Interface

/-!
# The webhook

An announcement is sent to one address as a signed document. A delivery that fails is tried again
three times, after a delay that doubles. It usually goes on by itself, so that nobody waits for it.
-/
namespace CaseHerald

open Json (Value)
open Text (Octets)

/-- An address that announcements are sent to. -/
structure Webhook where
  url : String
  secret : String
  /-- the delay before the first retry -/
  first : Span
  /-- whether deliveries go on by themselves -/
  detached : Bool
  deriving DecidableEq

namespace Webhook

/-- The name of the sink. -/
def sinkName : String := "webhook"

/-- The webhook that a configuration tells, which needs a secret. -/
def ofConfig (c : WebhookConfig) : Except NotifyFailure Webhook :=
  let secret := c.secret.getD ""
  if secret.isEmpty then .error (.notConfigured sinkName "webhook secret is required")
  else .ok ⟨c.url, secret, .seconds 1, true⟩

/-- The webhook whose deliveries are waited for, with another delay before the first retry. -/
def inline (w : Webhook) (first : Span) : Webhook := { w with first, detached := false }

/-- The webhook as it is shown, without its secret. -/
def debug (w : Webhook) : String :=
  "WebhookNotifier \x7b url: " ++ Text.quoted w.url ++ ", secret: \"[REDACTED]\", detached: " ++
    (if w.detached then "true" else "false") ++ " \x7d"

/-- The document of a delivery. -/
def document (id : Guid) (time : Instant) (e : Event) : Value :=
  .object [("delivery_id", .text id.render), ("event", .text e.kind.name),
    ("case_number", .text e.caseNumber), ("payload", .text e.payload), ("timestamp", .text time.render)]

/-- The headers of a delivery. -/
def headers (w : Webhook) (id : Guid) (e : Event) (body : Octets) : List (String × String) :=
  [Net.jsonContent, ("x-casewatch-signature", "sha256=" ++ Digest.sign w.secret body),
   ("x-casewatch-delivery-id", id.render), ("x-casewatch-event", e.kind.name),
   ("user-agent", "casewatch/0.1.0")]

/-- The request of a delivery. -/
def request (w : Webhook) (id : Guid) (time : Instant) (e : Event) : Except String Net.Request :=
  let body := Net.jsonBody (document id time e)
  Net.Request.build "POST" w.url [] (w.headers id e body) (some body)

/-- One try of a delivery, which fails with a reason. -/
def tryOnce (request : Except String Net.Request) : Proc Net.interface (Except String Unit) :=
  match request with
  | .error reason => return .error reason
  | .ok request => do
    match ← Net.send request with
    | .error f => return .error f.reason
    | .ok response =>
      return if response.isSuccess then .ok () else .error ("HTTP " ++ toString response.status)

/-- Tries until a try succeeds or no delay is left. -/
def tryAfter (tryOnce : Proc Net.interface (Except String Unit)) :
    List Span → Proc Net.interface (Except String Unit)
  | [] => tryOnce
  | delay :: delays => do
    match ← tryOnce with
    | .ok () => return .ok ()
    | .error _ =>
      Net.pause delay
      tryAfter tryOnce delays

/-- The delays before the retries. -/
def delays (w : Webhook) : List Span := [1, 2, 4].map fun n => ⟨w.first.nanos * n⟩

/-- Delivers an announcement. -/
def deliver (w : Webhook) (id : Guid) (time : Instant) (e : Event) :
    Proc Net.interface (Except NotifyFailure Unit) := do
  match ← tryAfter (tryOnce (w.request id time e)) w.delays with
  | .ok () => return .ok ()
  | .error last =>
    return .error (.delivery sinkName
      (toString (w.delays.length + 1) ++ " attempts failed, last: " ++ last))

/-- Sends an announcement. -/
def notify (w : Webhook) (e : Event) : Proc Notify.interface (Except NotifyFailure Unit) := do
  let (id, time) ← Notify.net Net.stamp
  if w.detached then
    Notify.start do
      let _ ← w.deliver id time e
      return ()
    return .ok ()
  else Notify.net (w.deliver id time e)

/-- The webhook as a sink. -/
def sink (w : Webhook) : Sink Notify.interface := ⟨sinkName, w.notify⟩

end Webhook

end CaseHerald
