import CaseHerald.Net.Transport
import CaseHerald.Notify.Fanout
import CaseHerald.Notify.Interface
import CaseHerald.Notify.Message

/-!
# The chat service

An announcement is posted once to each channel that follows its case, in their order, and a post that
fails keeps none of the others from being made. What becomes of the posts does not matter to whoever
announces; a single post does tell its failure.
-/
namespace CaseHerald

open Json (Value Record Decoder)

/-- Access to the chat service. -/
structure Slack where
  token : String
  /-- without slashes at its end -/
  api : String
  deriving DecidableEq

/-- What the chat service answers to a post. -/
structure SlackAnswer where
  ok : Bool
  error : Option String

/-- The answer of a document. -/
def SlackAnswer.ofJson? : Decoder SlackAnswer := fun raw => do
  let r ← Record.read? ["ok", "error"] false raw
  let ok ← r.need "ok" .bool
  let error ← r.orElse "error" (.optional .text) none
  return { ok, error }

namespace Slack

/-- The name of the sink. -/
def sinkName : String := "slack"

/-- The access that a configuration tells. -/
def ofConfig (c : SlackConfig) : Slack := ⟨c.botToken, Net.dropEndSlashes c.apiUrl⟩

/-- The access as it is shown, without its secret. -/
def debug (s : Slack) : String :=
  "SlackNotifier \x7b api_url: " ++ Text.quoted s.api ++ ", bot_token: \"[REDACTED]\" \x7d"

/-- The failure of a post. -/
def failed (reason : String) : Except NotifyFailure Unit := .error (.delivery sinkName reason)

/-- The request that posts a text in a channel. -/
def request (s : Slack) (channel text : String) : Except String Net.Request :=
  let message : Value := .object [("channel", .text channel), ("text", .text text)]
  Net.Request.build "POST" (s.api ++ "/chat.postMessage") [] [Net.bearer s.token, Net.jsonContent]
    (some (Net.jsonBody message))

/-- What a response says of a post. -/
def outcomeOf (r : Net.Response) : Except NotifyFailure Unit :=
  if r.isSuccess then
    match (Json.read? (Text.ofOctets r.body)).bind SlackAnswer.ofJson? with
    | none => failed "Failed to parse response: error decoding response body"
    | some answer => if answer.ok then .ok () else failed (answer.error.getD "unknown error")
  else failed ("HTTP " ++ toString r.status)

/-- Posts a text in a channel. -/
def post (s : Slack) (channel text : String) : Proc Net.interface (Except NotifyFailure Unit) :=
  match s.request channel text with
  | .error reason => return failed ("HTTP request failed: " ++ reason)
  | .ok request => do
    match ← Net.send request with
    | .error f => return failed ("HTTP request failed: " ++ f.reason)
    | .ok response => return outcomeOf response

/-- Posts an announcement in every channel that follows its case. -/
def notify (s : Slack) (e : Event) : Proc Notify.interface (Except NotifyFailure Unit) := do
  match ← Notify.store (.channels e.caseNumber) with
  | .error _ => return .ok ()
  | .ok (channels : List String) =>
    let _ ← channels.mapM fun channel => Notify.net (s.post channel e.text)
    return .ok ()

/-- The chat service as a sink. -/
def sink (s : Slack) : Sink Notify.interface := ⟨sinkName, s.notify⟩

end Slack

end CaseHerald
