import CaseHerald.Config.Basic
import CaseHerald.Json.Free
import CaseHerald.Json.Record
import CaseHerald.Net.Http
import CaseHerald.Net.Retry

/-!
# Calls to a service

A transport calls one service: it adds the token and the key to every request, tries again what may
pass, and decodes what the service answers. The token is read once for a call and all its tries.
-/
namespace CaseHerald.Net

open Text (Octets)

/-- Access to one service. -/
structure Transport where
  service : String
  /-- without slashes at its end -/
  base : String
  token : TokenSource
  apiKey : Option String
  retry : RetryPolicy

/-- The text without slashes at its end. -/
def dropEndSlashes (s : String) : String :=
  String.ofList ((s.toList.reverse.dropWhile (· = '/')).reverse)

/-- The text without slashes at its start. -/
def dropStartSlashes (s : String) : String := String.ofList (s.toList.dropWhile (· = '/'))

/-- The message in the body of a refusal: the one in its document, or the start of its text. -/
def refusalMessage (body : String) : String :=
  let inDocument := do
    let v ← Json.readFree? (Text.gapless body)
    let e ← v.field? "error"
    match ← e.field? "message" with
    | .text m => some m
    | _ => none
  inDocument.getD (String.ofList (body.toList.take 512))

namespace Transport

/-- Access to a service at an address. -/
def new (service base : String) (token : TokenSource) (apiKey : Option String) (retry : RetryPolicy) :
    Transport :=
  ⟨service, dropEndSlashes base, token, apiKey, retry⟩

/-- The access to a service that a configuration tells. -/
def ofConfig (service base : String) (c : Config) : Transport :=
  new service base c.tokenSource c.apiKey (.usual c.maxRetries)

/-- The address of a path. -/
def address (t : Transport) (path : String) : String := t.base ++ "/" ++ dropStartSlashes path

/-- The transport as it is shown, without its secrets. -/
def debug (t : Transport) : String :=
  "ApiTransport \x7b service: " ++ Text.quoted t.service ++ ", base_url: " ++ Text.quoted t.base ++
    ", access_token: \"[REDACTED]\", api_key: " ++
    (if t.apiKey.isSome then "Some(\"[REDACTED]\")" else "None") ++ " \x7d"

/-- The failure to have a token. -/
def noToken (t : Transport) (reason : String) : SourceFailure := .transient t.service 1 reason

/-- The token of a file's contents. -/
def tokenIn (t : Transport) (path : String) : Except String Octets → Except SourceFailure String
  | .error reason => .error (t.noToken ("Failed to read token file " ++ path ++ ": " ++ reason))
  | .ok octets =>
    match Text.strict? (Text.ofOctets octets) with
    | none => .error (t.noToken
        ("Failed to read token file " ++ path ++ ": stream did not contain valid UTF-8"))
    | some raw =>
      let token := Text.trim raw
      if token.isEmpty then .error (t.noToken ("Token file " ++ path ++ " is empty")) else .ok token

/-- The token for the next call. -/
def currentToken (t : Transport) : Proc interface (Except SourceFailure String) :=
  match t.token with
  | .fixed token => return .ok token
  | .file path => do return t.tokenIn path (← readFile path)

/-- What one call asks for. -/
structure Call where
  method : String
  path : String
  query : List (String × String)
  body : Option Json.Value

/-- The request of a call. -/
def request (t : Transport) (token : String) (c : Call) : Except String Request :=
  let key := match t.apiKey with
    | some key => [("key", key)]
    | none => []
  let content := if c.body.isSome then [jsonContent] else []
  Request.build c.method (t.address c.path) (c.query ++ key) (bearer token :: content)
    (c.body.map jsonBody)

/-- What a response means. The delay that it asks for has to be one that can be told. -/
def meaning {α : Type} (t : Transport) (d : Text.Gapped → Option α) (r : Response) (after : Option Span) :
    Tried α :=
  match StatusClass.of r.status with
  | .success =>
    match d (Text.ofOctets r.body) with
    | some a => .done a
    | none => .fatal (.malformed none (t.service ++ " returned undecodable body: not a document of its kind"))
  | .transient =>
    .transient ("HTTP " ++ toString r.status ++ ": " ++ refusalMessage r.text) after
  | .permanent => .fatal (.rejected t.service r.status (refusalMessage r.text))

/-- What it means that no request could be built. -/
def invalid {α : Type} (t : Transport) (reason : String) : Tried α :=
  .fatal (.rejected t.service 0 ("Invalid request: " ++ reason))

/-- One try of a call. -/
def tryOnce {α : Type} (t : Transport) (token : String) (c : Call) (d : Text.Gapped → Option α) :
    Proc interface (Tried α) :=
  match t.request token c with
  | .error reason => return t.invalid reason
  | .ok r => do
    match ← send r with
    | .error (.lost reason) => return .transient ("HTTP request failed: " ++ reason) none
    | .error (.misled reason) => return t.invalid reason
    | .ok response =>
      match response.retryAfter with
      | none => .halt .delayOverflow
      | some after => return t.meaning d response after

/-- A call to the service, whose answer is decoded. -/
def call {α : Type} (t : Transport) (c : Call) (d : Text.Gapped → Option α) :
    Proc interface (Except SourceFailure α) := do
  match ← t.currentToken with
  | .error f => return .error f
  | .ok token => t.retry.run t.service pause (t.tryOnce token c d)

/-- Gets a document of a type. -/
def get {α : Type} (t : Transport) (path : String) (query : List (String × String))
    (d : Json.Decoder α) : Attempt interface SourceFailure α :=
  Attempt.ask id (t.call ⟨"GET", path, query, none⟩ fun s => (Json.read? s).bind d)

/-- Sends a document and gets one of a type. -/
def submit {α : Type} (t : Transport) (method path : String) (query : List (String × String))
    (body : Json.Value) (d : Json.Decoder α) : Attempt interface SourceFailure α :=
  Attempt.ask id (t.call ⟨method, path, query, some body⟩ fun s => (Json.read? s).bind d)

end Transport

end CaseHerald.Net
