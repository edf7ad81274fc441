import CaseHerald.Resource
import CaseHerald.Span
import CaseHerald.Text.Quoted
import CaseHerald.Watch.Schedule

/-!
# The configuration

What a watcher is told before it starts: whom to watch for, how to reach the services, where to keep
its store, how long to wait, and where to announce. Everything has a default but the ids and tokens.
-/
namespace CaseHerald

/-- Access to the chat service. -/
structure SlackConfig where
  botToken : String
  apiUrl : String
  deriving DecidableEq

/-- Access to the webhook. -/
structure WebhookConfig where
  url : String
  secret : Option String
  deriving DecidableEq

/-- A channel that follows a case from the start. -/
structure Binding where
  channel : String
  caseNumber : String
  deriving DecidableEq

/-- Where the token for the services comes from. A file is read anew for every request. -/
inductive TokenSource
  | fixed (token : String)
  | file (path : String)
  deriving DecidableEq

/-- The source as it is shown, without the token. -/
def TokenSource.debug : TokenSource → String
  | .fixed _ => "Static([REDACTED])"
  | .file path => "File(" ++ Text.quotedPath path ++ ")"

/-- The configuration of a watcher. -/
structure Config where
  orgId : String
  projectId : String
  apiKey : Option String
  accessToken : String
  /-- takes the place of the access token -/
  accessTokenFile : Option String
  storePath : String
  /-- in mebibytes -/
  storeSize : Nat
  /-- in seconds, like the two spans below -/
  pollInterval : Nat
  deferInterval : Nat
  requestTimeout : Nat
  maxRetries : Nat
  supportUrl : String
  resourceManagerUrl : String
  slack : Option SlackConfig
  webhook : Option WebhookConfig
  assets : List Asset
  bindings : List Binding
  deriving DecidableEq

/-- Access to the chat service before anything is told. -/
def SlackConfig.default : SlackConfig := ⟨"", "https://slack.com/api"⟩

/-- Access to the webhook before anything is told. -/
def WebhookConfig.default : WebhookConfig := ⟨"", none⟩

namespace Config

/-- The configuration before anything is told. -/
def default : Config where
  orgId := ""
  projectId := ""
  apiKey := none
  accessToken := ""
  accessTokenFile := none
  storePath := "casewatch-store"
  storeSize := 256
  pollInterval := 10
  deferInterval := 5
  requestTimeout := 5
  maxRetries := 3
  supportUrl := "https://cloudsupport.googleapis.com"
  resourceManagerUrl := "https://cloudresourcemanager.googleapis.com"
  slack := none
  webhook := none
  assets := []
  bindings := []

/-- The largest size of a store, in mebibytes. -/
def mostStoreSize : Nat := 1024 * 1024

/-- Where the token for the services comes from. -/
def tokenSource (c : Config) : TokenSource :=
  match c.accessTokenFile with
  | some path => .file path
  | none => .fixed c.accessToken

/-- The spans between cycles. -/
def schedule (c : Config) : Watch.Schedule := ⟨.seconds c.pollInterval, .seconds c.deferInterval⟩

end Config

end CaseHerald
