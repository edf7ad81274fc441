import CaseHerald.Config.Reader
import CaseHerald.Text.Blank
import CaseHerald.Text.Octets

/-!
# Loading the configuration

The file comes first, then the variables of the environment, then the checks. Variables are applied
in a fixed order up to the first that makes no sense, and the checks are made in a fixed order up to
the first that fails.
-/
namespace CaseHerald

/-- The values of the variables of an environment. -/
abbrev Environment := String → Option String

namespace Config

/-! ## The environment -/

/-- What a variable does to the configuration. -/
abbrev Override := Config → String → Except ConfigFailure Config

/-- A number that a variable holds. -/
def numberOf (name : String) (most : Nat) (raw : String) : Except ConfigFailure Nat :=
  match Text.naturalUpTo? most (Text.trimChars raw.toList) with
  | some n => .ok n
  | none => .error (.invalid name raw "must be a non-negative integer")

/-- A variable that sets a text. -/
def setting (set : Config → String → Config) : Override := fun c v => .ok (set c v)

/-- A variable that sets a number. -/
def settingNumber (name : String) (most : Nat) (set : Config → Nat → Config) : String × Override :=
  (name, fun c v => (numberOf name most v).map (set c))

/-- Access to the chat service, as far as it is told. -/
def slackOrDefault (c : Config) : SlackConfig := c.slack.getD .default

/-- Access to the webhook, as far as it is told. -/
def webhookOrDefault (c : Config) : WebhookConfig := c.webhook.getD .default

/-- The variables, in the order in which they are applied. -/
def overrides : List (String × Override) :=
  [("ORG_ID", setting fun c v => { c with orgId := v }),
   ("PROJECT_ID", setting fun c v => { c with projectId := v }),
   ("API_KEY", setting fun c v => { c with apiKey := some v }),
   ("CASEWATCH_ACCESS_TOKEN", setting fun c v => { c with accessToken := v }),
   ("CASEWATCH_ACCESS_TOKEN_FILE", setting fun c v => { c with accessTokenFile := some v }),
   ("CASEWATCH_STORE_PATH", setting fun c v => { c with storePath := v }),
   settingNumber "CASEWATCH_POLL_INTERVAL_SECS" Text.most64 fun c n => { c with pollInterval := n },
   settingNumber "CASEWATCH_DEFER_SECS" Text.most64 fun c n => { c with deferInterval := n },
   settingNumber "CASEWATCH_MAX_RETRIES" Text.most32 fun c n => { c with maxRetries := n },
   settingNumber "CASEWATCH_REQUEST_TIMEOUT_SECS" Text.most64 fun c n =>
     { c with requestTimeout := n },
   ("CASEWATCH_SUPPORT_API_URL", setting fun c v => { c with supportUrl := v }),
   ("CASEWATCH_RESOURCE_MANAGER_URL", setting fun c v => { c with resourceManagerUrl := v }),
   ("SLACK_BOT_TOKEN", setting fun c v =>
     { c with slack := some { c.slackOrDefault with botToken := v } }),
   ("CASEWATCH_WEBHOOK_URL", setting fun c v =>
     { c with webhook := some { c.webhookOrDefault with url := v } }),
   ("CASEWATCH_WEBHOOK_SECRET", setting fun c v =>
     { c with webhook := some { c.webhookOrDefault with secret := some v } })]

/-- Applies variables in order. Those before one that makes no sense stay applied. -/
def applyFrom (env : Environment) : List (String × Override) → Config → Except ConfigFailure Unit × Config
  | [], c => (.ok (), c)
  | (name, set) :: rest, c =>
    match env name with
    | none => applyFrom env rest c
    | some v =>
      match set c v with
      | .ok c => applyFrom env rest c
      | .error f => (.error f, c)

/-- Applies the environment. -/
def applyEnvironment (c : Config) (env : Environment) : Except ConfigFailure Unit × Config :=
  applyFrom env overrides c

/-! ## Checks -/

/-- A field that may not be blank. -/
def requireText (field value : String) : Except ConfigFailure Unit :=
  if Text.isBlankText value then .error (.missing field) else .ok ()

/-- A field that may not be empty. -/
def requirePath (field value : String) : Except ConfigFailure Unit :=
  if value.isEmpty then .error (.missing field) else .ok ()

/-- A field that may not be zero. -/
def requirePositive (field : String) (value : Nat) : Except ConfigFailure Unit :=
  if value = 0 then .error (.invalid field (toString value) "must be > 0") else .ok ()

/-- A field that has an upper bound. -/
def requireAtMost (field : String) (most value : Nat) : Except ConfigFailure Unit :=
  if most < value then .error (.invalid field (toString value) ("must be <= " ++ toString most))
  else .ok ()

/-- A field that has to be an address on the web. -/
def requireUrl (field value : String) : Except ConfigFailure Unit :=
  if value.startsWith "http://" || value.startsWith "https://" then .ok ()
  else .error (.invalid field value "must be an http(s) URL")

/-- Checks the configuration. -/
def validate (c : Config) : Except ConfigFailure Unit := do
  requireText "org_id" c.orgId
  requireText "project_id" c.projectId
  match c.accessTokenFile with
  | some path => requirePath "access_token_file" path
  | none => requireText "access_token" c.accessToken
  requirePath "store_path" c.storePath
  requirePositive "store_size_mb" c.storeSize
  requireAtMost "store_size_mb" mostStoreSize c.storeSize
  requirePositive "poll_interval_secs" c.pollInterval
  requirePositive "defer_secs" c.deferInterval
  requirePositive "request_timeout_secs" c.requestTimeout
  requireUrl "support_api_url" c.supportUrl
  requireUrl "resource_manager_url" c.resourceManagerUrl
  match c.slack with
  | some slack =>
    requireText "slack.bot_token" slack.botToken
    requireUrl "slack.api_url" slack.apiUrl
  | none => pure ()
  match c.webhook with
  | some webhook =>
    requireUrl "webhook.url" webhook.url
    requireText "webhook.secret" (webhook.secret.getD "")
  | none => pure ()

/-! ## Loading -/

/-- What reading a file gives: its octets, or why there are none. -/
abbrev FileContents := Except String Text.Octets

/-- The configuration in a file. -/
def ofFile (path : String) (contents : FileContents) : Except ConfigFailure Config :=
  match contents with
  | .error reason => .error (.unreadable path reason)
  | .ok octets =>
    match Text.strict? (Text.ofOctets octets) with
    | none => .error (.unreadable path "stream did not contain valid UTF-8")
    | some s => read s

/-- The checked configuration of a file, if there is one, and an environment. -/
def load (file : Option (String × FileContents)) (env : Environment) : Except ConfigFailure Config := do
  let c ← match file with
    | some (path, contents) => ofFile path contents
    | none => pure default
  let (applied, c) := c.applyEnvironment env
  applied
  c.validate
  return c

end Config

end CaseHerald
