import CaseHerald.Config.Basic
import CaseHerald.Text.Numeral
import CaseHerald.Toml.Document
import CaseHerald.Toml.Record

/-!
# Reading the configuration from a TOML document

Every field may be missing, no other fields may be there, and numbers lie in the range of their
fields.
-/
namespace CaseHerald

open Toml (Decoder Record)
open Text (most32 most64)

namespace SlackConfig

/-- The access in a document. -/
def ofToml? : Decoder SlackConfig := fun v => do
  let r ← Record.read? ["bot_token", "api_url"] v
  let botToken ← r.orElse "bot_token" .text default.botToken
  let apiUrl ← r.orElse "api_url" .text default.apiUrl
  return { botToken, apiUrl }

end SlackConfig

namespace WebhookConfig

/-- The access in a document. -/
def ofToml? : Decoder WebhookConfig := fun v => do
  let r ← Record.read? ["url", "secret"] v
  let url ← r.orElse "url" .text default.url
  let secret ← r.optional "secret" .text
  return { url, secret }

end WebhookConfig

namespace Binding

/-- The binding in a document. -/
def ofToml? : Decoder Binding := fun v => do
  let r ← Record.read? ["channel_id", "case_number"] v
  let channel ← r.need "channel_id" .text
  let caseNumber ← r.need "case_number" .text
  return { channel, caseNumber }

end Binding

namespace Asset

/-- The asset in a document. -/
def ofToml? : Decoder Asset := fun v => do
  let r ← Record.read? ["channel_id", "asset_kind", "asset_id", "cc_list", "user_id"] v
  let channel ← r.need "channel_id" .text
  let kind ← r.need "asset_kind" (.choice AssetKind.named)
  let id ← r.need "asset_id" .text
  let ccList ← r.orElse "cc_list" (.list .text) []
  let user ← r.orElse "user_id" .text ""
  return { channel, kind, id, ccList, user }

end Asset

namespace Config

/-- The names of the fields. -/
def names : List String :=
  ["org_id", "project_id", "api_key", "access_token", "access_token_file", "store_path",
   "store_size_mb", "poll_interval_secs", "defer_secs", "max_retries", "request_timeout_secs",
   "support_api_url", "resource_manager_url", "slack", "webhook", "tracked_assets", "case_channels"]

/-- The configuration in a document. -/
def ofToml? : Decoder Config := fun v => do
  let r ← Record.read? names v
  let orgId ← r.orElse "org_id" .text default.orgId
  let projectId ← r.orElse "project_id" .text default.projectId
  let apiKey ← r.optional "api_key" .text
  let accessToken ← r.orElse "access_token" .text default.accessToken
  let accessTokenFile ← r.optional "access_token_file" .text
  let storePath ← r.orElse "store_path" .text default.storePath
  let storeSize ← r.orElse "store_size_mb" (.natural most64) default.storeSize
  let pollInterval ← r.orElse "poll_interval_secs" (.natural most64) default.pollInterval
  let deferInterval ← r.orElse "defer_secs" (.natural most64) default.deferInterval
  let maxRetries ← r.orElse "max_retries" (.natural most32) default.maxRetries
  let requestTimeout ← r.orElse "request_timeout_secs" (.natural most64) default.requestTimeout
  let supportUrl ← r.orElse "support_api_url" .text default.supportUrl
  let resourceManagerUrl ← r.orElse "resource_manager_url" .text default.resourceManagerUrl
  let slack ← r.optional "slack" SlackConfig.ofToml?
  let webhook ← r.optional "webhook" WebhookConfig.ofToml?
  let assets ← r.orElse "tracked_assets" (.list Asset.ofToml?) []
  let bindings ← r.orElse "case_channels" (.list Binding.ofToml?) []
  return { orgId, projectId, apiKey, accessToken, accessTokenFile, storePath, storeSize, pollInterval
           deferInterval, requestTimeout, maxRetries, supportUrl, resourceManagerUrl, slack, webhook
           assets, bindings }

/-- The configuration that the text tells. -/
def read (s : String) : Except ConfigFailure Config :=
  match (Toml.read? s).bind fun fs => ofToml? (.table .header fs) with
  | some c => .ok c
  | none => .error (.unparsable "not a document of the configuration")

end Config

end CaseHerald
