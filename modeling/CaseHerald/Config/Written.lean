import CaseHerald.Case.Written
import CaseHerald.Config.Basic

/-!
# The configuration as a document

The configuration is shown as a document with its secrets, which is for those who may see them.
-/
namespace CaseHerald

open Json (Value Document)

/-- The access as a document. -/
def SlackConfig.toJson (s : SlackConfig) : Value :=
  .object [("bot_token", .text s.botToken), ("api_url", .text s.apiUrl)]

/-- The access as a document. -/
def WebhookConfig.toJson (w : WebhookConfig) : Value :=
  .object [("url", .text w.url), ("secret", Document.textOrNull w.secret)]

/-- The configuration as a document, with the source of its token. -/
def Config.toJson (c : Config) : Value :=
  .object
    [("org_id", .text c.orgId), ("project_id", .text c.projectId),
     ("api_key", Document.textOrNull c.apiKey), ("access_token", .text c.accessToken),
     ("access_token_file", Document.textOrNull c.accessTokenFile),
     ("store_path", .text c.storePath), ("store_size_mb", .nat c.storeSize),
     ("poll_interval_secs", .nat c.pollInterval), ("defer_secs", .nat c.deferInterval),
     ("max_retries", .nat c.maxRetries), ("request_timeout_secs", .nat c.requestTimeout),
     ("support_api_url", .text c.supportUrl), ("resource_manager_url", .text c.resourceManagerUrl),
     ("slack", Document.orNull (c.slack.map SlackConfig.toJson)),
     ("webhook", Document.orNull (c.webhook.map WebhookConfig.toJson)),
     ("tracked_assets", .list (c.assets.map Asset.toJson)),
     ("case_channels", .list (c.bindings.map fun b => Document.texts [b.channel, b.caseNumber])),
     ("token_source", .text c.tokenSource.debug)]

end CaseHerald
