import CaseHerald.CommandLine
import CaseHerald.Config.Load
import CaseHerald.Notify.Slack
import CaseHerald.Notify.Webhook
import CaseHerald.Resource.Client
import CaseHerald.Watch.Schedule

/-!
# The daemon

The daemon is a watcher wired to real services as its configuration tells: it polls the case service,
keeps its store, announces through the configured sinks, and subscribes to new cases with the help of
the resource service. The store is given the configured assets and channels before anything else.
-/
namespace CaseHerald

/-- The configured ways to announce. -/
structure Sinks where
  slack : Option Slack
  webhook : Option Webhook

namespace Sinks

/-- The ways to announce that a configuration tells. -/
def ofConfig (c : Config) : Except NotifyFailure Sinks := do
  let webhook ← c.webhook.mapM Webhook.ofConfig
  return ⟨c.slack.map Slack.ofConfig, webhook⟩

/-- The sinks in the order of delivery. -/
def all (s : Sinks) : List (Sink Notify.interface) :=
  (s.slack.map Slack.sink).toList ++ (s.webhook.map Webhook.sink).toList

end Sinks

/-- Gives the store the configured assets and channels; answers their number. -/
def seedStore (c : Config) : Attempt Notify.interface StoreFailure Nat := do
  c.assets.forM fun a => Attempt.ask id (Notify.store (.upsertAsset a))
  c.bindings.forM fun b => Attempt.ask id (Notify.store (.track b.channel b.caseNumber))
  return c.assets.length + c.bindings.length

/-- A watcher wired to real services. -/
structure Daemon where
  orgId : String
  sinks : Sinks
  resources : ResourceClient
  schedule : Watch.Schedule

/-- What a daemon remembers between its cycles. -/
structure DaemonState where
  support : Support.Client
  watcher : Watch.Watcher
  metrics : Watch.Metrics

namespace Daemon

/-- Wires a daemon over an open store. -/
def start (c : Config) : Attempt Notify.interface Failure (Daemon × DaemonState) := do
  let _ ← (seedStore c).wrap .store
  let sinks ← Attempt.ofExcept .notify (Sinks.ofConfig c)
  let support := Support.Client.ofConfig c sinks.slack.isSome
  return (⟨c.orgId, sinks, .ofConfig c, c.schedule⟩, ⟨support, .new true, .zero⟩)

/-- The daemon's watcher as it is shown. -/
def debug (d : Daemon) (w : Watch.Watcher) : String :=
  "CycleRunner \x7b org_id: " ++ Text.quoted d.orgId ++ ", auto_subscribe: " ++
    (if w.subscribes then "true" else "false") ++ ", pending_deletions: " ++
    Text.quotedList w.queue ++ " \x7d"

/-- Makes a comment, and announces it in its channel if it is to be announced. Whether the
announcement arrives makes no difference. -/
def comment (d : Daemon) (s : Support.Client) (q : CommentRequest) :
    Proc Net.interface (Except Failure Unit) := do
  match ← (s.comment q).outcome with
  | .error f => return .error (.source f)
  | .ok text =>
    match d.sinks.slack, text with
    | some slack, some text =>
      let _ ← slack.post q.channel text
      return .ok ()
    | _, _ => return .ok ()

/-- Meets a request of the watcher with the services, where the client of the case service remembers
the names of cases. -/
def meet (d : Daemon) : (q : Watch.Request) → Support.Client →
    Proc Notify.interface (q.Reply × Support.Client)
  | .fetch, s => Notify.net (s.searchOpen d.orgId)
  | .store q, s => do return (← Notify.store q, s)
  | .announce e, s => do return (← Sink.notifyAll d.sinks.all e, s)
  | .find l, s => do return (← Notify.net (d.resources.find s l).outcome, s)
  | .subscribe _ number emails _, s => do
    return (← Notify.net ((s.subscribe number emails).wrap Failure.source).outcome, s)
  | .comment q, s => do return (← Notify.net (d.comment s q), s)
  | .sleep span, s => do return (← Notify.net (Net.pause span), s)
  | .pause span, s => do
    Notify.net (Net.pause span)
    return (false, s)
  | .isStopping, s => return (false, s)

/-- A program of the watcher as one of the daemon. -/
def wired {α : Type} (d : Daemon) (s : DaemonState)
    (p : Watch.Watcher → Watch.Metrics → Proc Watch.interface (α × Watch.Watcher × Watch.Metrics)) :
    Proc Notify.interface (α × DaemonState) := do
  let ((a, watcher, metrics), support) ← (p s.watcher s.metrics).viaState d.meet s.support
  return (a, ⟨support, watcher, metrics⟩)

/-- One cycle, the polling interval if anything is queued, and a flush. -/
def runOnce (d : Daemon) (s : DaemonState) :
    Proc Notify.interface (Except Failure Watch.Summary × DaemonState) :=
  d.wired s fun w m => Watch.runOnce d.schedule w m

/-- Wires a daemon over an open store and runs it once. -/
def once (c : Config) : Attempt Notify.interface Failure Watch.Summary := do
  let (d, s) ← start c
  let (r, _) ← ExceptT.lift (d.runOnce s)
  Attempt.ofExcept id r

/-- One cycle of the daemon's schedule, with its pause and its flush. -/
def iterate (d : Daemon) (s : DaemonState) : Proc Notify.interface (Bool × DaemonState) :=
  d.wired s fun w m => Watch.iterate d.schedule w m

end Daemon

end CaseHerald
