import CaseHerald.Daemon
import CaseHerald.Rehearsal.Server
import CaseHerald.Rehearsal.Session

/-!
# Rehearsing deliveries and the daemon

A `Site` is everything that a daemon meets: a scripted server and a store. A program that is started
to go on by itself gets as far as its first pause.
-/
namespace CaseHerald.Rehearsal

open Net (Ask Request)

/-- Everything that a daemon meets. -/
structure Site where
  server : Server
  backing : Backing
  /-- the number of the next write's token -/
  next : Nat

/-- The program up to its first pause. -/
def upToPause : Proc Net.interface Unit → Proc Net.interface Unit
  | .done () => .done ()
  | .ask (.pause _) _ => .done ()
  | .ask q next => .ask q fun r => upToPause (next r)
  | .halt crash => .halt crash

namespace Site

/-- A site with an empty store in memory. -/
def new (server : Server) : Site := ⟨server, .memory .empty, 1⟩

/-- Meets the requests of a daemon. -/
def handler : Proc.Handler Notify.interface Site
  | .net a, s =>
    let (r, server) := Server.handler a s.server
    (r, { s with server })
  | .store q, s =>
    let (r, backing) := s.backing.answer (.ofNat s.next) q
    (r, { s with backing, next := s.next + 1 })
  | .start p, s => ((), { s with server := ((upToPause p).run Server.handler s.server).2 })

end Site

/-! ## Wiring a daemon -/

/-- Gives the store the configured assets and channels twice. Answers the number of entries each time,
the followers of each case with a configured channel, and the assets. -/
def seedTwice (c : Config) : Proc Notify.interface (List (Except StoreFailure Nat) ×
    List (String × Except StoreFailure (List String)) × Except StoreFailure (List Asset)) := do
  let first ← (seedStore c).outcome
  let second ← (seedStore c).outcome
  let followers ← c.bindings.mapM fun b => do
    return (b.caseNumber, ← Notify.store (.channels b.caseNumber))
  let assets ← Notify.store .assets
  return ([first, second], followers, assets)

/-- Wires the daemon of a configuration over a fresh volume that holds its namespace. -/
def wire (c : Config) (server : Server) : Except Crash (Except Failure (Daemon × DaemonState)) :=
  match openVolume c.projectId c.storeSize with
  | .error crash => .error crash
  | .ok (.error f) => .ok (.error (.store f))
  | .ok (.ok backing) => ((Daemon.start c).outcome.run Site.handler ⟨server, backing, 1⟩).1

end CaseHerald.Rehearsal
