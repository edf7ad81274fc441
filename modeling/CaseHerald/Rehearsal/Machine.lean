import CaseHerald.Rehearsal.Site

/-!
# Rehearsing processes

A `Machine` keeps the disk of the processes that run on it one after another. Each process reads its
arguments and its configuration, opens the store that these name, and runs a daemon once.
-/
namespace CaseHerald.Rehearsal

open Store (Volume)

/-- What lasts from one process to the next. -/
structure Machine where
  disk : Disk
  /-- the number of the next write's token -/
  next : Nat

namespace Machine

/-- A machine whose processes work in the folder at the path. -/
def new (path : String) : Machine := ⟨Disk.bare.enter path, 1⟩

/-- The machine with another file. -/
def withFile (m : Machine) (path : String) (contents : Text.Octets) : Machine :=
  { m with disk := m.disk.withFile path (some contents) }

/-- The disk after the store in a folder has been used. -/
def diskAfter (d : Disk) (folder : Place) : Backing → Disk
  | .volume v _ => d.put (Disk.dataIn folder) (.volume v)
  | _ => d

/-- Runs the daemon of a configuration once. -/
def runDaemon (m : Machine) (c : Config) (server : Server) :
    Except Crash (Except DaemonFailure Unit) × Server × Machine :=
  let (opened, disk) := m.disk.openAt c.storePath c.storeSize
  let m := { m with disk }
  let server := { server with disk }
  match opened with
  | .error f => (.ok (.error (.watch (.store f.toStore))), server, m)
  | .ok (folder, v) =>
    match openSpace (.ok v) c.projectId with
    | .error crash => (.error crash, server, m)
    | .ok (.error f) => (.ok (.error (.watch (.store f))), server, m)
    | .ok (.ok backing) =>
      let (r, s) := (Daemon.once c).outcome.run Site.handler ⟨server, backing, m.next⟩
      (r.map fun r => match r with
        | .ok _ => .ok ()
        | .error f => .error (.watch f), s.server, ⟨diskAfter disk folder s.backing, s.next⟩)

/-- Runs one process with its arguments and environment. -/
def runProcess (m : Machine) (args : List String) (env : Environment) (authority : String)
    (script : List Reply) : Except Crash (Except DaemonFailure Unit) × Server × Machine :=
  let server := Server.new authority script m.disk
  match Arguments.read args with
  | .error f => (.ok (.error f), server, m)
  | .ok a =>
    let a := a.orElse (env Arguments.configVariable)
    match Config.load (a.config.map fun path => (path, server.read path)) env with
    | .error f => (.ok (.error (.config f)), server, m)
    | .ok c => m.runDaemon c server

end Machine

end CaseHerald.Rehearsal
