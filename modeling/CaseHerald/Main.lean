import CaseHerald.Daemon
import CaseHerald.Net.Redirect
import CaseHerald.Net.Wire
import CaseHerald.Store.Volume.Written
import Std.Async.DNS
import Std.Async.TCP
import Std.Time.DateTime.Timestamp

/-!
# The program

The requests of the daemon are met by the net, the clock and the files of the machine. Nothing is
decided here. Connections are plain ones: a service that has to be reached over a secure connection
is given by the address of a gateway. A volume is a file that each step on the store reads and writes
under a lock, so that several programs can share it.
-/
namespace CaseHerald.Program

open Std.Async Std.Net
open Text (Octets)

/-! ## The net -/

/-- Receives until the connection is closed. -/
partial def receive (c : TCP.Socket.Client) (received : ByteArray) : Async ByteArray := do
  match ← c.recv? 65536 with
  | none => return received
  | some bytes => receive c (received ++ bytes)

/-- The address of a service on a host. -/
def addressOf (host : IPAddr) (number : UInt16) : SocketAddress :=
  match host with
  | .v4 a => .v4 ⟨a, number⟩
  | .v6 a => .v6 ⟨a, number⟩

/-- Sends a request over a connection of its own; answers all that comes back. -/
def exchange (r : Net.Request) : Async ByteArray := do
  let (host, number) := r.url.hostAndService
  let hosts ← DNS.getAddrInfo host (toString number)
  match hosts[0]? with
  | none => throw (IO.userError "host not found")
  | some found =>
    let c ← TCP.Socket.Client.mk
    c.connect (addressOf found number.toUInt16)
    c.send ⟨r.toWire.toArray⟩
    receive c .empty

/-- The result of a task, unless it takes longer than up to the time. -/
partial def awaitUntil {α : Type} (task : Task (Except IO.Error α)) (stop : Nat) : IO α := do
  if ← IO.hasFinished task then IO.ofExcept task.get
  else if stop ≤ (← IO.monoNanosNow) then throw (IO.userError "operation timed out")
  else
    IO.sleep 2
    awaitUntil task stop

/-- The response to a request, which has to come within the span of time. -/
def respond (limit : Span) (r : Net.Request) : IO (Except String Net.Response) := do
  if r.url.isSecure then return .error "secure connections are not supported"
  try
    let task ← IO.asTask (exchange r).block
    let bytes ← awaitUntil task ((← IO.monoNanosNow) + limit.nanos)
    match Net.responseOfWire? r.method bytes.toList with
    | some response => return .ok response
    | none => return .error "connection closed before message completed"
  catch e => return .error (toString e)

/-! ## The clock and the files -/

/-- Sleeps for a number of milliseconds. -/
partial def sleepFor (millis : Nat) : IO Unit := do
  let most : Nat := 1000000000
  IO.sleep (min millis most).toUInt32
  if most < millis then sleepFor (millis - most)

/-- A number of random bits. -/
def randomNat (bytes : Nat) : IO Nat := do
  return (← IO.getRandomBytes bytes.toUSize).toList.foldl (fun n b => 256 * n + b.toNat) 0

/-- A new token, and the time. -/
def stamp : IO (Guid × Instant) := do
  let nanos : Int := (← Std.Time.Timestamp.now).toNanosecondsSinceUnixEpoch.val
  let time := (Instant.of? (nanos / nanosInSecond) (nanos % nanosInSecond).toNat).getD .closingMark
  return (.ofTime (nanos / 1000000).toNat (← randomNat 10), time)

/-- A failure of the machine in words. -/
def reasonOf : IO.Error → String
  | .noFileOrDirectory .. | .noSuchThing .. => "No such file or directory (os error 2)"
  | .permissionDenied .. => "Permission denied (os error 13)"
  | .alreadyExists .. => "File exists (os error 17)"
  | .inappropriateType .. => "Is a directory (os error 21)"
  | e => toString e

/-- What reading a file gives. -/
def readFile (path : String) : IO (Except String Octets) := do
  try return .ok (← IO.FS.readBinFile path).toList
  catch e => return .error (reasonOf e)

/-- Meets the requests of a client, where a response has to come within the span of time. -/
def meetNet (limit : Span) : (a : Net.Ask) → IO a.Reply
  | .send r => Net.follow (respond limit) r
  | .readFile path => readFile path
  | .pause span => sleepFor span.wholeMillis
  | .stamp => stamp

/-- Runs the program of a client. -/
def runNet {α : Type} (limit : Span) : Proc Net.interface α → IO (Except Crash α)
  | .done a => return .ok a
  | .ask q next => do runNet limit (next (← meetNet limit q))
  | .halt crash => return .error crash

/-! ## The store -/

/-- The folder of a volume, and the namespace of a store on it. -/
structure Shelf where
  folder : String
  space : String

namespace Shelf

/-- The file of the volume. -/
def file (s : Shelf) : String := s.folder ++ "/volume.json"

/-- Does something while no other program does. -/
def locked {α : Type} (s : Shelf) (act : IO α) : IO α :=
  IO.FS.withFile (s.folder ++ "/volume.lock") .append fun handle => do
    handle.lock
    try act finally handle.unlock

/-- The volume in the file, if there is one. -/
def load (s : Shelf) : IO (Except VolumeFailure (Option Store.Volume)) := do
  match ← readFile s.file with
  | .error _ => return .ok none
  | .ok bytes =>
    match (Json.read? (Text.ofOctets bytes)).bind Store.Volume.ofJson? with
    | some v => return .ok (some v)
    | none => return .error (.environment "the file of the volume is damaged")

/-- Puts the volume in place of the one in the file. -/
def save (s : Shelf) (v : Store.Volume) : IO Unit := do
  IO.FS.writeFile (s.file ++ ".new") v.toJson.render
  IO.FS.rename (s.file ++ ".new") s.file

/-- The volume with the tables of the store, opened with the size. -/
def prepare (s : Shelf) (fresh : Store.Volume) : IO (Except VolumeFailure Unit) := do
  match ← s.load with
  | .error f => return .error f
  | .ok found =>
    let v := match found with
      | some v => { fresh with tables := v.tables }
      | none => fresh
    match v.addStore s.space with
    | .error f => return .error f
    | .ok v =>
      s.save v
      return .ok ()

/-- Opens the store that a configuration tells. -/
def openFor (c : Config) : IO (Except VolumeFailure Shelf) := do
  let s : Shelf := ⟨c.storePath, c.projectId⟩
  match Store.Volume.create c.storeSize with
  | .error f => return .error f
  | .ok fresh =>
    try
      IO.FS.createDirAll s.folder
      return (← s.locked (s.prepare fresh)).map fun () => s
    catch e => return .error (.io (reasonOf e))

/-- Does one step on the store. -/
def ask (s : Shelf) (q : Store.Query) : IO (Except StoreFailure q.Answer) := do
  try
    s.locked do
      match ← s.load with
      | .error f => return .error f.toStore
      | .ok none => return .error (.backend "the file of the volume is missing")
      | .ok (some v) =>
        let (fresh, _) ← stamp
        let (r, v) := v.answer fresh s.space q
        s.save v
        return r
  catch e => return .error (.backend (reasonOf e))

end Shelf

/-! ## The daemon -/

/-- Meets the requests of the daemon. -/
def meet (limit : Span) (s : Shelf) : (q : Notify.Request) → IO q.Reply
  | .net a => meetNet limit a
  | .store q => s.ask q
  | .start p => do
    let _ ← IO.asTask (runNet limit p)
    return ()

/-- Runs the program of the daemon. -/
def run {α : Type} (limit : Span) (s : Shelf) : Proc Notify.interface α → IO (Except Crash α)
  | .done a => return .ok a
  | .ask q next => do run limit s (next (← meet limit s q))
  | .halt crash => return .error crash

/-- The result of a program of the daemon, which ends with a failure if it crashes. -/
def result {α : Type} (limit : Span) (s : Shelf) (p : Proc Notify.interface α) : IO α := do
  match ← run limit s p with
  | .ok a => return a
  | .error _ => throw (IO.userError "a delay is too long")

/-- Runs one cycle after the other. -/
partial def forever (limit : Span) (log : LogFormat) (shelf : Shelf) (d : Daemon) (s : DaemonState) :
    IO Unit := do
  let (_, s) ← result limit shelf (d.iterate s)
  IO.println (log.line "INFO" ("Cycles completed: " ++ toString s.metrics.cycles))
  forever limit log shelf d s

/-- Runs the daemon of a configuration. -/
def runDaemon (log : LogFormat) (once : Bool) (c : Config) : IO (Except DaemonFailure Unit) := do
  match ← Shelf.openFor c with
  | .error f => return .error (.watch (.store f.toStore))
  | .ok shelf =>
    let limit := Span.seconds c.requestTimeout
    if once then
      match ← result limit shelf (Daemon.once c).outcome with
      | .ok _ => return .ok ()
      | .error f => return .error (.watch f)
    else
      match ← result limit shelf (Daemon.start c).outcome with
      | .error f => return .error (.watch f)
      | .ok (d, s) =>
        forever limit log shelf d s
        return .ok ()

/-- The variables that matter. -/
def knownVariables : List String :=
  [Arguments.configVariable, LogFormat.variable] ++ Config.overrides.map (·.1)

/-- The variables of the environment that matter. -/
def readEnvironment : IO Environment := do
  let values ← knownVariables.mapM fun name => do return (name, ← IO.getEnv name)
  return fun name => (values.find? fun v => v.1 == name).bind (·.2)

/-- Reads the arguments and the configuration and runs the daemon. -/
def start (args : List String) : IO (Except DaemonFailure Unit) := do
  let env ← readEnvironment
  match Arguments.read args with
  | .error f => return .error f
  | .ok a =>
    let a := a.orElse (env Arguments.configVariable)
    let log := LogFormat.read (env LogFormat.variable)
    let file ← a.config.mapM fun path => do return (path, ← readFile path)
    match Config.load file env with
    | .error f => return .error (.config f)
    | .ok c =>
      IO.println (log.line "INFO" "Configuration loaded")
      runDaemon log a.once c

end CaseHerald.Program

/-- Runs the program; answers its exit code. -/
def main (args : List String) : IO UInt32 := do
  match ← CaseHerald.Program.start args with
  | .ok () => return 0
  | .error f =>
    IO.eprintln ("casewatch: " ++ f.message)
    return 1
