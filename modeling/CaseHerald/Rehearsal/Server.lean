import CaseHerald.Json.Document
import CaseHerald.Net.Redirect
import CaseHerald.Rehearsal.Disk

/-!
# A server for rehearsals

The server answers each request with the next reply of its script and records what it is asked. It
has the disk that clients read from as well, and a clock on which nothing takes time. Only requests to
its own address reach it. A reply that refers to another address is followed, as a client does.
-/
namespace CaseHerald.Rehearsal

open Json (Value)
open Net (Ask Request Response Url)
open Text (Octets octets)

/-- A reply of the script. -/
inductive Reply
  | respond (r : Response)
  /-- closes the connection without an answer -/
  | drop
  /-- answers for ever with a page that has these fields and a new token each time -/
  | pages (fields : List (String × Value))

/-- A scripted server. -/
structure Server where
  /-- its host and the number of its service -/
  authority : String
  script : List Reply
  /-- the number of pages given so far -/
  pages : Nat
  /-- the requests since they were last taken, the last one first -/
  requests : List Request
  /-- the pauses of clients since they were last taken, the last one first -/
  pauses : List Span
  disk : Disk
  /-- the number of tokens given so far -/
  stamps : Nat

namespace Server

/-- A server that has not been asked anything. -/
def new (authority : String) (script : List Reply) (disk : Disk) : Server :=
  { authority, script, pages := 0, requests := [], pauses := [], disk, stamps := 0 }

/-- The answer in JSON with the status. -/
def document (status : Nat) (v : Value) : Response :=
  ⟨status, [("content-type", octets "application/json")], Net.jsonBody v⟩

/-- The answer when the script has ended. -/
def exhausted : Response :=
  document 404 (.object [("error", .object [("message", .text "script exhausted")])])

/-- The page with a number. -/
def page (fields : List (String × Value)) (number : Nat) : Response :=
  document 200 (.object (fields.filter (fun f => f.1 != "nextPageToken") ++
    [("nextPageToken", .text ("t" ++ toString number))]))

/-- The next reply, unless the connection is closed. -/
def reply (s : Server) : Option Response × Server :=
  match s.script with
  | [] => (some exhausted, s)
  | .respond r :: rest => (some r, { s with script := rest })
  | .drop :: rest => (none, { s with script := rest })
  | .pages fields :: _ => (some (page fields (s.pages + 1)), { s with pages := s.pages + 1 })

/-- Whether the name of a header may hold the character. -/
def isTokenChar (c : Char) : Bool := c.isAlphanum || "!#$%&'*+-.^_|~".toList.contains c || c = '\x60'

/-- Whether a header has the form that goes over the wire: its name is a token, and its value holds no
control character but tabs. -/
def isSound (h : String × Octets) : Bool :=
  !h.1.isEmpty && h.1.toList.all isTokenChar && h.2.all fun b => b = 0x09 || (0x20 ≤ b && b ≠ 0x7F)

/-- The response as it arrives: without a body where the method or the status allows none, and not at
all where the status is only a notice or no status, or where a header has no sound form. -/
def arriving? (method : String) (r : Response) : Option Response :=
  if (r.status < 200 ∧ r.status ≠ 101) ∨ 999 < r.status ∨ !r.headers.all isSound then none
  else if method = "HEAD" ∨ r.status = 101 ∨ r.status = 204 ∨ r.status = 304 then
    some { r with body := [] }
  else some r

/-- The reply to a request. -/
def answer (s : Server) (r : Request) : Except String Response × Server :=
  let lost : Except String Response := .error ("error sending request for url (" ++ r.url.render ++ ")")
  if r.url.isSecure || r.url.authority != s.authority then (lost, s)
  else
    let (found, s) := { s with requests := r :: s.requests }.reply
    match found.bind (arriving? r.method) with
    | some response => (.ok response, s)
    | none => (lost, s)

/-- What reading the file at the path gives. -/
def read (s : Server) (path : String) : Except String Octets :=
  (s.disk.contents path).mapError DiskFault.message

/-- The server with the contents in the file at the path, or without the file. -/
def withFile (s : Server) (path : String) (contents : Option Octets) : Server :=
  { s with disk := s.disk.withFile path contents }

/-- The time on the clock. -/
def now : Instant := .atSecond 1704067200 (by decide) (by decide)

/-- Meets the requests of a client. -/
def handler : Proc.Handler Net.interface Server
  | .send r, s => (Net.follow (m := StateM Server) (fun r s => s.answer r) r).run s
  | .readFile path, s => (s.read path, s)
  | .pause span, s => ((), { s with pauses := span :: s.pauses })
  | .stamp, s => ((.ofNat (s.stamps + 1), now), { s with stamps := s.stamps + 1 })

/-- The requests and the pauses since they were last taken. -/
def take (s : Server) : List Request × List Span × Server :=
  (s.requests.reverse, s.pauses.reverse, { s with requests := [], pauses := [] })

end Server

end CaseHerald.Rehearsal
