import CaseHerald.Failure
import CaseHerald.Json.Writer
import CaseHerald.Net.Url.Reader
import CaseHerald.Number.Decimal
import CaseHerald.Proc
import CaseHerald.Span
import CaseHerald.Guid
import CaseHerald.Instant.Basic
import CaseHerald.Text.Blank

/-!
# Requests and responses

A request is built from an address, a query, headers and a body; it cannot be built if the address or
a header makes no sense. A response is its status, its headers and the octets of its body.
`Net.interface` is what the clients of the services ask for.
-/
namespace CaseHerald.Net

open Text (Octets octets)

/-- A request to a server. -/
structure Request where
  method : String
  url : Url
  headers : List (String × String)
  body : Option Octets
  deriving DecidableEq

/-- What a server answers. -/
structure Response where
  status : Nat
  headers : List (String × Octets)
  body : Octets
  deriving DecidableEq

/-- Whether a header may hold the character. -/
def isHeaderChar (c : Char) : Bool := c = '\t' || (0x20 ≤ c.toNat && c.toNat ≠ 0x7F)

/-- Why no request can be built. -/
def unfit : String := "builder error"

/-- Why no request can be built for an address. -/
def unfitFor (u : Url) : String := unfit ++ " for url (" ++ u.render ++ ")"

namespace Request

/-- The request of its parts. It cannot be built from an address that is not on the web or from a
header that holds a control character. -/
def build (method address : String) (query headers : List (String × String)) (body : Option Octets) :
    Except String Request :=
  match Url.read? none address with
  | none => .error unfit
  | some url =>
    let url := url.addQuery query
    if !url.isWeb || !url.isTarget then .error (unfitFor url)
    else if headers.all fun h => h.2.toList.all isHeaderChar then .ok { method, url, headers, body }
    else .error unfit

/-- The value of the header. -/
def header? (r : Request) (name : String) : Option String :=
  (r.headers.find? fun h => h.1 = name).map (·.2)

end Request

/-- The header that carries a token. -/
def bearer (token : String) : String × String := ("authorization", "Bearer " ++ token)

/-- The header of a body in JSON. -/
def jsonContent : String × String := ("content-type", "application/json")

/-- The octets of a document. -/
def jsonBody (v : Json.Value) : Octets := octets v.render

namespace Response

/-- The value of the first header with the name, in letters of either case. -/
def header? (r : Response) (name : String) : Option Octets :=
  (r.headers.find? fun h => h.1.toList.map Char.toLower = name.toList).map (·.2)

/-- Whether the status is that of success. -/
def isSuccess (r : Response) : Bool := 200 ≤ r.status && r.status < 300

/-- The body as text, where octets that encode no text are replaced. -/
def text (r : Response) : String := Text.tolerant (Text.ofOctets r.body)

/-- The delay that the server asks for in seconds, if it is a number that is not negative. The outer
option is none for a number too large for a span of time. -/
def retryAfter (r : Response) : Option (Option Span) :=
  match r.header? "retry-after" with
  | none => some none
  | some value =>
    if value.all fun b => b = 0x09 || (0x20 ≤ b && b < 0x7F) then
      match Number.real? Number.binary64 (Text.trim (Text.tolerant (Text.ofOctets value))) with
      | some (.finite q) => if q < 0 then some none else (Span.ofSeconds? (.finite q)).map some
      | _ => some none
    else some none

end Response

/-! ## Classes of status -/

/-- How a status is taken. -/
inductive StatusClass
  | success
  /-- another try may help -/
  | transient
  | permanent
  deriving DecidableEq, Repr

/-- The class of a status. -/
def StatusClass.of (status : Nat) : StatusClass :=
  if 200 ≤ status ∧ status < 300 then .success
  else if status = 429 ∨ status = 408 ∨ (500 ≤ status ∧ status < 600) then .transient
  else .permanent

/-! ## The interface -/

/-- A request of a client. -/
inductive Ask
  /-- sends a request -/
  | send (r : Request)
  /-- reads a file -/
  | readFile (path : String)
  /-- lets a span of time pass -/
  | pause (span : Span)
  /-- a new token, and the time -/
  | stamp

/-- Why a request has no response. -/
inductive SendFailure
  /-- it got lost -/
  | lost (reason : String)
  /-- it was referred to an address that no request can be built for -/
  | misled (reason : String)
  deriving DecidableEq, Repr

/-- The failure in words. -/
def SendFailure.reason : SendFailure → String
  | .lost reason | .misled reason => reason

/-- The reply to a request of a client. A request may have no response, and a file may not be readable;
both tell why. -/
def Ask.Reply : Ask → Type
  | .send _ => Except SendFailure Response
  | .readFile _ => Except String Octets
  | .pause _ => Unit
  | .stamp => Guid × Instant

/-- The interface of the clients. -/
def interface : Interface := ⟨Ask, Ask.Reply⟩

/-- Sends a request. -/
def send (r : Request) : Proc interface (Except SendFailure Response) :=
  Proc.request (P := interface) (.send r)

/-- Reads a file. -/
def readFile (path : String) : Proc interface (Except String Octets) :=
  Proc.request (P := interface) (.readFile path)

/-- Lets a span of time pass. -/
def pause (span : Span) : Proc interface Unit := Proc.request (P := interface) (.pause span)

/-- A new token, and the time. -/
def stamp : Proc interface (Guid × Instant) := Proc.request (P := interface) .stamp

end CaseHerald.Net
