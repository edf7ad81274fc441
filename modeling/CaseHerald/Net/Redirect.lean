import CaseHerald.Net.Http

/-!
# References to other addresses

A response may refer to another address. A client follows such references, a bounded number of times,
and shows its token only to the host that it was meant for. A response whose reference names no
address that a request could go to is the answer itself.
-/
namespace CaseHerald.Net

namespace Request

/-- The address that a response refers to, in the form that goes over the wire. -/
def referred? (r : Request) (response : Response) : Option Url := do
  let location ← response.header? "location"
  let text ← Text.strict? (Text.ofOctets location)
  let url ← Url.read? (some r.url) text
  if url.isTarget then
    some { url with fragment := none, path := if url.path.isEmpty then "/" else url.path }
  else none

/-- Whether a status refers to another address. -/
def isReference (status : Nat) : Bool := [301, 302, 303, 307, 308].contains status

/-- Whether the document at the other address is asked for, and not the same thing once more. -/
def asksAnew (r : Request) (status : Nat) : Bool :=
  status = 303 || ((status = 301 || status = 302) && r.method = "POST")

/-- The request that asks for the document at an address. -/
def anew (r : Request) : Request :=
  { r with
    method := if r.method = "HEAD" then "HEAD" else "GET"
    headers := r.headers.filter fun h => h.1 != "content-type"
    body := none }

/-- The request at another address, without the token on another host. -/
def moved (r : Request) (url : Url) : Request :=
  { r with
    url
    headers := if url.sharesHost r.url then r.headers
      else r.headers.filter fun h => h.1 != "authorization" }

/-- The address that has to be asked next, if the response refers to one. -/
def next? (r : Request) (response : Response) : Option Url :=
  if isReference response.status then r.referred? response else none

/-- The request that follows a response which refers to the address. -/
def following (r : Request) (status : Nat) (url : Url) : Request :=
  (if r.asksAnew status then r.anew else r).moved url

end Request

/-- The most references that are followed. -/
def mostReferences : Nat := 10

/-- The response to a request, where at most `left` references are followed. -/
def followFrom {m : Type → Type} [Monad m] (send : Request → m (Except String Response)) :
    (left : Nat) → Request → m (Except SendFailure Response)
  | left, r => do
    match ← send r with
    | .error reason => return .error (.lost reason)
    | .ok response =>
      match r.next? response, left with
      | none, _ => return .ok response
      | some _, 0 =>
        return .error (.lost ("error following redirect for url (" ++ r.url.render ++ ")"))
      | some url, left + 1 =>
        if url.isWeb then followFrom send left (r.following response.status url)
        else return .error (.misled (unfitFor url))

/-- The response to a request after all references. -/
def follow {m : Type → Type} [Monad m] (send : Request → m (Except String Response)) (r : Request) :
    m (Except SendFailure Response) :=
  followFrom send mostReferences r

end CaseHerald.Net
