import CaseHerald.Net.Host
import CaseHerald.Net.Percent

/-!
# Addresses

An address has a scheme; most name a host, and a path on it. Addresses on the web are those that a
client can send requests to. What goes over the wire has a syntax of its own, which is stricter than
that of addresses in general: `Url.isTarget`.
-/
namespace CaseHerald.Net

/-- An address. -/
structure Url where
  /-- in small letters -/
  scheme : String
  /-- a name, and a password after a colon -/
  user : String
  host : Option Host
  /-- the number of the service on the host, if it is not the usual one of the scheme -/
  number : Option Nat
  path : String
  query : Option String
  fragment : Option String
  deriving DecidableEq, Repr

namespace Url

/-- The usual number of the service of a scheme. -/
def usualNumber (scheme : String) : Option Nat :=
  if scheme = "http" ∨ scheme = "ws" then some 80
  else if scheme = "https" ∨ scheme = "wss" then some 443
  else if scheme = "ftp" then some 21
  else none

/-- Whether requests to the address are secured. -/
def isSecure (u : Url) : Bool := u.scheme = "https"

/-- Whether the address is one on the web. -/
def isWeb (u : Url) : Bool := u.scheme = "http" || u.scheme = "https"

/-- The number of the service on the host. -/
def service (u : Url) : Nat := (u.number.orElse fun () => usualNumber u.scheme).getD 0

/-- The host, without brackets, and the number of the service. -/
def hostAndService (u : Url) : String × Nat := ((u.host.map Host.bare).getD "", u.service)

/-- The host, and the number of the service if it is not the usual one. -/
def authority (u : Url) : String :=
  (u.host.map Host.render).getD "" ++ match u.number with
    | none => ""
    | some n => ":" ++ toString n

/-- Whether both addresses are on one host and service. -/
def sharesHost (u v : Url) : Bool := u.host = v.host && u.service = v.service

/-- The path and the query of the address, as a request names them. -/
def target (u : Url) : String :=
  u.path ++ match u.query with
    | none => ""
    | some q => "?" ++ q

/-- The address without its fragment. A path that could be taken for a host is marked. -/
def renderWhole (u : Url) : String :=
  let slashes := match u.host with
    | some _ => "//" ++ (if u.user.isEmpty then "" else u.user ++ "@")
    | none => if u.path.startsWith "//" then "/." else ""
  u.scheme ++ ":" ++ slashes ++ u.authority ++ u.target

/-- The address as text. -/
def render (u : Url) : String :=
  u.renderWhole ++ match u.fragment with
    | none => ""
    | some f => "#" ++ f

/-- The address with a form added to its query. An empty query is none. -/
def addQuery (u : Url) (pairs : List (String × String)) : Url :=
  let front := u.query.getD ""
  let form := String.ofList (formOf pairs)
  let query := if front.isEmpty then form else if pairs.isEmpty then front else front ++ "&" ++ form
  { u with query := if query.isEmpty then none else some query }

/-! ## What goes over the wire -/

/-- Whether the character may stand between the slashes and the path. -/
def isAuthorityChar (c : Char) : Bool :=
  c.isAlphanum || ['!', '$', '&', '\'', '(', ')', '*', '+', ',', '-', '.', ':', ';', '=', '@', '[', ']',
    '_', '~', '%'].contains c

/-- What has been seen of an authority: its colons and whether there is a percent sign since the name
and the brackets, and whether brackets have been opened and closed. -/
structure Seen where
  colons : Nat
  percent : Bool
  opened : Bool
  closed : Bool

/-- The most colons without a name or brackets after them. -/
def mostColons : Nat := 8

/-- One more character of an authority. -/
def Seen.next? (s : Seen) (c : Char) : Option Seen :=
  if !isAuthorityChar c then none
  else if c = ':' then if mostColons ≤ s.colons then none else some { s with colons := s.colons + 1 }
  else if c = '[' then if s.percent || s.opened then none else some { s with opened := true }
  else if c = ']' then
    if !s.opened || s.closed then none
    else some { s with colons := 0, percent := false, closed := true }
  else if c = '@' then some { s with colons := 0, percent := false }
  else if c = '%' then some { s with percent := true }
  else some s

/-- Whether the characters can stand for a host and a service, with a name in front. -/
def isAuthority (cs : List Char) : Bool :=
  match cs.foldlM Seen.next? ⟨0, false, false, false⟩ with
  | none => false
  | some s => s.opened = s.closed && s.colons ≤ 1 && !s.percent && cs.getLast? ≠ some '@'

/-- The longest address and the longest scheme. -/
def mostOctets : Nat := 65534
def mostSchemeOctets : Nat := 64

/-- Whether the address can go over the wire. One without a host has to look like one as a whole. -/
def isTarget (u : Url) : Bool :=
  u.renderWhole.utf8ByteSize ≤ mostOctets && match u.host with
    | none => isAuthority u.renderWhole.toList
    | some _ =>
      let site := (if u.user.isEmpty then "" else u.user ++ "@") ++ u.authority
      !site.isEmpty && isAuthority site.toList && u.scheme.utf8ByteSize ≤ mostSchemeOctets

end Url

end CaseHerald.Net
