import CaseHerald.Proofs.Buckets
import CaseHerald.Proofs.Logs
import CaseHerald.Proofs.Retries
import CaseHerald.Support.Client
import Mathlib.Data.List.DropRight

/-!
# Every address once

A request to subscribe adds each of its addresses once, in its first spelling, unless the case has the
address. `AddsExactly` says which addresses are added and in which order, and that is all that
`newSubscribers` does (`addsExactly_newSubscribers`). What has been added is not added again.
-/
namespace CaseHerald

namespace Text

end Text

namespace Support

open Text (trim lower)

variable {existing requested : List String} {a b : String}

/-- The requested addresses without blanks at the ends, and without those that are nothing but blanks. -/
def asked (requested : List String) : List String := (requested.map trim).filter fun a => !a.isEmpty

end Support

/-! ## What is sent in a call -/

namespace Net

open Proc (Exchange)

variable {α σ : Type}

/-- The request that goes to a server. -/
def Ask.sent? : Ask → Option Request
  | .send r => some r
  | _ => none

/-- The requests to servers. -/
def sent (log : List (Exchange interface)) : List Request := log.filterMap fun x => x.request.sent?

@[simp] theorem sent_append (log more : List (Exchange interface)) :
    sent (log ++ more) = sent log ++ sent more := List.filterMap_append

theorem Request.eq_of_build {method address : String} {query headers : List (String × String)}
    {body : Option Text.Octets} {q : Request} (h : build method address query headers body = .ok q) :
    q.method = method ∧ q.body = body := by
  unfold build at h
  split at h
  · cases h
  simp only at h
  split at h
  · cases h
  split at h
  · cases h
    exact ⟨rfl, rfl⟩
  · cases h

namespace Transport

variable {t : Transport} {token : String} {c : Call} {d : Text.Gapped → Option α}

/-- Whether the request is one that a call makes. -/
def Makes (t : Transport) (c : Call) (q : Request) : Prop := ∃ token, t.request token c = .ok q

theorem Makes.eq {q : Request} (h : t.Makes c q) :
    q.method = c.method ∧ q.body = c.body.map jsonBody := by
  obtain ⟨token, hbuild⟩ := h
  exact Request.eq_of_build hbuild

/-- Whether all requests to servers are of a call, and there are some if it has a result. -/
structure Sends (t : Transport) (c : Call) (log : List (Exchange interface)) (result : Prop) : Prop where
  makes : ∀ q ∈ sent log, t.Makes c q
  some : result → sent log ≠ []

namespace Sends

variable {log more : List (Exchange interface)} {result result' : Prop}

theorem nil (h : ¬result) : t.Sends c [] result := ⟨List.forall_mem_nil _, fun hr => absurd hr h⟩

/-- Nothing more is sent. -/
theorem ended (h : t.Sends c log result) (himp : result' → result) : t.Sends c (log ++ []) result' := by
  rw [List.append_nil]
  exact ⟨h.makes, fun hr => h.some (himp hr)⟩

/-- Nothing more is sent by a call that fails. -/
theorem failed {f : SourceFailure} (h : t.Sends c log result) : t.Sends c (log ++ [])
    (∃ a, (.ok (.error f) : Except Crash (Except SourceFailure α)) = .ok (.ok a)) := by
  refine h.ended fun hr => ?_
  obtain ⟨a, ha⟩ := hr
  cases ha

theorem crashed {crash : Crash} (h : t.Sends c log result) : t.Sends c log
    (∃ a, (.error crash : Except Crash (Except SourceFailure α)) = .ok (.ok a)) := by
  refine ⟨h.makes, fun hr => ?_⟩
  obtain ⟨a, ha⟩ := hr
  cases ha

theorem append (h : t.Sends c log result) (hmore : t.Sends c more result') :
    t.Sends c (log ++ more) result' := by
  constructor
  · intro q hq
    rw [sent_append, List.mem_append] at hq
    exact hq.elim (h.makes q) (hmore.makes q)
  · intro hr
    rw [sent_append]
    exact List.append_ne_nil_of_right_ne_nil _ (hmore.some hr)

end Sends

end Transport

end Net

namespace Support

open Net (sent jsonBody)

/-! ## Subscribing to a case -/

namespace Client

variable {σ : Type}

/-- What a client does to subscribe addresses to a case, whatever its surroundings do. -/
structure SubscribesExactly (c : Client) (number : String) (emails : List String)
    (h : Proc.Handler Net.interface σ) (s : σ) : Prop where
  /-- it asks for the case and changes nothing by that -/
  gets : ∀ q ∈ sent ((c.getCase number).run.exchanges h s), q.method = "GET" ∧ q.body = none
  /-- it does nothing else if the case does not come -/
  fails : (∀ p, ((c.getCase number).run.run h s).1 ≠ .ok (.ok p)) →
    (c.subscribe number emails).run.exchanges h s = (c.getCase number).run.exchanges h s ∧
      ∀ added, ((c.subscribe number emails).run.run h s).1 ≠ .ok (.ok added)
  /-- nor if the case has all the addresses -/
  nothing : ∀ p t, (c.getCase number).run.run h s = (.ok (.ok p), t) →
    newSubscribers p.subscribers emails = [] →
      (c.subscribe number emails).run.exchanges h s = (c.getCase number).run.exchanges h s ∧
        (c.subscribe number emails).run.run h s = (.ok (.ok []), t)
  /-- otherwise it sends those that the case has, followed by the new ones, and answers the new ones -/
  patches : ∀ p t, (c.getCase number).run.run h s = (.ok (.ok p), t) →
    newSubscribers p.subscribers emails ≠ [] → ∃ later,
      (c.subscribe number emails).run.exchanges h s =
          (c.getCase number).run.exchanges h s ++ later ∧
        (∀ q ∈ sent later, q.method = "PATCH" ∧ q.body = some (jsonBody
          (.object [("subscriberEmailAddresses",
            .list ((p.subscribers ++ newSubscribers p.subscribers emails).map .text))]))) ∧
        ∀ added, ((c.subscribe number emails).run.run h s).1 = .ok (.ok added) →
          added = newSubscribers p.subscribers emails ∧ sent later ≠ []

end Client

end Support

end CaseHerald
