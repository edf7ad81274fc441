import CaseHerald.Net.Retry

/-!
# Rehearsing retries

A call whose outcomes are scripted is tried under a policy, on a clock that moves only by the delays.
The last outcome of the script is repeated.
-/
namespace CaseHerald.Rehearsal

open Net (RetryPolicy Tried)

/-- A request of a call that is tried again. -/
inductive RetryRequest
  | call
  | pause (span : Span)

/-- The reply to a request, where a call has an outcome unless the script is empty. -/
def RetryRequest.Reply (α : Type) : RetryRequest → Type
  | .call => Option (Tried α)
  | .pause _ => Unit

/-- The interface of a call that is tried again. -/
def retryInterface (α : Type) : Interface := ⟨RetryRequest, RetryRequest.Reply α⟩

/-- The outcomes to come, the time on the clock, and the times of the calls, the last one first. -/
structure Trial (α : Type) where
  script : List (Tried α)
  now : Span
  calls : List Span

namespace Trial

variable {α : Type}

/-- Meets the requests of a call that is tried again. -/
def handler : Proc.Handler (retryInterface α) (Trial α)
  | .call, t =>
    (t.script.head?, { t with
      script := if t.script.length ≤ 1 then t.script else t.script.drop 1
      calls := t.now :: t.calls })
  | .pause span, t => ((), { t with now := ⟨t.now.nanos + span.nanos⟩ })

/-- One call, which succeeds with `z` where nothing is scripted. -/
def call (z : α) : Proc (retryInterface α) (Tried α) := do
  let (found : Option (Tried α)) ← Proc.request (P := retryInterface α) .call
  return found.getD (.done z)

/-- Tries a call with the outcomes under a policy; answers the result and the time of each call. -/
def run (p : RetryPolicy) (service : String) (z : α) (script : List (Tried α)) :
    Except Crash (Except SourceFailure α) × List Span :=
  let pause (span : Span) : Proc (retryInterface α) Unit :=
    Proc.request (P := retryInterface α) (.pause span)
  let (r, t) := (p.run service pause (call z)).run handler ⟨script, ⟨0⟩, []⟩
  (r, t.calls.reverse)

end Trial

end CaseHerald.Rehearsal
