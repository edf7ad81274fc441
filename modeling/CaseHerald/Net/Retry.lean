import CaseHerald.Failure
import CaseHerald.Proc
import CaseHerald.Span
import CaseHerald.Text.Numeral

/-!
# Trying again

A call that fails for the moment is tried again after a delay, a bounded number of times. The delay is
the one that the server asks for, or else it grows by a factor with every retry; it never exceeds a
bound. Nothing is waited for after the last try.
-/
namespace CaseHerald.Net

open Number (Extended)

/-- How often and how fast a call is tried again. -/
structure RetryPolicy where
  /-- the tries after the first one -/
  mostRetries : Nat
  first : Span
  longest : Span
  multiplier : Extended
  deriving DecidableEq

/-- The outcome of one try. -/
inductive Tried (α : Type)
  | done (a : α)
  /-- a failure that may pass, and the delay that the server asks for -/
  | transient (reason : String) (after : Option Span)
  | fatal (f : SourceFailure)

namespace RetryPolicy

/-- The policy with the usual delays. -/
def usual (mostRetries : Nat) : RetryPolicy :=
  ⟨mostRetries, .millis 500, .seconds 8, .finite 2⟩

/-- The greatest number of retries whose delays differ. -/
def steepest : Nat := 16

/-- The delay before the retry with the number, counted from zero. -/
def backoff? (p : RetryPolicy) (retry : Nat) : Option Span :=
  let factor := Number.binary32.power p.multiplier.atLeastOne (min retry steepest)
  (p.first.scale? factor).map fun s => s.shorter p.longest

/-- The delay before the retry with the number, where the server may have asked for one. -/
def delay? (p : RetryPolicy) (retry : Nat) : Option Span → Option Span
  | some after => some (after.shorter p.longest)
  | none => p.backoff? retry

/-- The number of tries. -/
def mostTries (p : RetryPolicy) : Nat := min (p.mostRetries + 1) Text.most32

/-- Tries a call, of which `left` tries are left after this one and `retry` have been made. -/
def tryFrom {P : Interface} {α : Type} (p : RetryPolicy) (service : String)
    (pause : Span → Proc P Unit) (call : Proc P (Tried α)) :
    (left retry : Nat) → Proc P (Except SourceFailure α)
  | left, retry => do
    match ← call with
    | .done a => return .ok a
    | .fatal f => return .error f
    | .transient reason after =>
      match left with
      | 0 => return .error (.transient service p.mostTries reason)
      | left + 1 =>
        match p.delay? retry after with
        | none => .halt .delayOverflow
        | some span =>
          pause span
          tryFrom p service pause call left (retry + 1)

/-- Tries a call until it succeeds, fails for good, or has been tried often enough. -/
def run {P : Interface} {α : Type} (p : RetryPolicy) (service : String) (pause : Span → Proc P Unit)
    (call : Proc P (Tried α)) : Proc P (Except SourceFailure α) :=
  p.tryFrom service pause call (p.mostTries - 1) 0

end RetryPolicy

end CaseHerald.Net
