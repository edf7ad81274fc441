import CaseHerald.Event
import CaseHerald.Failure
import CaseHerald.Proc
import CaseHerald.Text.Quoted

/-!
# Delivery to several sinks

Every sink gets every announcement, whatever becomes of the others. The delivery fails if one of them
does, and its failure names each sink that failed, in order.
-/
namespace CaseHerald

/-- A named way to deliver announcements. -/
structure Sink (P : Interface) where
  name : String
  notify : Event → Proc P (Except NotifyFailure Unit)

namespace Sink

variable {P : Interface}

/-- The outcome of a delivery, given that of each sink. -/
def combine (results : List (String × Except NotifyFailure Unit)) : Except NotifyFailure Unit :=
  let failures := results.filterMap fun
    | (name, .error f) => some (name ++ ": " ++ f.message)
    | (_, .ok ()) => none
  if failures.isEmpty then .ok ()
  else .error (.delivery "fanout" (String.intercalate "; " failures))

/-- Delivers an announcement to all sinks. -/
def notifyAll (sinks : List (Sink P)) (e : Event) : Proc P (Except NotifyFailure Unit) := do
  let results ← sinks.mapM fun s => do return (s.name, ← s.notify e)
  return combine results

/-- The sinks as they are shown. -/
def debug (sinks : List (Sink P)) : String :=
  "FanoutNotifier \x7b sinks: " ++ Text.quotedList (sinks.map (·.name)) ++ " \x7d"

end Sink

end CaseHerald
