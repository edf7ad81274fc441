import CaseHerald.Failure
import CaseHerald.Store.Query

/-!
# Faults of the store for rehearsals

A fault waits for a call to the store of its kind. It lets some through, then acts on one, and is
gone. Of the faults that wait for the same kind of call only the first is looked at.
-/
namespace CaseHerald.Rehearsal

/-- The kinds of call that a fault can wait for. -/
inductive Call
  | write
  | delete
  | firstWriter
  | list
  | assets
  deriving DecidableEq, Repr

/-- The kind of a step on the store, if a fault can wait for it. -/
def Call.ofQuery? : Store.Query → Option Call
  | .write _ => some .write
  | .delete _ => some .delete
  | .firstWriter .. => some .firstWriter
  | .list => some .list
  | .assets => some .assets
  | _ => none

/-- What a fault does. -/
inductive Effect
  /-- the call fails -/
  | fail (f : StoreFailure)
  /-- somebody else writes the same record just before -/
  | raced
  /-- there seems to be no first writer -/
  | missing
  deriving DecidableEq

/-- A fault that waits. -/
structure Fault where
  call : Call
  skip : Nat
  effect : Effect
  deriving DecidableEq

/-- The effect on a call of the kind, and the faults that are left. -/
def takeFault (call : Call) : List Fault → Option Effect × List Fault
  | [] => (none, [])
  | f :: rest =>
    if f.call = call then
      if f.skip = 0 then (some f.effect, rest) else (none, { f with skip := f.skip - 1 } :: rest)
    else
      let (effect, rest) := takeFault call rest
      (effect, f :: rest)

end CaseHerald.Rehearsal
