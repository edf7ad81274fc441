import CaseHerald.Net.Http
import CaseHerald.Store.Query

/-!
# What deliveries ask for

A delivery asks the net, looks into the store for the channels that follow a case, and may start a
program that goes on by itself.
-/
namespace CaseHerald.Notify

/-- A request of a delivery. -/
inductive Request
  | net (a : Net.Ask)
  /-- does a step on the store -/
  | store (q : Store.Query)
  /-- starts a program that goes on by itself -/
  | start (p : Proc Net.interface Unit)

/-- The reply to a request of a delivery. -/
def Request.Reply : Request → Type
  | .net a => a.Reply
  | .store q => Except StoreFailure q.Answer
  | .start _ => Unit

/-- The interface of deliveries. -/
def interface : Interface := ⟨Request, Request.Reply⟩

/-- A program that asks the net. -/
def net {α : Type} (p : Proc Net.interface α) : Proc interface α :=
  p.via fun a => Proc.request (P := interface) (.net a)

/-- A step on the store. -/
def store (q : Store.Query) : Proc interface (Except StoreFailure q.Answer) :=
  Proc.request (P := interface) (.store q)

/-- Starts a program that goes on by itself. -/
def start (p : Proc Net.interface Unit) : Proc interface Unit :=
  Proc.request (P := interface) (.start p)

end CaseHerald.Notify
