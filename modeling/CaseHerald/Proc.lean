/-!
# Programs that ask

A `Proc` is a program that asks its surroundings, through an `Interface`, and goes on with what they
reply. It says nothing of how the requests are met. `Proc.run` meets them by a function on a state, and
`Proc.viaState` by programs that ask another interface in turn.
-/
namespace CaseHerald

/-- Why a program stops without a result. -/
inductive Crash
  /-- a delay is longer than can be told -/
  | delayOverflow
  /-- a name that may not hold a NUL character does -/
  | nameWithNul
  deriving DecidableEq, Repr

/-- The requests that a program can make, and the reply to each. -/
structure Interface where
  Request : Type
  Reply : Request → Type

/-- A program that asks the interface and ends with a result or a crash. -/
inductive Proc (P : Interface) (α : Type)
  | done (a : α)
  | ask (q : P.Request) (next : P.Reply q → Proc P α)
  | halt (crash : Crash)

namespace Proc

variable {P Q : Interface} {α β σ : Type}

/-- The program that makes one request and ends with the reply. -/
def request (q : P.Request) : Proc P (P.Reply q) := .ask q .done

/-- One program and then the other with its result. -/
def bind : Proc P α → (α → Proc P β) → Proc P β
  | .done a, f => f a
  | .ask q next, f => .ask q fun r => (next r).bind f
  | .halt crash, _ => .halt crash

instance : Monad (Proc P) where
  pure := .done
  bind := bind

@[simp] theorem done_bind (a : α) (f : α → Proc P β) : (Proc.done a : Proc P α) >>= f = f a := rfl

@[simp] theorem ask_bind (q : P.Request) (next : P.Reply q → Proc P α) (f : α → Proc P β) :
    Proc.ask q next >>= f = .ask q fun r => next r >>= f := rfl

@[simp] theorem halt_bind (crash : Crash) (f : α → Proc P β) :
    (Proc.halt crash : Proc P α) >>= f = .halt crash := rfl

theorem bind_done (p : Proc P α) : (p >>= fun a => Proc.done a) = p := by
  induction p with
  | done a => rfl
  | ask q next ih => exact congrArg (Proc.ask q) (funext ih)
  | halt crash => rfl

theorem bind_assoc {γ : Type} (p : Proc P α) (f : α → Proc P β) (g : β → Proc P γ) :
    p >>= f >>= g = p >>= fun a => f a >>= g := by
  induction p with
  | done a => rfl
  | ask q next ih => exact congrArg (Proc.ask q) (funext ih)
  | halt crash => rfl

instance : LawfulMonad (Proc P) := LawfulMonad.mk' _
  (fun p => bind_done p) (fun _ _ => rfl) (fun p f g => bind_assoc p f g)

/-- A way to meet requests: the reply and the state after it. -/
abbrev Handler (P : Interface) (σ : Type) := (q : P.Request) → σ → P.Reply q × σ

/-- The result of a program whose requests are met by the handler, and the state at its end. -/
def run (h : Handler P σ) : Proc P α → σ → Except Crash α × σ
  | .done a, s => (.ok a, s)
  | .ask q next, s => let r := h q s; (next r.1).run h r.2
  | .halt crash, s => (.error crash, s)

@[simp] theorem run_done (h : Handler P σ) (a : α) (s : σ) :
    (Proc.done a : Proc P α).run h s = (.ok a, s) := rfl

@[simp] theorem run_ask (h : Handler P σ) (q : P.Request) (next : P.Reply q → Proc P α) (s : σ) :
    (Proc.ask q next).run h s = (next (h q s).1).run h (h q s).2 := rfl

theorem run_bind (h : Handler P σ) (p : Proc P α) (f : α → Proc P β) (s : σ) :
    (p >>= f).run h s =
      match p.run h s with
      | (.ok a, t) => (f a).run h t
      | (.error crash, t) => (.error crash, t) := by
  induction p generalizing s with
  | done a => rfl
  | ask q next ih => exact ih _ _
  | halt crash => rfl

/-- The program whose requests are met by programs that ask another interface and share a state. -/
def viaState (h : (q : P.Request) → σ → Proc Q (P.Reply q × σ)) : Proc P α → σ → Proc Q (α × σ)
  | .done a, s => .done (a, s)
  | .ask q next, s => (h q s).bind fun r => (next r.1).viaState h r.2
  | .halt crash, _ => .halt crash

/-- The program whose requests are met by programs that ask another interface. -/
def via (h : (q : P.Request) → Proc Q (P.Reply q)) : Proc P α → Proc Q α
  | .done a => .done a
  | .ask q next => (h q).bind fun r => (next r).via h
  | .halt crash => .halt crash

end Proc

/-- A program that may fail. -/
abbrev Attempt (P : Interface) (ε α : Type) := ExceptT ε (Proc P) α

namespace Attempt

variable {P : Interface} {ε α : Type}

/-- A request whose reply may be a failure, which `wrap` puts in the terms of the program. -/
def ask {δ : Type} (wrap : δ → ε) (p : Proc P (Except δ α)) : Attempt P ε α :=
  ExceptT.mk (Functor.map (fun r => match r with
    | .ok a => .ok a
    | .error e => .error (wrap e)) p)

/-- The program with its failure as a result. -/
def outcome (p : Attempt P ε α) : Proc P (Except ε α) := p.run

/-- The program with its failure as a result, inside a program that may fail otherwise. -/
def caught {δ : Type} (p : Attempt P ε α) : Attempt P δ (Except ε α) := ExceptT.lift p.run

/-- The program with its failure put in other terms. -/
def wrap {δ : Type} (f : ε → δ) (p : Attempt P ε α) : Attempt P δ α := ask f p.run

/-- The program of a result that is known. -/
def ofExcept {δ : Type} (wrap : δ → ε) : Except δ α → Attempt P ε α
  | .ok a => pure a
  | .error e => throw (wrap e)

end Attempt

end CaseHerald
