import CaseHerald.Proofs.Quiet
import CaseHerald.Proofs.Results

/-!
# Programs whose requests are met by a handler

A handler answers from a state of its own, of whatever kind it is: a store with its faults, a tree of
resources, a support desk. `transcript` lists what a program and the handler say to each other, and
`Handled` tells this together with the result of the program and the last state of the handler. Both are
functions of the program and the first state, so that a run is found by going through the program:
`Handled.ask` for one request, `Handled.bind` for one program after another.
-/
namespace CaseHerald.Watch

variable {α β σ : Type}

/-- The exchanges of a program whose requests are met by the handler. -/
def transcript (h : Proc.Handler interface σ) : Proc interface α → σ → List Exchange
  | .done _, _ => []
  | .ask q next, s => ⟨q, (h q s).1⟩ :: transcript h (next (h q s).1) (h q s).2
  | .halt _, _ => []

/-- What comes of a program whose requests the handler meets. -/
structure Handled (h : Proc.Handler interface σ) (p : Proc interface α) (s : σ) (log : List Exchange)
    (a : α) (t : σ) : Prop where
  run : p.run h s = (.ok a, t)
  log : transcript h p s = log

namespace Handled

variable {h : Proc.Handler interface σ} {s t u : σ} {log log' : List Exchange} {a a' : α}

theorem done (h : Proc.Handler interface σ) (a : α) (s : σ) : Handled h (.done a) s [] a s := ⟨rfl, rfl⟩

theorem of_run {p : Proc interface α} (hp : (p.run h s).1 = .ok a) :
    Handled h p s (transcript h p s) a (p.run h s).2 := ⟨Prod.ext hp rfl, rfl⟩

theorem ask {q : Request} {reply : q.Reply} {next : q.Reply → Proc interface α}
    (meets : h q s = (reply, t)) (rest : Handled h (next reply) t log a u) :
    Handled h (.ask q next) s (⟨q, reply⟩ :: log) a u := by
  constructor
  · rw [Proc.run_ask, meets]
    exact rest.run
  · rw [transcript, meets]
    exact congrArg _ rest.log

theorem request {q : Request} {reply : q.Reply} (meets : h q s = (reply, t)) :
    Handled h (Proc.request (P := interface) q) s [⟨q, reply⟩] reply t := .ask meets (.done h reply t)

theorem bind {p : Proc interface α} {f : α → Proc interface β} {b : β}
    (hp : Handled h p s log a t) (hf : Handled h (f a) t log' b u) :
    Handled h (p >>= f) s (log ++ log') b u := by
  induction p generalizing s log with
  | done c =>
    obtain ⟨hrun, rfl⟩ := hp
    cases hrun
    exact hf
  | ask q next ih =>
    obtain ⟨hrun, rfl⟩ := hp
    exact ask rfl (ih _ ⟨hrun, rfl⟩)
  | halt crash => cases hp.run

/-- A program and what is done with its result at once. -/
theorem bind_done {p : Proc interface α} {f : α → Proc interface β} {b : β}
    (hp : Handled h p s log a t) (hf : f a = .done b) : Handled h (p >>= f) s log b t := by
  have hrest : Handled h (f a) t [] b t := by
    rw [hf]
    exact .done h b t
  have hall := hp.bind hrest
  rwa [List.append_nil] at hall

theorem map {p : Proc interface α} {f : α → β} (hp : Handled h p s log a t) :
    Handled h (f <$> p) s log (f a) t := hp.bind_done (f := fun a => .done (f a)) rfl

theorem of_bind {p : Proc interface α} {f : α → Proc interface β} {b : β}
    (hp : Handled h (p >>= f) s log b u) :
    ∃ front back a t, log = front ++ back ∧ Handled h p s front a t ∧ Handled h (f a) t back b u := by
  induction p generalizing s log with
  | done a => exact ⟨[], log, a, s, rfl, .done h a s, hp⟩
  | ask q next ih =>
    obtain ⟨hrun, rfl⟩ := hp
    obtain ⟨front, back, a, t, hlog, hfront, hback⟩ := ih _ ⟨hrun, rfl⟩
    exact ⟨_, back, a, t, congrArg _ hlog, .ask rfl hfront, hback⟩
  | halt crash => cases hp.run

section Attempts

variable {ε : Type} {p : Attempt interface ε α} {f : α → Attempt interface ε β}

/-- One program after another that has not failed. -/
theorem bind_ok {r : Except ε β} (hp : Handled h p.run s log (.ok a) t)
    (hf : Handled h (f a).run t log' r u) : Handled h (p >>= f).run s (log ++ log') r u :=
  Handled.bind (f := ExceptT.bindCont f) hp hf

/-- A program that has not failed and what is done with its result at once. -/
theorem bind_ok_done {r : Except ε β} (hp : Handled h p.run s log (.ok a) t)
    (hf : (f a).run = .done r) : Handled h (p >>= f).run s log r t :=
  Handled.bind_done (f := ExceptT.bindCont f) hp hf

/-- A program that fails ends what it is the beginning of. -/
theorem bind_error {e : ε} (hp : Handled h p.run s log (.error e) t) :
    Handled h (p >>= f).run s log (.error e) t := Handled.bind_done (f := ExceptT.bindCont f) hp rfl

/-- A program of the interface whose failures are told as they are. -/
theorem ask_id {p : Proc interface (Except ε α)} {r : Except ε α} (hp : Handled h p s log r t) :
    Handled h (Attempt.ask id p).run s log r t := by
  cases r with
  | ok a => exact hp.map
  | error e => exact hp.map

/-- Other terms for failures make no difference where there is none. -/
theorem ask_ok {δ : Type} {wrap : δ → ε} {p : Proc interface (Except δ α)}
    (hp : Handled h p s log (.ok a) t) : Handled h (Attempt.ask wrap p).run s log (.ok a) t := hp.map

theorem caught {δ : Type} {r : Except ε α} (hp : Handled h p.run s log r t) :
    Handled h (p.caught : Attempt interface δ (Except ε α)).run s log (.ok r) t := hp.map

end Attempts

/-- A handler meets the requests of a program in one way. -/
theorem unique {p : Proc interface α} (hp : Handled h p s log a t) (hp' : Handled h p s log' a' u) :
    a' = a ∧ u = t ∧ log' = log := by
  have hrun := hp.run.symm.trans hp'.run
  cases hrun
  exact ⟨rfl, rfl, hp'.log.symm.trans hp.log⟩

/-- The result of a run is one that the program yields. -/
theorem yields {p : Proc interface α} {Q : α → Prop} (hp : Handled h p s log a t) (hy : p.Yields Q) :
    Q a := by
  induction p generalizing s log with
  | done c =>
    cases hp.run
    exact hy
  | ask q next ih => exact ih _ ⟨hp.run, rfl⟩ (hy _)
  | halt crash => cases hp.run

/-- The requests in a run are of the kind that the program makes. -/
theorem asks {p : Proc interface α} {A : Request → Prop} (hp : Handled h p s log a t)
    (ha : p.Asks A) : ∀ x ∈ log, A x.request := by
  induction p generalizing s log with
  | done c =>
    obtain ⟨-, rfl⟩ := hp
    exact List.forall_mem_nil _
  | ask q next ih =>
    obtain ⟨hrun, rfl⟩ := hp
    exact List.forall_mem_cons.2 ⟨ha.1, ih _ ⟨hrun, rfl⟩ (ha.2 _)⟩
  | halt crash => exact ha.elim

/-- What no request of the program changes is the same at its end. -/
theorem view_eq {τ : Type} {view : σ → τ} {p : Proc interface α} {A : Request → Prop}
    (hp : Handled h p s log a t) (ha : p.Asks A) (hview : ∀ q s, A q → view (h q s).2 = view s) :
    view t = view s := by
  induction p generalizing s log with
  | done c =>
    cases hp.run
    rfl
  | ask q next ih => exact (ih _ ⟨hp.run, rfl⟩ (ha.2 _)).trans (hview q s ha.1)
  | halt crash => exact ha.elim

end Handled

end CaseHerald.Watch
