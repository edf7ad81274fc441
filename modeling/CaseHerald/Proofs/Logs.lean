import CaseHerald.Proofs.Exchanges

/-!
# What a log tells of the result

A program and its surroundings leave a log of their exchanges. `Proc.Tells` says of a program that the log
and the result of each of its runs belong together as told, be the result a crash, whatever the replies
are. It is found by going through the program: `Proc.Tells.bind` puts two programs one after another, whose
logs are then joined.
-/
namespace CaseHerald

namespace Proc

variable {P : Interface} {X α β σ : Type} {mk : (q : P.Request) → P.Reply q → X}
  {Q Q' : List X → Except Crash α → Prop} {R : List X → Except Crash β → Prop} {p : Proc P α}

/-- Whether the log of every run of the program and its result are as told. `mk` makes an entry of the log
of a request and its reply. -/
def Tells (mk : (q : P.Request) → P.Reply q → X) (Q : List X → Except Crash α → Prop) :
    Proc P α → Prop
  | .done a => Q [] (.ok a)
  | .ask q next => ∀ reply, (next reply).Tells mk fun log r => Q (mk q reply :: log) r
  | .halt crash => Q [] (.error crash)

namespace Tells

theorem mono (h : p.Tells mk Q) (hQ : ∀ log r, Q log r → Q' log r) : p.Tells mk Q' := by
  induction p generalizing Q Q' with
  | done a => exact hQ _ _ h
  | ask q next ih => exact fun reply => ih reply (h reply) fun log r => hQ _ r
  | halt crash => exact hQ _ _ h

theorem bind {f : α → Proc P β} (hp : p.Tells mk Q)
    (hf : ∀ log a, Q log (.ok a) → (f a).Tells mk fun more r => R (log ++ more) r)
    (hcrash : ∀ log crash, Q log (.error crash) → R log (.error crash)) : (p >>= f).Tells mk R := by
  induction p generalizing Q R with
  | done a => exact hf [] a hp
  | ask q next ih =>
    exact fun reply => ih reply (hp reply) (fun log => hf (mk q reply :: log)) fun log => hcrash _
  | halt crash => exact hcrash [] crash hp

theorem map (hp : p.Tells mk Q) {f : α → β} (hf : ∀ log a, Q log (.ok a) → R log (.ok (f a)))
    (hcrash : ∀ log crash, Q log (.error crash) → R log (.error crash)) : (f <$> p).Tells mk R := by
  refine bind (f := fun a => .done (f a)) hp (fun log a ha => ?_) hcrash
  change R (log ++ []) (.ok (f a))
  rw [List.append_nil]
  exact hf log a ha

/-- **It is as told in every run.** -/
theorem exchanges {Q : List (Exchange P) → Except Crash α → Prop} (hp : p.Tells Exchange.mk Q)
    (h : Handler P σ) (s : σ) : Q (p.exchanges h s) (p.run h s).1 := by
  induction p generalizing s Q with
  | done a => exact hp
  | ask q next ih => exact ih _ (hp _) _
  | halt crash => exact hp

end Tells

end Proc

/-! ## Programs that may fail -/

namespace Attempt

variable {P : Interface} {X ε α β : Type} {mk : (q : P.Request) → P.Reply q → X}
  {Q Q' : List X → Except ε α → Prop} {R : List X → Except ε β → Prop} {p : Attempt P ε α}

/-- Whether the log of every run of the program that does not crash and its result, be it a failure, are
as told. -/
def Tells (mk : (q : P.Request) → P.Reply q → X) (Q : List X → Except ε α → Prop)
    (p : Attempt P ε α) : Prop :=
  p.run.Tells mk fun log r => ∀ a, r = .ok a → Q log a

namespace Tells

theorem pure {a : α} (h : Q [] (.ok a)) : (Pure.pure a : Attempt P ε α).Tells mk Q := by
  intro b hb
  cases hb
  exact h

theorem mono (h : p.Tells mk Q) (hQ : ∀ log r, Q log r → Q' log r) : p.Tells mk Q' :=
  Proc.Tells.mono h fun log _ hr a ha => hQ log a (hr a ha)

theorem bind {f : α → Attempt P ε β} (hp : p.Tells mk Q)
    (hf : ∀ log a, Q log (.ok a) → (f a).Tells mk fun more r => R (log ++ more) r)
    (herror : ∀ log e, Q log (.error e) → R log (.error e)) : (p >>= f).Tells mk R := by
  refine Proc.Tells.bind hp (fun log r hr => ?_) (fun _ _ _ => nofun)
  cases r with
  | ok a => exact hf log a (hr _ rfl)
  | error e =>
    intro b hb
    cases hb
    rw [List.append_nil]
    exact herror log e (hr _ rfl)

end Tells

end Attempt

end CaseHerald
