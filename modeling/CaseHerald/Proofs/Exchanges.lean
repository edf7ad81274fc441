import CaseHerald.Proc
import Mathlib.Data.List.Basic

/-!
# What a program and its surroundings say to each other

`Proc.exchanges` lists the requests of a program with the replies of the handler that meets them, up to
the end of the program or to its crash. Two things are told of a program alone, whatever the handler is:
`Proc.AtMost` bounds how many requests of a kind it makes, and `Proc.CrashesOn` says that it crashes at
the first bad reply and in no other way. Both are found by going through the program, and both hold of
every run (`Proc.AtMost.count_le`, `Proc.CrashesOn.ends`).
-/
namespace CaseHerald

namespace Proc

variable {P : Interface} {α β σ : Type}

/-- A request with the reply to it. -/
structure Exchange (P : Interface) where
  request : P.Request
  reply : P.Reply request

/-- The exchanges of a program whose requests are met by the handler. -/
def exchanges (h : Handler P σ) : Proc P α → σ → List (Exchange P)
  | .done _, _ => []
  | .ask q next, s => ⟨q, (h q s).1⟩ :: (next (h q s).1).exchanges h (h q s).2
  | .halt _, _ => []

/-- What comes of a program whose requests the handler meets, be it a crash. -/
structure Met (h : Handler P σ) (p : Proc P α) (s : σ) (log : List (Exchange P)) (r : Except Crash α)
    (t : σ) : Prop where
  run : p.run h s = (r, t)
  log : p.exchanges h s = log

namespace Met

variable {h : Handler P σ} {s t u : σ} {log log' : List (Exchange P)} {p : Proc P α} {a : α}
  {crash : Crash} {f : α → Proc P β} {r : Except Crash β}

theorem done (h : Handler P σ) (a : α) (s : σ) : Met h (.done a) s [] (.ok a) s := ⟨rfl, rfl⟩

theorem ask {q : P.Request} {reply : P.Reply q} {next : P.Reply q → Proc P β}
    (meets : h q s = (reply, t)) (rest : Met h (next reply) t log r u) :
    Met h (.ask q next) s (⟨q, reply⟩ :: log) r u := by
  constructor
  · rw [run_ask, meets]
    exact rest.run
  · rw [exchanges, meets]
    exact congrArg _ rest.log

theorem bind (hp : Met h p s log (.ok a) t) (hf : Met h (f a) t log' r u) :
    Met h (p >>= f) s (log ++ log') r u := by
  induction p generalizing s log with
  | done c =>
    obtain ⟨hrun, rfl⟩ := hp
    cases hrun
    exact hf
  | ask q next ih =>
    obtain ⟨hrun, rfl⟩ := hp
    exact ask rfl (ih _ ⟨hrun, rfl⟩)
  | halt crash => cases hp.run

theorem bind_done {b : β} (hp : Met h p s log (.ok a) t) (hf : f a = .done b) :
    Met h (p >>= f) s log (.ok b) t := by
  have hrest : Met h (f a) t [] (.ok b) t := by
    rw [hf]
    exact done h b t
  have hall := hp.bind hrest
  rwa [List.append_nil] at hall

/-- A program that crashes ends what it is the beginning of. -/
theorem bind_crash (hp : Met h p s log (.error crash) t) :
    Met h (p >>= f) s log (.error crash) t := by
  induction p generalizing s log with
  | done c => cases hp.run
  | ask q next ih =>
    obtain ⟨hrun, rfl⟩ := hp
    exact ask rfl (ih _ ⟨hrun, rfl⟩)
  | halt c =>
    obtain ⟨hrun, rfl⟩ := hp
    cases hrun
    exact ⟨rfl, rfl⟩

end Met

/-! ## How many requests a program makes -/

variable {A : P.Request → Bool} {p : Proc P α} {m n : Nat}

/-- The program makes at most so many requests of a kind, whatever the replies. -/
def AtMost (A : P.Request → Bool) : Proc P α → Nat → Prop
  | .done _, _ => True
  | .ask q next, n => ∃ m, (A q).toNat + m ≤ n ∧ ∀ reply, (next reply).AtMost A m
  | .halt _, _ => True

namespace AtMost

theorem mono (hp : p.AtMost A m) (hle : m ≤ n) : p.AtMost A n := by
  cases p with
  | done | halt => trivial
  | ask q next =>
    obtain ⟨k, hk, hnext⟩ := hp
    exact ⟨k, Nat.le_trans hk hle, hnext⟩

theorem request (q : P.Request) : (Proc.request q).AtMost A (A q).toNat :=
  ⟨0, Nat.le_refl _, fun _ => trivial⟩

theorem bind {f : α → Proc P β} (hp : p.AtMost A m) (hf : ∀ a, (f a).AtMost A n) :
    (p >>= f).AtMost A (m + n) := by
  induction p generalizing m with
  | done a => exact (hf a).mono (Nat.le_add_left n m)
  | ask q next ih =>
    obtain ⟨k, hk, hnext⟩ := hp
    refine ⟨k + n, ?_, fun reply => ih reply (hnext reply)⟩
    omega
  | halt crash => trivial

theorem map (hp : p.AtMost A n) (f : α → β) : (f <$> p).AtMost A n :=
  hp.bind (n := 0) fun _ => trivial

/-- **The bound holds of every run.** -/
theorem count_le (hp : p.AtMost A n) (h : Handler P σ) (s : σ) :
    (p.exchanges h s).countP (fun x => A x.request) ≤ n := by
  induction p generalizing s n with
  | done | halt => exact Nat.zero_le n
  | ask q next ih =>
    obtain ⟨m, hm, hnext⟩ := hp
    have hrest := ih (h q s).1 (hnext _) (h q s).2
    rw [exchanges, List.countP_cons]
    cases hq : A q with
    | true =>
      rw [hq, Bool.toNat_true] at hm
      simp only [if_true]
      omega
    | false =>
      rw [hq, Bool.toNat_false] at hm
      simp only [Bool.false_eq_true, if_false]
      omega

end AtMost

/-! ## On what a program crashes -/

variable {bad : Exchange P → Prop}

/-- The program crashes at the first bad reply, and in no other way. -/
def CrashesOn (bad : Exchange P → Prop) : Proc P α → Prop
  | .done _ => True
  | .ask q next => ∀ reply, (bad ⟨q, reply⟩ → next reply = .halt .delayOverflow) ∧
      (¬bad ⟨q, reply⟩ → (next reply).CrashesOn bad)
  | .halt _ => False

namespace CrashesOn

theorem request {q : P.Request} (hq : ∀ reply, ¬bad ⟨q, reply⟩) :
    (Proc.request q).CrashesOn bad :=
  fun reply => ⟨fun hbad => absurd hbad (hq reply), fun _ => trivial⟩

theorem bind {f : α → Proc P β} (hp : p.CrashesOn bad) (hf : ∀ a, (f a).CrashesOn bad) :
    (p >>= f).CrashesOn bad := by
  induction p with
  | done a => exact hf a
  | ask q next ih =>
    refine fun reply => ⟨fun hbad => ?_, fun hgood => ih reply ((hp reply).2 hgood)⟩
    change next reply >>= f = _
    rw [(hp reply).1 hbad]
    rfl
  | halt crash => exact hp.elim

theorem map (hp : p.CrashesOn bad) (f : α → β) : (f <$> p).CrashesOn bad :=
  hp.bind fun _ => trivial

/-- How a run ends: with a result and no bad reply, or in a crash with a bad reply as the last one. -/
def Ends (bad : Exchange P → Prop) (log : List (Exchange P)) (r : Except Crash α) : Prop :=
  ((∃ a, r = .ok a) ∧ ∀ x ∈ log, ¬bad x) ∨
    (r = .error .delayOverflow ∧ ∃ front x, log = front ++ [x] ∧ bad x ∧ ∀ y ∈ front, ¬bad y)

/-- **Every run ends** in one of the two ways. -/
theorem ends (hp : p.CrashesOn bad) (h : Handler P σ) (s : σ) :
    Ends bad (p.exchanges h s) (p.run h s).1 := by
  induction p generalizing s with
  | done a => exact .inl ⟨⟨a, rfl⟩, List.forall_mem_nil _⟩
  | ask q next ih =>
    by_cases hbad : bad ⟨q, (h q s).1⟩
    · have hnext := (hp _).1 hbad
      rw [exchanges, run_ask, hnext]
      exact .inr ⟨rfl, [], _, rfl, hbad, List.forall_mem_nil _⟩
    · rw [exchanges, run_ask]
      rcases ih _ ((hp _).2 hbad) (h q s).2 with ⟨hr, hgood⟩ | ⟨hr, front, x, hlog, hx, hfront⟩
      · exact .inl ⟨hr, List.forall_mem_cons.2 ⟨hbad, hgood⟩⟩
      · refine .inr ⟨hr, _ :: front, x, ?_, hx, List.forall_mem_cons.2 ⟨hbad, hfront⟩⟩
        rw [hlog, List.cons_append]
  | halt crash => exact hp.elim

variable {log : List (Exchange P)} {r : Except Crash α}

theorem Ends.ok_iff (hends : Ends bad log r) : (∃ a, r = .ok a) ↔ ∀ x ∈ log, ¬bad x := by
  rcases hends with ⟨hr, hgood⟩ | ⟨rfl, front, x, rfl, hx, -⟩
  · exact iff_of_true hr hgood
  · refine iff_of_false (by simp) fun hgood => hgood x ?_ hx
    exact List.mem_append_right _ (List.mem_singleton_self x)

theorem Ends.crash_iff (hends : Ends bad log r) :
    r = .error .delayOverflow ↔ ∃ x ∈ log, bad x := by
  rcases hends with ⟨⟨a, rfl⟩, hgood⟩ | ⟨rfl, front, x, rfl, hx, -⟩
  · exact iff_of_false nofun fun ⟨x, hmem, hx⟩ => hgood x hmem hx
  · exact iff_of_true rfl ⟨x, List.mem_append_right _ (List.mem_singleton_self x), hx⟩

end CrashesOn

end Proc

/-! ## Programs that may fail -/

namespace Attempt

variable {P : Interface} {ε δ α β σ : Type} {bad : Proc.Exchange P → Prop} {p : Attempt P ε α}
  {f : α → Attempt P ε β}

/-- The program crashes at the first bad reply, and in no other way. -/
def CrashesOn (bad : Proc.Exchange P → Prop) (p : Attempt P ε α) : Prop := p.run.CrashesOn bad

namespace CrashesOn

theorem pure (a : α) : (Pure.pure a : Attempt P ε α).CrashesOn bad := trivial

theorem ofExcept (wrap : δ → ε) (r : Except δ α) :
    (Attempt.ofExcept wrap r : Attempt P ε α).CrashesOn bad := by
  cases r <;> trivial

theorem bind (hp : p.CrashesOn bad) (hf : ∀ a, (f a).CrashesOn bad) : (p >>= f).CrashesOn bad := by
  refine Proc.CrashesOn.bind hp fun r => ?_
  cases r with
  | ok a => exact hf a
  | error e => trivial

theorem ask {p : Proc P (Except δ α)} (hp : p.CrashesOn bad) (wrap : δ → ε) :
    (Attempt.ask wrap p).CrashesOn bad := hp.map _

theorem mapM (hf : ∀ a, (f a).CrashesOn bad) (l : List α) : (l.mapM f).CrashesOn bad := by
  induction l with
  | nil =>
    rw [List.mapM_nil]
    exact pure []
  | cons a l ih =>
    rw [List.mapM_cons]
    exact (hf a).bind fun b => ih.bind fun bs => pure (b :: bs)

end CrashesOn

variable {h : Proc.Handler P σ} {s t u : σ} {log log' : List (Proc.Exchange P)} {a : α}

/-- Two programs one after another have a result just if both have. -/
theorem run_bind_eq_ok_iff {b : β} : (p >>= f).run.run h s = (.ok (.ok b), u) ↔
    ∃ a t, p.run.run h s = (.ok (.ok a), t) ∧ (f a).run.run h t = (.ok (.ok b), u) := by
  change (p.run >>= ExceptT.bindCont f).run h s = _ ↔ _
  rw [Proc.run_bind]
  rcases hp : p.run.run h s with ⟨crash | e | a, t⟩
  · simp
  · refine iff_of_false (fun hf => ?_) fun ⟨_, _, hok, _⟩ => ?_
    · cases hf
    · cases hok
  · refine ⟨fun hf => ⟨a, t, rfl, hf⟩, fun ⟨_, _, hok, hf⟩ => ?_⟩
    cases hok
    exact hf

/-- One program after another that has not failed. -/
theorem met_bind {r : Except Crash (Except ε β)} (hp : Proc.Met h p.run s log (.ok (.ok a)) t)
    (hf : Proc.Met h (f a).run t log' r u) : Proc.Met h (p >>= f).run s (log ++ log') r u :=
  Proc.Met.bind (f := ExceptT.bindCont f) hp hf

/-- A program that has not failed and what is done with its result at once. -/
theorem met_bind_done {r : Except ε β} (hp : Proc.Met h p.run s log (.ok (.ok a)) t)
    (hf : (f a).run = .done r) : Proc.Met h (p >>= f).run s log (.ok r) t :=
  Proc.Met.bind_done (f := ExceptT.bindCont f) hp hf

/-- A program that fails ends what it is the beginning of. -/
theorem met_bind_error {e : ε} (hp : Proc.Met h p.run s log (.ok (.error e)) t) :
    Proc.Met h (p >>= f).run s log (.ok (.error e)) t :=
  Proc.Met.bind_done (f := ExceptT.bindCont f) hp rfl

/-- A program that crashes ends what it is the beginning of. -/
theorem met_bind_crash {crash : Crash} (hp : Proc.Met h p.run s log (.error crash) t) :
    Proc.Met h (p >>= f).run s log (.error crash) t :=
  Proc.Met.bind_crash (f := ExceptT.bindCont f) hp

end Attempt

end CaseHerald
