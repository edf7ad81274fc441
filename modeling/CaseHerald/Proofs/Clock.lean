import CaseHerald.Proofs.Line
import CaseHerald.Proofs.Perform
import CaseHerald.Proofs.Results
import CaseHerald.Rehearsal.World

/-!
# Runs on a clock

`Timed` is a run of a program with the times of its exchanges. A sleep and a pause take the time that
they tell of, the latter as the line on which an end is called for has it. Every other request may take
any time, and may be met by any reply. What a rehearsal does is such a run (`timed_trace`).
-/
namespace CaseHerald.Watch

/-- A time, and the line on which an end is called for as it is then. -/
structure Moment where
  now : Span
  line : Line

/-- Whether the request is one to the clock. -/
def Request.OfClock : Request → Prop
  | .sleep _ | .pause _ | .isStopping => True
  | _ => False

/-- What time may pass in one exchange. -/
inductive Ticks : Moment → Exchange → Moment → Prop
  | sleep {m : Moment} (span : Span) : Ticks m ⟨.sleep span, ()⟩ ⟨m.now + span, m.line⟩
  | pause {m : Moment} (span : Span) : Ticks m ⟨.pause span, (m.line.wait m.now span).1⟩
      ⟨(m.line.wait m.now span).2.1, (m.line.wait m.now span).2.2⟩
  | look {m : Moment} : Ticks m ⟨.isStopping, (m.line.upTo m.now).signal.value⟩
      ⟨m.now, m.line.upTo m.now⟩
  | work {m : Moment} {x : Exchange} {now : Span} (work : ¬x.request.OfClock)
      (later : m.now.nanos ≤ now.nanos) : Ticks m x ⟨now, m.line⟩

theorem Ticks.le {m m' : Moment} {x : Exchange} (h : Ticks m x m') : m.now.nanos ≤ m'.now.nanos := by
  cases h with
  | sleep span => simp
  | pause span => exact m.line.le_wait m.now span
  | look => exact Nat.le_refl _
  | work _ later => exact later

/-- An exchange with the times at which it begins and ends. -/
structure Stamp where
  exchange : Exchange
  start : Span
  stop : Span

/-- A run of a program on the clock: its exchanges with their times, its result, and the moment at its
end. -/
inductive Timed {α : Type} : Proc interface α → Moment → List Stamp → α → Moment → Prop
  | done {a : α} {m : Moment} : Timed (.done a) m [] a m
  | ask {q : Request} {next : q.Reply → Proc interface α} {m m' last : Moment} {reply : q.Reply}
      {log : List Stamp} {a : α} (ticks : Ticks m ⟨q, reply⟩ m') (rest : Timed (next reply) m' log a last) :
      Timed (.ask q next) m (⟨⟨q, reply⟩, m.now, m'.now⟩ :: log) a last

namespace Timed

variable {α β : Type} {p : Proc interface α} {m last : Moment} {log : List Stamp} {a : α}

theorem of_ask {q : Request} {next : q.Reply → Proc interface α}
    (h : Timed (.ask q next) m log a last) :
    ∃ reply m' rest, log = ⟨⟨q, reply⟩, m.now, m'.now⟩ :: rest ∧ Ticks m ⟨q, reply⟩ m' ∧
      Timed (next reply) m' rest a last := by
  cases h with
  | ask ticks rest => exact ⟨_, _, _, rfl, ticks, rest⟩

theorem bind {f : α → Proc interface β} {b : β} (h : Timed (p >>= f) m log b last) :
    ∃ front back a mid, log = front ++ back ∧ Timed p m front a mid ∧ Timed (f a) mid back b last := by
  induction p generalizing m log with
  | done a => exact ⟨[], log, a, m, rfl, .done, h⟩
  | ask q next ih =>
    cases h with
    | ask ticks rest =>
      obtain ⟨front, back, a, mid, rfl, hp, hf⟩ := ih _ rest
      exact ⟨_ :: front, back, a, mid, rfl, .ask ticks hp, hf⟩
  | halt crash => cases h

/-- The requests in a run are of the kind that the program makes. -/
theorem asks {A : Request → Prop} (h : Timed p m log a last) (hp : p.Asks A) :
    ∀ x ∈ log, A x.exchange.request := by
  induction h with
  | done => exact List.forall_mem_nil _
  | ask _ _ ih => exact List.forall_mem_cons.2 ⟨hp.1, ih (hp.2 _)⟩

/-- The result of a run is one that the program yields. -/
theorem yields {Q : α → Prop} (h : Timed p m log a last) (hp : p.Yields Q) : Q a := by
  induction h with
  | done => exact hp
  | ask _ _ ih => exact ih (hp _)

theorem le (h : Timed p m log a last) : m.now.nanos ≤ last.now.nanos := by
  induction h with
  | done => exact Nat.le_refl _
  | ask ticks _ ih => exact ticks.le.trans ih

/-- No exchange begins before the run does. -/
theorem le_start (h : Timed p m log a last) : ∀ x ∈ log, m.now.nanos ≤ x.start.nanos := by
  induction h with
  | done => exact List.forall_mem_nil _
  | ask ticks _ ih =>
    refine List.forall_mem_cons.2 ⟨Nat.le_refl _, fun x hx => ?_⟩
    exact ticks.le.trans (ih x hx)

/-! ## Requests to the clock -/

theorem of_sleep {span : Span} {a : Unit} (h : Timed (sleep span) m log a last) :
    log = [⟨⟨.sleep span, ()⟩, m.now, last.now⟩] ∧ last.now = m.now + span := by
  obtain ⟨reply, m', rest, rfl, hticks, hrest⟩ := of_ask h
  cases hrest with
  | done =>
    cases hticks with
    | sleep => exact ⟨rfl, rfl⟩
    | work work => exact absurd trivial work

theorem of_pause {span : Span} {called : Bool} (h : Timed (pause span) m log called last) :
    log = [⟨⟨.pause span, called⟩, m.now, last.now⟩] ∧
      (m.line.upTo m.now).Paused m.now span called last.now := by
  obtain ⟨reply, m', rest, rfl, hticks, hrest⟩ := of_ask h
  cases hrest with
  | done =>
    cases hticks with
    | pause => exact ⟨rfl, m.line.paused m.now span⟩
    | work work => exact absurd trivial work

theorem of_isStopping {stopping : Bool} (h : Timed isStopping m log stopping last) :
    log = [⟨⟨.isStopping, stopping⟩, m.now, m.now⟩] ∧ last.now = m.now ∧
      stopping = (m.line.upTo m.now).signal.value := by
  obtain ⟨reply, m', rest, rfl, hticks, hrest⟩ := of_ask h
  cases hrest with
  | done =>
    cases hticks with
    | look => exact ⟨rfl, rfl, rfl⟩
    | work work => exact absurd trivial work

end Timed

/-! ## Rehearsals -/

end CaseHerald.Watch

namespace CaseHerald.Rehearsal

open Watch (Moment Stamp Ticks Timed Exchange)

namespace World

/-- The time in a world, and the line on which an end is called for. -/
def moment (w : World) : Moment := ⟨w.now, w.line⟩

/-- A program that a watcher runs in the world: its exchanges with their times, its result and the world
at its end. -/
def trace {α : Type} (name : String) : Proc Watch.interface α → World → Option (List Stamp × α × World)
  | .done a, w => some ([], a, w)
  | .ask q next, w =>
    let (reply, w') := handler name q w
    (trace name (next reply) w').map fun r => (⟨⟨q, reply⟩, w.now, w'.now⟩ :: r.1, r.2)
  | .halt _, _ => none

theorem moment_ask (w : World) (q : Store.Query) : (w.ask q).2.moment = w.moment := by
  obtain ⟨_, _, _, hask⟩ := w.exists_ask q
  rw [hask]
  rfl

theorem ticks_handler (name : String) (q : Watch.Request) (w : World) :
    Ticks w.moment ⟨q, (handler name q w).1⟩ (handler name q w).2.moment := by
  have hwork {x : Exchange} (hx : ¬x.request.OfClock) {m : Moment} (hm : m = w.moment) :
      Ticks w.moment x m := by
    rw [hm]
    exact .work hx (Nat.le_refl _)
  cases q with
  | sleep span => exact .sleep span
  | pause span => exact .pause span
  | isStopping => exact .look
  | store q => exact hwork id (w.moment_ask q)
  | find l =>
    refine hwork id ?_
    simp only [handler]
    split <;> rfl
  | _ => exact hwork id rfl

/-- **What is rehearsed is a run on the clock.** -/
theorem timed_trace {α : Type} {name : String} {p : Proc Watch.interface α} {w w' : World}
    {log : List Stamp} {a : α} (h : trace name p w = some (log, a, w')) :
    Timed p w.moment log a w'.moment := by
  induction p generalizing w log with
  | done b =>
    cases h
    exact .done
  | ask q next ih =>
    obtain ⟨⟨rest, b, last⟩, hrest, heq⟩ := Option.map_eq_some_iff.1 h
    cases heq
    exact .ask (w.ticks_handler name q) (ih _ hrest)
  | halt crash => cases h

theorem timed_getD {α : Type} {name : String} {p : Proc Watch.interface α} {w : World}
    (h : (trace name p w).isSome) (d : List Stamp × α × World) :
    Timed p w.moment ((trace name p w).getD d).1 ((trace name p w).getD d).2.1
      ((trace name p w).getD d).2.2.moment := by
  obtain ⟨found, hfound⟩ := Option.isSome_iff_exists.1 h
  rw [hfound]
  exact timed_trace hfound

end World

end CaseHerald.Rehearsal
