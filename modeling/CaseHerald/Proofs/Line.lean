import CaseHerald.Watch.Line
import Mathlib.Data.List.TakeWhile

/-!
# When a pause ends

A notice that reads as no call neither shortens a pause nor starts it anew: a pause lasts its whole
span unless the line shows a call at its start or a call comes before its end, and then it ends there
(`Line.paused`).
-/
namespace CaseHerald.Watch

/-- Whether the notice is a call for an end. -/
def Notice.calls : Notice → Bool
  | .tells stop => stop
  | .hangsUp => true

/-! ## The time of a notice -/

/-- The time after some notices, each no sooner than at its time. -/
def timeAfter (now : Span) (notices : List (Span × Notice)) : Span :=
  ⟨notices.foldl (fun t n => max t n.1.nanos) now.nanos⟩

theorem timeAfter_cons (now : Span) (n : Span × Notice) (rest : List (Span × Notice)) :
    timeAfter now (n :: rest) = timeAfter ⟨max now.nanos n.1.nanos⟩ rest := rfl

theorem le_timeAfter (now : Span) (notices : List (Span × Notice)) :
    now.nanos ≤ (timeAfter now notices).nanos := by
  induction notices generalizing now with
  | nil => simp [timeAfter]
  | cons n rest ih =>
    have h := ih ⟨max now.nanos n.1.nanos⟩
    rw [timeAfter_cons]
    simp only at h
    omega

theorem timeAfter_lt {now limit : Span} {notices : List (Span × Notice)}
    (hnow : now.nanos < limit.nanos) (h : ∀ n ∈ notices, n.1.nanos < limit.nanos) :
    (timeAfter now notices).nanos < limit.nanos := by
  induction notices generalizing now with
  | nil => exact hnow
  | cons n rest ih =>
    rw [timeAfter_cons]
    have hn := h n List.mem_cons_self
    refine ih ?_ fun x hx => h x (List.mem_cons_of_mem _ hx)
    simp only
    omega

/-! ## Waiting -/

/-- What may become of a pause in which no look at its start finds a call: either it lasts to its limit,
and no call comes before, or the first call ends it. -/
inductive Awaited (limit now : Span) (coming : List (Span × Notice)) : Bool → Span → Prop
  | full (uncalled : ∀ n ∈ coming.takeWhile (fun n => n.1.nanos < limit.nanos), ¬n.2.calls) :
      Awaited limit now coming false limit
  | called (front back : List (Span × Notice)) {n : Span × Notice}
      (split : coming = front ++ n :: back) (before : ∀ x ∈ front, ¬x.2.calls) (calls : n.2.calls)
      (intime : ∀ x ∈ front ++ [n], x.1.nanos < limit.nanos) :
      Awaited limit now coming true (timeAfter now (front ++ [n]))

namespace Signal

variable {s : Signal}

/-- After a look that finds no call, a notice reads as a call exactly if it is one. -/
theorem calls_hear (h : s.calls = false) (n : Notice) : (s.seen.hear n).calls = n.calls := by
  have hup : s.hungUp = false := by
    simp only [calls, Bool.or_eq_false_iff] at h
    exact h.1
  cases n with
  | tells stop => simp [hear, seen, calls, Notice.calls, hup]
  | hangsUp => simp [hear, calls, Notice.calls]

theorem await_of_calls (h : s.calls = true) (limit now : Span) (coming : List (Span × Notice)) :
    (s.await limit now coming).1 = true ∧ (s.await limit now coming).2.1 = now := by
  cases coming with
  | nil => simp [await, h]
  | cons n rest => simp [await, h]

theorem awaited (h : s.calls = false) (limit now : Span) (coming : List (Span × Notice)) :
    Awaited limit now coming (s.await limit now coming).1 (s.await limit now coming).2.1 := by
  induction coming generalizing s now with
  | nil =>
    rw [await, if_neg (by simp [h])]
    exact .full (List.forall_mem_nil _)
  | cons n rest ih =>
    rw [await, if_neg (by simp [h])]
    by_cases hn : n.1.nanos < limit.nanos
    · rw [if_pos hn]
      cases hcall : n.2.calls with
      | true =>
        -- the look after this notice finds the call
        have hheard : (s.seen.hear n.2).calls = true := by rw [calls_hear h, hcall]
        obtain ⟨hcalled, hstop⟩ := await_of_calls hheard limit ⟨max now.nanos n.1.nanos⟩ rest
        rw [hcalled, hstop]
        exact .called [] rest rfl (List.forall_mem_nil _) hcall (by simpa using hn)
      | false =>
        have hheard : (s.seen.hear n.2).calls = false := by rw [calls_hear h, hcall]
        have hrest := ih hheard ⟨max now.nanos n.1.nanos⟩
        generalize Signal.await limit _ rest _ = r at hrest
        obtain ⟨called, stop, line⟩ := r
        cases hrest with
        | full uncalled =>
          refine .full ?_
          rw [List.takeWhile_cons_of_pos (by simpa using hn)]
          exact List.forall_mem_cons.2 ⟨by simp [hcall], uncalled⟩
        | called front back split before calls intime =>
          exact .called (n :: front) back (by rw [split, List.cons_append])
            (List.forall_mem_cons.2 ⟨by simp [hcall], before⟩) calls
            (List.forall_mem_cons.2 ⟨hn, intime⟩)
    · rw [if_neg hn]
      refine .full ?_
      rw [List.takeWhile_cons_of_neg (by simpa using hn)]
      exact List.forall_mem_nil _

end Signal

/-! ## Pauses -/

namespace Line

/-- What a pause of a span from `now` comes to, on a line that shows what has come by then. -/
structure Paused (l : Line) (now span : Span) (called : Bool) (stop : Span) : Prop where
  /-- the pause is ended by a call exactly if there is one at its start or before its end -/
  called_iff : called ↔ l.signal.calls ∨ ∃ n ∈ l.upcoming (now + span), n.2.calls
  /-- without a call it lasts its whole span -/
  full : ¬called → stop = now + span
  /-- with a call it ends before -/
  early : called → 0 < span.nanos → stop.nanos < now.nanos + span.nanos
  /-- a call at its start ends it there -/
  atOnce : l.signal.calls → stop = now
  /-- and if there is none, the first call that comes does -/
  first : called → ¬l.signal.calls → ∃ front n back, l.coming = front ++ n :: back ∧
    (∀ x ∈ front, ¬x.2.calls) ∧ n.2.calls ∧ stop = timeAfter now (front ++ [n])

/-- **When a pause ends.** -/
theorem paused (l : Line) (now span : Span) :
    (l.upTo now).Paused now span (l.wait now span).1 (l.wait now span).2.1 := by
  rw [wait]
  generalize l.upTo now = l
  cases hs : l.signal.calls with
  | true =>
    obtain ⟨hcalled, hstop⟩ := Signal.await_of_calls hs (now + span) now l.coming
    rw [hcalled, hstop]
    refine ⟨by simp [hs], by simp, fun _ h => by omega, fun _ => rfl, fun _ h => absurd hs h⟩
  | false =>
    have hawaited := Signal.awaited hs (now + span) now l.coming
    generalize Signal.await (now + span) now l.coming l.signal = r at hawaited
    obtain ⟨called, stop, rest⟩ := r
    cases hawaited with
    | full uncalled =>
      refine ⟨?_, fun _ => rfl, by simp, by simp [hs], by simp⟩
      simp only [hs, Bool.false_eq_true, false_or, false_iff]
      rintro ⟨n, hn, hcalls⟩
      exact uncalled n hn hcalls
    | @called front back n split before calls intime =>
      refine ⟨?_, by simp, fun _ hspan => ?_, by simp [hs],
        fun _ _ => ⟨front, n, back, split, before, calls, rfl⟩⟩
      · have hmem : n ∈ l.upcoming (now + span) := by
          rw [upcoming, split, ← List.singleton_append, ← List.append_assoc,
            List.takeWhile_append_of_pos (by simpa using intime)]
          simp
        exact ⟨fun _ => .inr ⟨n, hmem, calls⟩, fun _ => rfl⟩
      · exact timeAfter_lt (by simpa using hspan) intime

/-- No time passes backwards in a pause. -/
theorem le_wait (l : Line) (now span : Span) : now.nanos ≤ (l.wait now span).2.1.nanos := by
  have h := l.paused now span
  cases hcalled : (l.wait now span).1 with
  | false =>
    rw [h.full (by simp [hcalled])]
    simp
  | true =>
    cases hs : (l.upTo now).signal.calls with
    | true => rw [h.atOnce hs]
    | false =>
      obtain ⟨front, n, back, -, -, -, hstop⟩ := h.first hcalled (by simp [hs])
      rw [hstop]
      exact le_timeAfter _ _

end Line

end CaseHerald.Watch
