import CaseHerald.Proofs.Clock
import CaseHerald.Proofs.Crew

/-!
# The discipline of the schedule

A watcher that follows its schedule does one thing after the other: it looks at its line, runs a cycle,
pauses, and flushes its queue. A `Course` is such a run cut up into `Stint`s, and `Timed.course` says
that every run is one. What the stints keep to (`Disciplined`) follows from it by induction: a flush
comes one polling interval after a successful cycle, a failed cycle is followed by nothing but the next
one, after the deferral, and nothing follows a call for an end.
-/
namespace CaseHerald.Watch

/-! ## Stints -/

/-- What a watcher does at a stretch. -/
inductive Work
  | look (stopping : Bool)
  | cycle (before : Watcher) (result : Except Failure Summary) (after : Watcher)
  | pause (span : Span) (called : Bool)
  | sleep (span : Span)
  | flush (before : Watcher) (result : Except Failure Nat) (after : Watcher)

/-- A stretch of a run on the clock. -/
structure Stint where
  work : Work
  log : List Stamp
  start : Moment
  stop : Moment

namespace Stint

/-- Whether the watcher waits or looks at its line. -/
def IsIdle (s : Stint) : Prop :=
  match s.work with
  | .look _ | .pause .. | .sleep _ => True
  | _ => False

/-- Whether the stint is a cycle that succeeds. -/
def Succeeds (s : Stint) : Prop := ∃ before summary after, s.work = .cycle before (.ok summary) after

/-- Whether the stint is a cycle that fails. -/
def Fails (s : Stint) : Prop := ∃ before f after, s.work = .cycle before (.error f) after

/-- Whether the stint is a cycle. -/
def IsCycle (s : Stint) : Prop := s.Succeeds ∨ s.Fails

theorem isCycle_iff {s : Stint} :
    s.IsCycle ↔ ∃ before result after, s.work = .cycle before result after := by
  constructor
  · rintro (⟨before, summary, after, h⟩ | ⟨before, f, after, h⟩)
    · exact ⟨before, _, after, h⟩
    · exact ⟨before, _, after, h⟩
  · rintro ⟨before, result, after, h⟩
    cases result with
    | ok summary => exact .inl ⟨before, summary, after, h⟩
    | error f => exact .inr ⟨before, f, after, h⟩

/-- Whether the stint is a flush. -/
def IsFlush (s : Stint) : Prop := ∃ before result after, s.work = .flush before result after

/-- Whether the watcher finds that an end has been called for. -/
def IsCalled (s : Stint) : Prop := s.work = .look true ∨ ∃ span, s.work = .pause span true

/-- Whether the stint is a cycle that puts the case into the queue. -/
def Queues (c : String) (s : Stint) : Prop :=
  ∃ before summary after, s.work = .cycle before (.ok summary) after ∧ c ∉ before.queue ∧ c ∈ after.queue

/-- The counts of a watcher after the stint. -/
def count (metrics : Metrics) (s : Stint) : Metrics :=
  match s.work with
  | .cycle _ result _ => metrics.addCycle result
  | .flush _ result _ => metrics.addFlush result
  | _ => metrics

end Stint

/-- The runs of a watcher that follows its schedule, cut up. -/
inductive Course (schedule : Schedule) : Watcher → Moment → List Stint → Moment → Prop
  /-- the rounds are over -/
  | ended {w : Watcher} {m : Moment} : Course schedule w m [] m
  /-- the line shows a call at the start of a round -/
  | stopped {w : Watcher} {m m₁ : Moment} {l₁ : List Stamp} (looks : Timed isStopping m l₁ true m₁) :
      Course schedule w m [⟨.look true, l₁, m, m₁⟩] m₁
  /-- a call ends the pause after a failed cycle -/
  | deferredCalled {w w₁ : Watcher} {f : Failure} {m m₁ m₂ m₃ : Moment} {l₁ l₂ l₃ : List Stamp}
      (looks : Timed isStopping m l₁ false m₁)
      (fails : Timed (cycle w) m₁ l₂ (.error f, w₁) m₂)
      (pauses : Timed (pause schedule.defer) m₂ l₃ true m₃) :
      Course schedule w m [⟨.look false, l₁, m, m₁⟩, ⟨.cycle w (.error f) w₁, l₂, m₁, m₂⟩,
        ⟨.pause schedule.defer true, l₃, m₂, m₃⟩] m₃
  /-- the round of a failed cycle -/
  | deferred {w w₁ : Watcher} {f : Failure} {m m₁ m₂ m₃ last : Moment} {l₁ l₂ l₃ : List Stamp}
      {rest : List Stint} (looks : Timed isStopping m l₁ false m₁)
      (fails : Timed (cycle w) m₁ l₂ (.error f, w₁) m₂)
      (pauses : Timed (pause schedule.defer) m₂ l₃ false m₃)
      (more : Course schedule w₁ m₃ rest last) :
      Course schedule w m (⟨.look false, l₁, m, m₁⟩ :: ⟨.cycle w (.error f) w₁, l₂, m₁, m₂⟩ ::
        ⟨.pause schedule.defer false, l₃, m₂, m₃⟩ :: rest) last
  /-- a call ends the pause after a successful cycle -/
  | polledCalled {w w₁ : Watcher} {s : Summary} {m m₁ m₂ m₃ : Moment} {l₁ l₂ l₃ : List Stamp}
      (looks : Timed isStopping m l₁ false m₁)
      (succeeds : Timed (cycle w) m₁ l₂ (.ok s, w₁) m₂)
      (pauses : Timed (pause schedule.poll) m₂ l₃ true m₃) :
      Course schedule w m [⟨.look false, l₁, m, m₁⟩, ⟨.cycle w (.ok s) w₁, l₂, m₁, m₂⟩,
        ⟨.pause schedule.poll true, l₃, m₂, m₃⟩] m₃
  /-- the round of a successful cycle -/
  | polled {w w₁ w₂ : Watcher} {s : Summary} {r : Except Failure Nat} {m m₁ m₂ m₃ m₄ last : Moment}
      {l₁ l₂ l₃ l₄ : List Stamp} {rest : List Stint} (looks : Timed isStopping m l₁ false m₁)
      (succeeds : Timed (cycle w) m₁ l₂ (.ok s, w₁) m₂)
      (pauses : Timed (pause schedule.poll) m₂ l₃ false m₃)
      (flushes : Timed (flush w₁) m₃ l₄ (r, w₂) m₄) (more : Course schedule w₂ m₄ rest last) :
      Course schedule w m (⟨.look false, l₁, m, m₁⟩ :: ⟨.cycle w (.ok s) w₁, l₂, m₁, m₂⟩ ::
        ⟨.pause schedule.poll false, l₃, m₂, m₃⟩ :: ⟨.flush w₁ r w₂, l₄, m₃, m₄⟩ :: rest) last

/-- Every run of a schedule is a course, and the counts at its end are those of its stints. -/
theorem Timed.counted {schedule : Schedule} {rounds : Nat} {w w' : Watcher} {metrics metrics' : Metrics}
    {m last : Moment} {log : List Stamp}
    (h : Timed (watch schedule rounds w metrics) m log (w', metrics') last) :
    ∃ stints, Course schedule w m stints last ∧ log = stints.flatMap Stint.log ∧
      metrics' = stints.foldl Stint.count metrics := by
  induction rounds generalizing w metrics m log with
  | zero =>
    cases h with
    | done => exact ⟨[], .ended, rfl, rfl⟩
  | succ rounds ih =>
    obtain ⟨l₁, log, stopping, m₁, rfl, hlook, hround⟩ := Timed.bind h
    cases stopping with
    | true =>
      cases hround with
      | done => exact ⟨_, .stopped hlook, rfl, rfl⟩
    | false =>
      obtain ⟨log, back, ⟨called, w₁, metrics₁⟩, mid, rfl, hiterate, hrest⟩ := Timed.bind hround
      obtain ⟨l₂, log, ⟨result, w₂⟩, m₂, rfl, hcycle, hafter⟩ := Timed.bind hiterate
      cases result with
      | error f =>
        obtain ⟨l₃, tail, called', m₃, rfl, hpause, hdone⟩ := Timed.bind hafter
        cases hdone with
        | done =>
          cases called with
          | true =>
            cases hrest with
            | done => exact ⟨_, .deferredCalled hlook hcycle hpause, by simp, rfl⟩
          | false =>
            obtain ⟨rest, hmore, rfl, rfl⟩ := ih hrest
            exact ⟨_, .deferred hlook hcycle hpause hmore, by simp, rfl⟩
      | ok s =>
        obtain ⟨l₃, log, called', m₃, rfl, hpause, hflush⟩ := Timed.bind hafter
        cases called' with
        | true =>
          cases hflush with
          | done =>
            cases hrest with
            | done => exact ⟨_, .polledCalled hlook hcycle hpause, by simp, rfl⟩
        | false =>
          obtain ⟨l₄, tail, ⟨flushed, w₃⟩, m₄, rfl, hflush, hdone⟩ := Timed.bind hflush
          cases hdone with
          | done =>
            obtain ⟨rest, hmore, rfl, rfl⟩ := ih hrest
            exact ⟨_, .polled hlook hcycle hpause hflush hmore, by simp, rfl⟩

/-- **Every run of a schedule is a course.** -/
theorem Timed.course {schedule : Schedule} {rounds : Nat} {w w' : Watcher} {metrics metrics' : Metrics}
    {m last : Moment} {log : List Stamp}
    (h : Timed (watch schedule rounds w metrics) m log (w', metrics') last) :
    ∃ stints, Course schedule w m stints last ∧ log = stints.flatMap Stint.log := by
  obtain ⟨stints, hcourse, hlog, -⟩ := h.counted
  exact ⟨stints, hcourse, hlog⟩

/-! ## What a stint does -/

namespace Stint

/-- Whether the stint is a run of what is done in it. -/
def Runs (s : Stint) : Prop :=
  match s.work with
  | .look stopping => Timed isStopping s.start s.log stopping s.stop
  | .cycle before result after => Timed (cycle before) s.start s.log (result, after) s.stop
  | .pause span called => Timed (pause span) s.start s.log called s.stop
  | .sleep span => Timed (sleep span) s.start s.log () s.stop
  | .flush before result after => Timed (flush before) s.start s.log (result, after) s.stop

variable {s : Stint}

/-- A watcher that waits or looks at its line does not touch the store. -/
theorem Runs.ne_store (h : s.Runs) (idle : s.IsIdle) {x : Stamp} (hx : x ∈ s.log) (q : Store.Query) :
    x.exchange.request ≠ .store q := by
  have hclock : x.exchange.request.OfClock := by
    obtain ⟨work, log, start, stop⟩ := s
    cases work with
    | look stopping => exact Timed.asks h (Proc.asks_request trivial) x hx
    | pause span called => exact Timed.asks h (Proc.asks_request trivial) x hx
    | sleep span => exact Timed.asks h (Proc.asks_request trivial) x hx
    | cycle => exact idle.elim
    | flush => exact idle.elim
  intro hq
  rw [hq] at hclock
  exact hclock

/-- What is deleted is deleted in a flush, and was in the queue before it. -/
theorem Runs.of_delete (h : s.Runs) {x : Stamp} (hx : x ∈ s.log) {c : String}
    (hc : x.exchange.request = .store (.delete c)) :
    s.start.now.nanos ≤ x.start.nanos ∧
      ∃ before result after, s.work = .flush before result after ∧ c ∈ before.queue := by
  by_cases idle : s.IsIdle
  · exact absurd hc (h.ne_store idle hx _)
  obtain ⟨work, log, start, stop⟩ := s
  cases work with
  | cycle before result after =>
    have hq := Timed.asks h (asks_cycle before) x hx
    exact absurd hc (hq.ne_delete c)
  | flush before result after =>
    obtain ⟨d, hd, hq⟩ := Timed.asks h (asks_flush before) x hx
    rw [hc] at hq
    cases hq
    exact ⟨Timed.le_start h x hx, before, result, after, rfl, hd⟩
  | look => exact absurd trivial idle
  | pause => exact absurd trivial idle
  | sleep => exact absurd trivial idle

end Stint

/-! ## Places in a course -/

/-- Whether something holds at each place of a list, of what is before, what is there and what is after:
`before` is what precedes the list. -/
def AtEach {α : Type} (P : List α → α → List α → Prop) : List α → List α → Prop
  | _, [] => True
  | before, a :: rest => P before a rest ∧ AtEach P (before ++ [a]) rest

theorem AtEach.of_split {α : Type} {P : List α → α → List α → Prop} {before front back : List α}
    {a : α} (h : AtEach P before (front ++ a :: back)) : P (before ++ front) a back := by
  induction front generalizing before with
  | nil =>
    rw [List.append_nil]
    exact h.1
  | cons b front ih =>
    have hrest := ih h.2
    rwa [List.append_assoc, List.singleton_append] at hrest

/-- Whether a stint comes right after a successful cycle and a wait, one polling interval after the end
of the cycle. -/
def Delayed (schedule : Schedule) (front : List Stint) (s : Stint) : Prop :=
  ∃ before c wait, front = before ++ [c, wait] ∧ c.Succeeds ∧ wait.IsIdle ∧
    s.start.now = c.stop.now + schedule.poll

/-- Whether all cycles have ended one polling interval before a flush, and each case in its queue has
been put there by one of them, unless it was there at the start. -/
def Ripe (schedule : Schedule) (queue : List String) (front : List Stint) (s : Stint) : Prop :=
  ∀ before result after, s.work = .flush before result after →
    (∀ d ∈ front, d.IsCycle → d.stop.now.nanos + schedule.poll.nanos ≤ s.start.now.nanos) ∧
      ∀ c ∈ before.queue, c ∈ queue ∨ ∃ d ∈ front, d.Queues c

/-- What holds of the stints before a time at which the watcher is as told: the cycles among them have
ended, and have put each case into the queue that was not in it at the start. -/
structure Past (queue : List String) (front : List Stint) (w : Watcher) (now : Span) : Prop where
  ended : ∀ d ∈ front, d.IsCycle → d.stop.now.nanos ≤ now.nanos
  filled : ∀ c ∈ w.queue, c ∈ queue ∨ ∃ d ∈ front, d.Queues c

namespace Past

variable {queue : List String} {front : List Stint} {w w' : Watcher} {now : Span}

theorem start (w : Watcher) (now : Span) : Past w.queue [] w now where
  ended := by simp
  filled c hc := .inl hc

/-- One more stint that is no cycle. -/
theorem other (h : Past queue front w now) {s : Stint} (hs : ¬s.IsCycle) (kept : w'.queue ⊆ w.queue)
    {later : Span} (le : now.nanos ≤ later.nanos) : Past queue (front ++ [s]) w' later where
  ended d hd hcycle := by
    rcases List.mem_append.1 hd with hd | hd
    · exact (h.ended d hd hcycle).trans le
    · rw [List.mem_singleton.1 hd] at hcycle
      exact absurd hcycle hs
  filled c hc := by
    refine (h.filled c (kept hc)).imp_right fun ⟨d, hd, hqueues⟩ => ?_
    exact ⟨d, List.mem_append_left _ hd, hqueues⟩

/-- One more cycle. -/
theorem cycle (h : Past queue front w now) {r : Except Failure Summary} {l : List Stamp}
    {m m' : Moment} (same : ∀ f, r = .error f → w' = w) (le : now.nanos ≤ m'.now.nanos) :
    Past queue (front ++ [⟨.cycle w r w', l, m, m'⟩]) w' m'.now where
  ended d hd hcycle := by
    rcases List.mem_append.1 hd with hd | hd
    · exact (h.ended d hd hcycle).trans le
    · rw [List.mem_singleton.1 hd]
  filled c hc := by
    by_cases hold : c ∈ w.queue
    · refine (h.filled c hold).imp_right fun ⟨d, hd, hqueues⟩ => ?_
      exact ⟨d, List.mem_append_left _ hd, hqueues⟩
    · cases r with
      | error f => exact absurd (same f rfl ▸ hc) hold
      | ok s =>
        right
        exact ⟨_, List.mem_append_right _ List.mem_cons_self, w, s, w', rfl, hold, hc⟩

/-- A flush after a wait of one polling interval. -/
theorem ripe (h : Past queue front w now) {schedule : Schedule} {wait s : Stint} (idle : wait.IsIdle)
    {r : Except Failure Nat} (work : s.work = .flush w r w')
    (later : s.start.now = now + schedule.poll) : Ripe schedule queue (front ++ [wait]) s := by
  intro before result after hwork
  rw [work] at hwork
  cases hwork
  have hwait : ¬wait.IsCycle := by
    rw [Stint.isCycle_iff]
    rintro ⟨_, _, _, hcycle⟩
    simp [Stint.IsIdle, hcycle] at idle
  have hpast := h.other hwait (List.Subset.refl w.queue) (Nat.le_refl now.nanos)
  refine ⟨fun d hd hcycle => ?_, hpast.filled⟩
  have hended := hpast.ended d hd hcycle
  rw [later, Span.nanos_add]
  omega

end Past

namespace Course

variable {schedule : Schedule} {w : Watcher} {m last : Moment} {stints : List Stint}

theorem runs (h : Course schedule w m stints last) : ∀ s ∈ stints, s.Runs := by
  induction h with
  | ended => simp
  | stopped looks => simpa [Stint.Runs] using looks
  | deferredCalled looks fails pauses => simpa [Stint.Runs] using ⟨looks, fails, pauses⟩
  | deferred looks fails pauses _ ih => simpa [Stint.Runs] using ⟨looks, fails, pauses, ih⟩
  | polledCalled looks succeeds pauses => simpa [Stint.Runs] using ⟨looks, succeeds, pauses⟩
  | polled looks succeeds pauses flushes _ ih =>
    simpa [Stint.Runs] using ⟨looks, succeeds, pauses, flushes, ih⟩

/-- Nothing follows a call for an end. -/
theorem atEach_called (h : Course schedule w m stints last) (before : List Stint) :
    AtEach (fun _ s back => s.IsCalled → back = []) before stints := by
  induction h generalizing before with
  | ended => trivial
  | stopped => simp [AtEach]
  | deferredCalled => simp [AtEach, Stint.IsCalled]
  | deferred _ _ _ _ ih => simpa [AtEach, Stint.IsCalled] using ih _
  | polledCalled => simp [AtEach, Stint.IsCalled]
  | polled _ _ _ _ _ ih => simpa [AtEach, Stint.IsCalled] using ih _

/-- Each flush comes right after a successful cycle and its pause. -/
theorem atEach_delayed (h : Course schedule w m stints last) (before : List Stint) :
    AtEach (fun front s _ => s.IsFlush → Delayed schedule front s) before stints := by
  induction h generalizing before with
  | ended => trivial
  | stopped => simp [AtEach, Stint.IsFlush]
  | deferredCalled => simp [AtEach, Stint.IsFlush]
  | deferred _ _ _ _ ih => simpa [AtEach, Stint.IsFlush] using ih _
  | polledCalled => simp [AtEach, Stint.IsFlush]
  | polled looks succeeds pauses _ _ ih =>
    have hpause := pauses.of_pause.2.full (by simp)
    refine ⟨by simp [Stint.IsFlush], by simp [Stint.IsFlush], by simp [Stint.IsFlush], fun _ => ?_,
      ih _⟩
    exact ⟨before ++ [_], _, _, List.append_assoc _ _ _, ⟨_, _, _, rfl⟩, trivial, hpause⟩

/-- The first thing that a watcher does but wait and look is a cycle, and it begins at once. -/
theorem first_busy (h : Course schedule w m stints last) {mid back : List Stint} {s : Stint}
    (split : stints = mid ++ s :: back) (idle : ∀ t ∈ mid, t.IsIdle) (busy : ¬s.IsIdle) :
    s.IsCycle ∧ s.start.now = m.now := by
  have hround {look cycle : Stint} {rest : List Stint} (hlook : look.IsIdle) (hcycle : cycle.IsCycle)
      (hbusy : ¬cycle.IsIdle) (hm : cycle.start.now = m.now)
      (split : look :: cycle :: rest = mid ++ s :: back) : s.IsCycle ∧ s.start.now = m.now := by
    rcases mid with _ | ⟨t, _ | ⟨u, mid⟩⟩
    · cases split
      exact absurd hlook busy
    · cases split
      exact ⟨hcycle, hm⟩
    · cases split
      exact absurd (idle _ (List.mem_cons_of_mem _ List.mem_cons_self)) hbusy
  cases h with
  | ended => simp at split
  | stopped looks =>
    rcases mid with _ | ⟨t, mid⟩
    · cases split
      exact absurd trivial busy
    · simp at split
  | deferredCalled looks => exact hround (by exact trivial) (.inr ⟨_, _, _, rfl⟩) id looks.of_isStopping.2.1 split
  | deferred looks => exact hround (by exact trivial) (.inr ⟨_, _, _, rfl⟩) id looks.of_isStopping.2.1 split
  | polledCalled looks => exact hround (by exact trivial) (.inl ⟨_, _, _, rfl⟩) id looks.of_isStopping.2.1 split
  | polled looks => exact hround (by exact trivial) (.inl ⟨_, _, _, rfl⟩) id looks.of_isStopping.2.1 split

/-- What follows a failed cycle is its pause, and then the next cycle. -/
theorem atEach_deferred (h : Course schedule w m stints last) (before : List Stint) :
    AtEach (fun _ c rest => c.Fails → ∀ mid s back, rest = mid ++ s :: back →
      (∀ t ∈ mid, t.IsIdle) → ¬s.IsIdle → s.IsCycle ∧ s.start.now = c.stop.now + schedule.defer)
      before stints := by
  have hpause {wait : Stint} {rest : List Stint} {start : Span} (hwait : wait.IsIdle)
      (hrest : ∀ mid s back, rest = mid ++ s :: back → (∀ t ∈ mid, t.IsIdle) → ¬s.IsIdle →
        s.IsCycle ∧ s.start.now = start) :
      ∀ mid s back, wait :: rest = mid ++ s :: back → (∀ t ∈ mid, t.IsIdle) → ¬s.IsIdle →
        s.IsCycle ∧ s.start.now = start := by
    intro mid s back split idle busy
    rcases mid with _ | ⟨t, mid⟩
    · cases split
      exact absurd hwait busy
    · cases split
      exact hrest mid s back rfl (fun u hu => idle u (List.mem_cons_of_mem _ hu)) busy
  induction h generalizing before with
  | ended => trivial
  | stopped => simp [AtEach, Stint.Fails]
  | deferredCalled =>
    refine ⟨by simp [Stint.Fails], fun _ => ?_, by simp [Stint.Fails], trivial⟩
    exact hpause trivial (by simp)
  | @deferred w w₁ f m m₁ m₂ m₃ last l₁ l₂ l₃ rest looks fails pauses more ih =>
    refine ⟨by simp [Stint.Fails], fun _ => ?_, by simp [Stint.Fails], ih _⟩
    have hend : m₃.now = m₂.now + schedule.defer := pauses.of_pause.2.full (by simp)
    refine hpause trivial fun mid s back split idle busy => ?_
    rw [← hend]
    exact more.first_busy split idle busy
  | polledCalled => simp [AtEach, Stint.Fails]
  | polled looks succeeds pauses flushes more ih => simpa [AtEach, Stint.Fails] using ih _

/-- All cycles have ended one polling interval before a flush, and have filled the queue. -/
theorem atEach_ripe (h : Course schedule w m stints last) {queue : List String} {before : List Stint}
    (past : Past queue before w m.now) :
    AtEach (fun front s _ => Ripe schedule queue front s) before stints := by
  induction h generalizing before with
  | ended => trivial
  | stopped => simp [AtEach, Ripe]
  | deferredCalled => simp [AtEach, Ripe]
  | @deferred w w₁ f m m₁ m₂ m₃ last l₁ l₂ l₃ rest looks fails pauses more ih =>
    have hlooked : Past queue (before ++ [⟨.look false, l₁, m, m₁⟩]) w m₁.now :=
      past.other (by simp [Stint.isCycle_iff]) (List.Subset.refl _) looks.le
    have hfailed := hlooked.cycle (l := l₂) (m := m₁) (fails.yields (yields_cycle w)) fails.le
    refine ⟨by simp [Ripe], by simp [Ripe], by simp [Ripe], ih ?_⟩
    exact hfailed.other (by simp [Stint.isCycle_iff]) (List.Subset.refl _) pauses.le
  | polledCalled => simp [AtEach, Ripe]
  | @polled w w₁ w₂ s r m m₁ m₂ m₃ m₄ last l₁ l₂ l₃ l₄ rest looks succeeds pauses flushes more ih =>
    have hlooked : Past queue (before ++ [⟨.look false, l₁, m, m₁⟩]) w m₁.now :=
      past.other (by simp [Stint.isCycle_iff]) (List.Subset.refl _) looks.le
    have hpolled := hlooked.cycle (l := l₂) (m := m₁) (succeeds.yields (yields_cycle w)) succeeds.le
    refine ⟨by simp [Ripe], by simp [Ripe], by simp [Ripe], ?_, ih ?_⟩
    · exact hpolled.ripe (by exact trivial) rfl (pauses.of_pause.2.full (by simp))
    · have hpaused : Past queue _ w₁ m₃.now := hpolled.other (s := ⟨.pause schedule.poll false, l₃, m₂, m₃⟩)
        (by simp [Stint.isCycle_iff]) (List.Subset.refl _) pauses.le
      exact hpaused.other (by simp [Stint.isCycle_iff]) (flushes.yields (yields_flush w₁)) flushes.le

end Course

/-! ## Running once -/

/-- The runs of a watcher that runs once, cut up. Nothing is to be flushed if nothing is queued. -/
inductive Once (schedule : Schedule) (w : Watcher) (m : Moment) : List Stint → Moment → Prop
  | failed {w₁ : Watcher} {f : Failure} {m₁ : Moment} {l₁ : List Stamp}
      (fails : Timed (cycle w) m l₁ (.error f, w₁) m₁) :
      Once schedule w m [⟨.cycle w (.error f) w₁, l₁, m, m₁⟩] m₁
  | unqueued {w₁ : Watcher} {s : Summary} {m₁ : Moment} {l₁ : List Stamp}
      (succeeds : Timed (cycle w) m l₁ (.ok s, w₁) m₁) (empty : w₁.queue = []) :
      Once schedule w m [⟨.cycle w (.ok s) w₁, l₁, m, m₁⟩] m₁
  | queued {w₁ w₂ : Watcher} {s : Summary} {r : Except Failure Nat} {m₁ m₂ m₃ : Moment}
      {l₁ l₂ l₃ : List Stamp} (succeeds : Timed (cycle w) m l₁ (.ok s, w₁) m₁)
      (queued : w₁.queue ≠ []) (sleeps : Timed (sleep schedule.poll) m₁ l₂ () m₂)
      (flushes : Timed (flush w₁) m₂ l₃ (r, w₂) m₃) :
      Once schedule w m [⟨.cycle w (.ok s) w₁, l₁, m, m₁⟩, ⟨.sleep schedule.poll, l₂, m₁, m₂⟩,
        ⟨.flush w₁ r w₂, l₃, m₂, m₃⟩] m₃

/-- Every run of a watcher that runs once is cut up so, and the counts at its end are those of its
stints. -/
theorem Timed.once_counted {schedule : Schedule} {w w' : Watcher} {metrics metrics' : Metrics}
    {r : Except Failure Summary} {m last : Moment} {log : List Stamp}
    (h : Timed (runOnce schedule w metrics) m log (r, w', metrics') last) :
    ∃ stints, Once schedule w m stints last ∧ log = stints.flatMap Stint.log ∧
      metrics' = stints.foldl Stint.count metrics := by
  obtain ⟨l₁, log, ⟨result, w₁⟩, m₁, rfl, hcycle, hrest⟩ := Timed.bind h
  cases result with
  | error f =>
    cases hrest with
    | done => exact ⟨_, .failed hcycle, by simp, rfl⟩
  | ok s =>
    by_cases hqueue : w₁.queue = []
    · have hflush : flush w₁ = .done (.ok 0, { w₁ with queue := [] }) := by
        rw [flush, hqueue]
        rfl
      simp only [hqueue, List.isEmpty_nil, Bool.not_true, Bool.false_eq_true, if_false, hflush] at hrest
      cases hrest with
      | done => exact ⟨_, .unqueued hcycle hqueue, by simp, rfl⟩
    · have hqueued : (!w₁.queue.isEmpty) = true := by simpa using hqueue
      simp only [hqueued, if_true] at hrest
      obtain ⟨l₂, log, a, m₂, rfl, hsleep, hrest⟩ := Timed.bind hrest
      obtain ⟨l₃, tail, ⟨flushed, w₂⟩, m₃, rfl, hflush, hdone⟩ := Timed.bind hrest
      cases flushed with
      | ok n =>
        cases hdone with
        | done => exact ⟨_, .queued hcycle hqueue hsleep hflush, by simp, rfl⟩
      | error f =>
        cases hdone with
        | done => exact ⟨_, .queued hcycle hqueue hsleep hflush, by simp, rfl⟩

theorem Timed.once {schedule : Schedule} {w w' : Watcher} {metrics metrics' : Metrics}
    {r : Except Failure Summary} {m last : Moment} {log : List Stamp}
    (h : Timed (runOnce schedule w metrics) m log (r, w', metrics') last) :
    ∃ stints, Once schedule w m stints last ∧ log = stints.flatMap Stint.log := by
  obtain ⟨stints, honce, hlog, -⟩ := h.once_counted
  exact ⟨stints, honce, hlog⟩

/-! ## The discipline -/

/-- Whether each deletion is made in a flush, one polling interval after the end of every cycle before
it, and takes a case that one of them has put into the queue, unless it was there at the start. -/
def DeletesLate (schedule : Schedule) (queue : List String) (stints : List Stint) : Prop :=
  ∀ front s back, stints = front ++ s :: back → ∀ x ∈ s.log, ∀ c,
    x.exchange.request = .store (.delete c) →
      s.IsFlush ∧
      (∀ d ∈ front, d.IsCycle → d.stop.now.nanos + schedule.poll.nanos ≤ x.start.nanos) ∧
      (c ∈ queue ∨ ∃ d ∈ front, d.Queues c)

/-- What the stints of a watcher keep to. -/
structure Disciplined (schedule : Schedule) (queue : List String) (stints : List Stint) : Prop where
  /-- a flush comes right after a successful cycle and its pause, one polling interval after the end of
  the cycle -/
  delay : ∀ front s back, stints = front ++ s :: back → s.IsFlush → Delayed schedule front s
  /-- after a failed cycle the watcher does nothing but wait and look until the next cycle, which begins
  one deferral after its end -/
  deferral : ∀ front c mid s back, stints = front ++ c :: (mid ++ s :: back) → c.Fails →
    (∀ t ∈ mid, t.IsIdle) → ¬s.IsIdle → s.IsCycle ∧ s.start.now = c.stop.now + schedule.defer
  /-- a watcher that waits or looks does not touch the store -/
  idle : ∀ s ∈ stints, s.IsIdle → ∀ x ∈ s.log, ∀ q, x.exchange.request ≠ .store q
  /-- nothing follows a call for an end -/
  called : ∀ front s back, stints = front ++ s :: back → s.IsCalled → back = []
  /-- a pause ends with the first call, or else with its span -/
  pauses : ∀ s ∈ stints, ∀ span called, s.work = .pause span called →
    (s.start.line.upTo s.start.now).Paused s.start.now span called s.stop.now
  deletions : DeletesLate schedule queue stints

/-- Deletions are late where flushes are. -/
theorem deletesLate_of_ripe {schedule : Schedule} {queue : List String} {stints : List Stint}
    (runs : ∀ s ∈ stints, s.Runs)
    (ripe : AtEach (fun front s _ => Ripe schedule queue front s) [] stints) :
    DeletesLate schedule queue stints := by
  intro front s back split x hx c hc
  rw [split] at ripe
  have hmem : s ∈ stints := split ▸ List.mem_append_right _ List.mem_cons_self
  obtain ⟨hstart, before, result, after, hwork, hqueue⟩ := (runs s hmem).of_delete hx hc
  obtain ⟨hended, hfilled⟩ := ripe.of_split before result after hwork
  refine ⟨⟨before, result, after, hwork⟩, fun d hd hcycle => ?_, hfilled c hqueue⟩
  exact (hended d hd hcycle).trans hstart

theorem Stint.Runs.paused {s : Stint} (h : s.Runs) {span : Span} {called : Bool}
    (work : s.work = .pause span called) :
    (s.start.line.upTo s.start.now).Paused s.start.now span called s.stop.now := by
  obtain ⟨_, log, start, stop⟩ := s
  cases work
  exact (Timed.of_pause h).2

theorem Course.disciplined {schedule : Schedule} {w : Watcher} {m last : Moment} {stints : List Stint}
    (h : Course schedule w m stints last) : Disciplined schedule w.queue stints where
  delay front s back split := by
    have hall := h.atEach_delayed []
    rw [split] at hall
    exact hall.of_split
  deferral front c mid s back split fails := by
    have hall := h.atEach_deferred []
    rw [split] at hall
    exact hall.of_split fails mid s back rfl
  idle s hs idle x hx q := (h.runs s hs).ne_store idle hx q
  called front s back split := by
    have hall := h.atEach_called []
    rw [split] at hall
    exact hall.of_split
  pauses s hs span called work := (h.runs s hs).paused work
  deletions := deletesLate_of_ripe h.runs (h.atEach_ripe (.start w m.now))

namespace Once

variable {schedule : Schedule} {w : Watcher} {m last : Moment} {stints : List Stint}

theorem runs (h : Once schedule w m stints last) : ∀ s ∈ stints, s.Runs := by
  cases h with
  | failed fails => simpa [Stint.Runs] using fails
  | unqueued succeeds => simpa [Stint.Runs] using succeeds
  | queued succeeds _ sleeps flushes => simpa [Stint.Runs] using ⟨succeeds, sleeps, flushes⟩

theorem atEach_ripe (h : Once schedule w m stints last) :
    AtEach (fun front s _ => Ripe schedule w.queue front s) [] stints := by
  cases h with
  | failed => simp [AtEach, Ripe]
  | unqueued => simp [AtEach, Ripe]
  | @queued w₁ w₂ s r m₁ m₂ m₃ l₁ l₂ l₃ succeeds _ sleeps flushes =>
    have hcycle := (Past.start w m.now).cycle (l := l₁) (m := m) (succeeds.yields (yields_cycle w))
      succeeds.le
    refine ⟨by simp [Ripe], by simp [Ripe], ?_, trivial⟩
    exact hcycle.ripe (by exact trivial) rfl sleeps.of_sleep.2

theorem disciplined (h : Once schedule w m stints last) : Disciplined schedule w.queue stints where
  delay front s back split := by
    have hall : AtEach (fun front s _ => s.IsFlush → Delayed schedule front s) [] stints := by
      cases h with
      | failed => simp [AtEach, Stint.IsFlush]
      | unqueued => simp [AtEach, Stint.IsFlush]
      | queued succeeds _ sleeps flushes =>
        refine ⟨by simp [Stint.IsFlush], by simp [Stint.IsFlush], fun _ => ?_, trivial⟩
        exact ⟨[], _, _, rfl, ⟨_, _, _, rfl⟩, trivial, sleeps.of_sleep.2⟩
    rw [split] at hall
    exact hall.of_split
  deferral front c mid s back split fails := by
    have hall : AtEach (fun _ c rest => c.Fails → rest = []) [] stints := by
      cases h <;> simp [AtEach, Stint.Fails]
    rw [split] at hall
    have hrest := hall.of_split fails
    simp at hrest
  idle s hs idle x hx q := (h.runs s hs).ne_store idle hx q
  called front s back split := by
    have hall : AtEach (fun _ s rest => s.IsCalled → rest = []) [] stints := by
      cases h <;> simp [AtEach, Stint.IsCalled]
    rw [split] at hall
    exact hall.of_split
  pauses s hs span called work := (h.runs s hs).paused work
  deletions := deletesLate_of_ripe h.runs h.atEach_ripe

end Once

/-- **The discipline of the schedule.** Whatever the replies, the time that they take and the notices on
the line, every run of a watcher that follows its schedule and every run of one that runs once is a
sequence of stints that keeps to the discipline. -/
theorem keeps_schedule (schedule : Schedule) (w : Watcher) (metrics : Metrics) (m last : Moment)
    (log : List Stamp) :
    (∀ rounds result, Timed (watch schedule rounds w metrics) m log result last →
      ∃ stints, Course schedule w m stints last ∧ log = stints.flatMap Stint.log ∧
        Disciplined schedule w.queue stints) ∧
    (∀ result, Timed (runOnce schedule w metrics) m log result last →
      ∃ stints, Once schedule w m stints last ∧ log = stints.flatMap Stint.log ∧
        Disciplined schedule w.queue stints) := by
  constructor
  · intro rounds result h
    obtain ⟨stints, hcourse, hlog⟩ := h.course
    exact ⟨stints, hcourse, hlog, hcourse.disciplined⟩
  · intro result h
    obtain ⟨stints, honce, hlog⟩ := h.once
    exact ⟨stints, honce, hlog, honce.disciplined⟩

/-! ## A day of a watcher -/

open Rehearsal (World Booth)

/-- A second between cycles, and less after a failed one. -/
def brisk : Schedule := ⟨.millis 1000, .millis 300⟩

/-- A watcher that finds a case open, then no case, and then cannot fetch. On its line it is first told
that no end is called for, and then that one is. -/
def morning : World :=
  { World.new (.memory .empty) with
    booths := [("a", { Booth.new false false with
      script := [.ok [sample "1" 1 2], .ok [], .error (.transient "support" 4 "timeout")] })]
    line := ⟨.quiet, [(.millis 1500, .tells false), (.millis 2400, .tells true)]⟩ }

/-- The run of the watcher from there. -/
def day : List Stamp × (Watcher × Metrics) × World :=
  (World.trace "a" (watch brisk 9 (.new false) .zero) morning).getD ([], (.new false, .zero), morning)

/-- Another watcher runs once, on a store that holds a case. -/
def evening : List Stamp × (Except Failure Summary × Watcher × Metrics) × World :=
  (World.trace "b" (runOnce brisk (.new false) .zero)
    (World.new (.memory (.write .empty (.ofNat 1) (sample "1" 1 2))))).getD
      ([], (.error (.source (.transient "support" 4 "timeout")), .new false, .zero), morning)

theorem keeps_schedule_day :
    (∃ stints, Course brisk (.new false) morning.moment stints day.2.2.moment ∧
      day.1 = stints.flatMap Stint.log ∧ Disciplined brisk [] stints ∧
      (∃ x ∈ day.1, x.exchange.deleted? = some "1" ∧ x.start = .millis 2000) ∧
      day.2.2.now = .millis 2400) ∧
    ∃ stints, Disciplined brisk [] stints ∧ evening.1 = stints.flatMap Stint.log ∧
      ∃ x ∈ evening.1, x.exchange.deleted? = some "1" ∧ x.start = .millis 1000 := by
  have watches : (World.trace "a" (watch brisk 9 (.new false) .zero) morning).isSome := by
    decide +kernel
  have once : (World.trace "b" (runOnce brisk (.new false) .zero)
      (World.new (.memory (.write .empty (.ofNat 1) (sample "1" 1 2))))).isSome := by
    decide +kernel
  obtain ⟨⟨log, result, last⟩, hday⟩ := Option.isSome_iff_exists.1 watches
  obtain ⟨⟨log', result', last'⟩, hevening⟩ := Option.isSome_iff_exists.1 once
  have hdayEq : day = (log, result, last) := by rw [day, hday, Option.getD_some]
  have heveningEq : evening = (log', result', last') := by rw [evening, hevening, Option.getD_some]
  obtain ⟨stints, hcourse, hlog, hdisciplined⟩ :=
    (keeps_schedule brisk (.new false) .zero _ _ log).1 _ _ (World.timed_trace hday)
  obtain ⟨stints', -, hlog', hdisciplined'⟩ :=
    (keeps_schedule brisk (.new false) .zero _ _ log').2 _ (World.timed_trace hevening)
  refine ⟨⟨stints, ?_, ?_, hdisciplined, by decide +kernel, by decide +kernel⟩,
    stints', hdisciplined', ?_, by decide +kernel⟩
  · rw [hdayEq]
    exact hcourse
  · rw [hdayEq]
    exact hlog
  · rw [heveningEq]
    exact hlog'

end CaseHerald.Watch
