import CaseHerald.Proofs.Jobs
import CaseHerald.Proofs.Quiet

/-!
# A watcher, seen from one case

A cycle and a flush deal with many cases, each of which is deaf to the others. For one case a watcher
goes through few stages: it fetches, lists, writes, asks whether its write was the first, and announces.
`Moves` are the exchanges that lead from stage to stage, and `follows_cycle` and `follows_flush` say
that a watcher makes no others, whatever replies it gets.
-/
namespace CaseHerald.Watch

open Store (Memory Query)

/-- Where a watcher is, as far as one case is concerned. -/
inductive Stage
  /-- before the first fetch -/
  | ready
  /-- about to list -/
  | fetched (live : List CaseRecord)
  /-- about to do what is left for the case -/
  | due (jobs : List Job)
  /-- about to ask whether its write was the first -/
  | asking (updated : Instant) (guid : Guid) (events : List Event) (rest : List Job)
  /-- about to announce -/
  | telling (events : List Event) (rest : List Job)

namespace Stage

/-- The stage with these announcements to come. -/
def tell : List Event → List Job → Stage
  | [], rest => .due rest
  | e :: es, rest => .telling (e :: es) rest

/-- Whether a cycle may begin. -/
def Rests : Stage → Prop
  | ready => True
  | due [] => True
  | _ => False

theorem rests_ready : ready.Rests := trivial

theorem rests_due : (due []).Rests := trivial

end Stage

/-- An exchange that has nothing to do with the case. -/
inductive Exchange.Apart (c : String) : Exchange → Prop
  | write {r : CaseRecord} {g : Guid} (other : r.number ≠ c) : Apart c ⟨.store (.write r), .ok g⟩
  | firstWriter {d : String} {u : Instant} {m : Option Marker} (other : d ≠ c) :
      Apart c ⟨.store (.firstWriter d u), .ok m⟩
  | announce {e : Event} {reply : Except NotifyFailure Unit} (other : e.caseNumber ≠ c) :
      Apart c ⟨.announce e, reply⟩
  | quiet {q : Request} {reply : q.Reply} (quiet : q.IsQuiet) : Apart c ⟨q, reply⟩

/-- The exchanges of a watcher, and the stages of a case between them. -/
inductive Moves (c : String) : Stage → Exchange → Stage → Prop
  | fetch {st : Stage} {live : List CaseRecord} (rests : st.Rests) :
      Moves c st ⟨.fetch, .ok live⟩ (.fetched live)
  | noFetch {st : Stage} {f : SourceFailure} (rests : st.Rests) :
      Moves c st ⟨.fetch, .error f⟩ (.due [])
  | list {live : List CaseRecord} {previous : List Snapshot} :
      Moves c (.fetched live) ⟨.store .list, .ok previous⟩
        (.due ((Plan.of previous live).jobsOf c))
  | fault {st : Stage} {q : Query} {f : StoreFailure} : Moves c st ⟨.store q, .error f⟩ (.due [])
  /-- a write that nobody announces -/
  | keep {j : Job} {rest : List Job} {g : Guid} (case : j.number = c) (silent : j.events = []) :
      Moves c (.due (j :: rest)) ⟨.store (.write j.record), .ok g⟩ (.due rest)
  | claim {j : Job} {rest : List Job} {g : Guid} (case : j.number = c) (loud : j.events ≠ []) :
      Moves c (.due (j :: rest)) ⟨.store (.write j.record), .ok g⟩
        (.asking j.record.updated g j.events rest)
  | first {u : Instant} {m : Marker} {es : List Event} {rest : List Job} :
      Moves c (.asking u m.guid es rest) ⟨.store (.firstWriter c u), .ok (some m)⟩ (.tell es rest)
  | second {u : Instant} {g : Guid} {m : Option Marker} {es : List Event} {rest : List Job}
      (other : ∀ a, m = some a → a.guid ≠ g) :
      Moves c (.asking u g es rest) ⟨.store (.firstWriter c u), .ok m⟩ (.due rest)
  | announce {e : Event} {es : List Event} {rest : List Job} {reply : Except NotifyFailure Unit} :
      Moves c (.telling (e :: es) rest) ⟨.announce e, reply⟩ (.tell es rest)
  | delete {d : String} : Moves c (.due []) ⟨.store (.delete d), .ok ()⟩ (.due [])
  | apart {jobs : List Job} {x : Exchange} (apart : x.Apart c) : Moves c (.due jobs) x (.due jobs)

namespace Exchange.Apart

variable {c : String} {x : Exchange}

/-- What is announced apart from a case is about another. -/
theorem caseNumber_ne (h : x.Apart c) {e : Event} (he : x.event? = some e) : e.caseNumber ≠ c := by
  cases h with
  | write => cases he
  | firstWriter => cases he
  | announce other => cases he; exact other
  | quiet quiet => rw [quiet.event?_eq] at he; cases he

theorem agree (h : x.Apart c) {s t : Scene} (hmeets : Meets s x t) : s.Agree c t := by
  cases h with
  | write other =>
    obtain ⟨-, rfl⟩ := hmeets.write
    refine ⟨?_, fun u => ?_⟩
    · rw [Memory.snapshot?_write, if_neg other]
    · rw [Memory.marker?_write, if_neg fun h => other h.1]
  | firstWriter => exact hmeets.firstWriter.2 ▸ .refl c s
  | announce => exact hmeets.same (fun _ h => by cases h) ▸ .refl c s
  | quiet quiet => exact Request.IsQuiet.same quiet hmeets ▸ .refl c s

end Exchange.Apart

namespace Moves

variable {c : String} {st st' : Stage}

theorem of_fetch {live : List CaseRecord} (h : Moves c st ⟨.fetch, .ok live⟩ st') :
    st' = .fetched live := by
  cases h with
  | fetch => rfl
  | apart apart => cases apart with
    | quiet quiet => cases quiet

/-- A write of the case is that of a job that is due. -/
theorem of_write {r : CaseRecord} {g : Guid} (h : Moves c st ⟨.store (.write r), .ok g⟩ st')
    (hr : r.number = c) : ∃ j rest, st = .due (j :: rest) ∧ j.record = r := by
  cases h with
  | @keep j rest => exact ⟨j, rest, rfl, rfl⟩
  | @claim j rest => exact ⟨j, rest, rfl, rfl⟩
  | apart apart => cases apart with
    | write other => exact absurd hr other
    | quiet quiet => cases quiet

/-- An announcement about the case is the next that is to come. -/
theorem of_announce {e : Event} {reply : Except NotifyFailure Unit}
    (h : Moves c st ⟨.announce e, reply⟩ st') (he : e.caseNumber = c) :
    ∃ es rest, st = .telling (e :: es) rest := by
  cases h with
  | @announce _ es rest => exact ⟨es, rest, rfl⟩
  | apart apart => cases apart with
    | announce other => exact absurd he other
    | quiet quiet => cases quiet

end Moves

/-- What a move does to the snapshot of the case. -/
theorem Moves.snapshot? {c : String} {st st' : Stage} {x : Exchange} {s t : Scene}
    (hmove : Moves c st x st') (hmeets : Meets s x t) :
    t.store.snapshot? c = s.store.snapshot? c ∨ t.store.snapshot? c = none ∨
      ∃ j rest g, st = .due (j :: rest) ∧ j.number = c ∧
        x = ⟨.store (.write j.record), .ok g⟩ ∧ t.store.snapshot? c = some ⟨j.record, g⟩ := by
  cases hmove with
  | fetch => exact .inl (by rw [hmeets.same fun _ h => by cases h])
  | noFetch => exact .inl (by rw [hmeets.same fun _ h => by cases h])
  | list => exact .inl (by rw [hmeets.list.2])
  | fault => exact .inl (by rw [hmeets.error])
  | @keep j rest g case =>
    obtain ⟨-, rfl⟩ := hmeets.write
    exact .inr (.inr ⟨j, rest, g, rfl, case, rfl, by rw [Memory.snapshot?_write]; exact if_pos case⟩)
  | @claim j rest g case =>
    obtain ⟨-, rfl⟩ := hmeets.write
    exact .inr (.inr ⟨j, rest, g, rfl, case, rfl, by rw [Memory.snapshot?_write]; exact if_pos case⟩)
  | first => exact .inl (by rw [hmeets.firstWriter.2])
  | second => exact .inl (by rw [hmeets.firstWriter.2])
  | announce => exact .inl (by rw [hmeets.same fun _ h => by cases h])
  | @delete d =>
    obtain rfl := hmeets.delete
    rw [Memory.snapshot?_delete]
    by_cases hd : d = c
    · exact .inr (.inl (if_pos hd))
    · exact .inl (if_neg hd)
  | apart apart => exact .inl (apart.agree hmeets).snapshot?_eq

/-! ## Programs that keep to the moves -/

variable {c : String} {α β : Type}

/-- Whatever replies the program gets from the stage on, it makes moves only and does not crash, and it
ends with a result and at a stage as told. -/
def Follows (c : String) (Q : α → Stage → Prop) : Proc interface α → Stage → Prop
  | .done a, st => Q a st
  | .ask q next, st => ∀ reply, ∃ st', Moves c st ⟨q, reply⟩ st' ∧ Follows c Q (next reply) st'
  | .halt _, _ => False

theorem Follows.bind {Q : α → Stage → Prop} {R : β → Stage → Prop} {p : Proc interface α}
    {f : α → Proc interface β} {st : Stage} (hp : Follows c Q p st)
    (hf : ∀ a st', Q a st' → Follows c R (f a) st') : Follows c R (p >>= f) st := by
  induction p generalizing st with
  | done a => exact hf a st hp
  | ask q next ih =>
    intro reply
    obtain ⟨st', hmove, hnext⟩ := hp reply
    exact ⟨st', hmove, ih reply hnext⟩
  | halt crash => exact hp.elim

/-- A program that keeps to the moves comes to its end, whatever the replies. -/
theorem Follows.asks {Q : α → Stage → Prop} {p : Proc interface α} {st : Stage}
    (h : Follows c Q p st) : p.Asks fun _ => True := by
  induction p generalizing st with
  | done a => trivial
  | ask q next ih =>
    refine ⟨trivial, fun reply => ?_⟩
    obtain ⟨st', -, hnext⟩ := h reply
    exact ih reply hnext
  | halt crash => exact h.elim

/-- A quiet program makes no difference to a watcher that has nothing left to do. -/
theorem follows_quiet {p : Proc interface α} (hp : p.Asks Request.IsQuiet) :
    Follows c (fun _ st => st = .due []) p (.due []) := by
  induction p with
  | done a => rfl
  | ask q next ih => exact fun reply => ⟨_, .apart (.quiet hp.1), ih reply (hp.2 reply)⟩
  | halt crash => exact hp.elim

/-- A program that may fail keeps to the moves; if it fails, nothing is left to do. -/
def Tries (c : String) (Q : α → Stage → Prop) (p : Step α) (st : Stage) : Prop :=
  Follows c (fun r st' => match r with
    | .ok a => Q a st'
    | .error _ => st' = .due []) p.run st

theorem tries_pure {Q : α → Stage → Prop} {a : α} {st : Stage} (h : Q a st) :
    Tries c Q (pure a) st := h

theorem Tries.bind {Q : α → Stage → Prop} {R : β → Stage → Prop} {p : Step α} {f : α → Step β}
    {st : Stage} (hp : Tries c Q p st) (hf : ∀ a st', Q a st' → Tries c R (f a) st') :
    Tries c R (p >>= f) st := by
  refine Follows.bind hp fun r st' hr => ?_
  cases r with
  | ok a => exact hf a st' hr
  | error e => exact hr

theorem tries_store {Q : α → Stage → Prop} {q : Query} {f : q.Answer → Step α} {st : Stage}
    (h : ∀ a, ∃ st', Moves c st ⟨.store q, .ok a⟩ st' ∧ Tries c Q (f a) st') :
    Tries c Q (store q >>= f) st := by
  intro reply
  cases reply with
  | error e => exact ⟨_, .fault, rfl⟩
  | ok a => exact h a

theorem tries_announce {Q : α → Stage → Prop} {e : Event} {f : Unit → Step α} {st st' : Stage}
    (hmove : ∀ reply, Moves c st ⟨.announce e, reply⟩ st') (hf : Tries c Q (f ()) st') :
    Tries c Q (announce e >>= f) st := fun reply => ⟨st', hmove reply, hf⟩

/-! ## Carrying out a plan -/

/-- What is left of some jobs for the case, before others. -/
def before (c : String) (front jobs : List Job) : Stage :=
  .due (front.filter (fun j => decide (j.number = c)) ++ jobs)

theorem before_self {j : Job} (hj : j.number = c) (jobs : List Job) :
    before c [j] jobs = .due (j :: jobs) := by
  simp [before, hj]

theorem before_other {j : Job} (hj : j.number ≠ c) (jobs : List Job) :
    before c [j] jobs = .due jobs := by
  simp [before, hj]

theorem tries_emit_apart {report : Report} {e : Event} (he : e.caseNumber ≠ c) (jobs : List Job) :
    Tries c (fun _ st => st = .due jobs) (emit report e) (.due jobs) :=
  tries_announce (fun _ => .apart (.announce he)) (tries_pure rfl)

theorem tries_emit {report : Report} {e : Event} {es : List Event} {rest : List Job} :
    Tries c (fun _ st => st = .tell es rest) (emit report e) (.tell (e :: es) rest) :=
  tries_announce (fun _ => .announce) (tries_pure rfl)

theorem tries_emitAll (number : String) (changes : List FieldChange) (report : Report)
    (rest : List Job) :
    Tries c (fun _ st => st = .due rest) (changes.foldlM (fun r d => emit r (d.event number)) report)
      (.tell (changes.map fun d => d.event number) rest) := by
  induction changes generalizing report with
  | nil => exact tries_pure rfl
  | cons d changes ih => exact tries_emit.bind fun report' st hst => hst ▸ ih report'

theorem tries_emitAll_apart {number : String} (hn : number ≠ c) (changes : List FieldChange)
    (report : Report) (jobs : List Job) :
    Tries c (fun _ st => st = .due jobs) (changes.foldlM (fun r d => emit r (d.event number)) report)
      (.due jobs) := by
  induction changes generalizing report with
  | nil => exact tries_pure rfl
  | cons d changes ih => exact (tries_emit_apart hn jobs).bind fun report' st hst => hst ▸ ih report'

/-- The question whether the write with the token was the first. -/
theorem tries_isFirstWriter {u : Instant} {g : Guid} {es : List Event} {rest : List Job} :
    Tries c (fun mine st => st = if mine then .tell es rest else .due rest) (isFirstWriter c u g)
      (.asking u g es rest) := by
  refine tries_store fun m => ?_
  cases m with
  | none => exact ⟨_, .second (by simp), tries_pure rfl⟩
  | some m =>
    by_cases hg : m.guid = g
    · subst hg
      exact ⟨_, .first, tries_pure (by simp)⟩
    · refine ⟨_, .second fun a ha => ?_, tries_pure (by simp [hg])⟩
      cases ha
      exact hg

theorem tries_isFirstWriter_apart {d : String} (hd : d ≠ c) {u : Instant} {g : Guid}
    (jobs : List Job) :
    Tries c (fun _ st => st = .due jobs) (isFirstWriter d u g) (.due jobs) := by
  refine tries_store fun m => ⟨_, .apart (.firstWriter hd), ?_⟩
  cases m <;> exact tries_pure rfl

/-- A closure does the job of its case. -/
theorem tries_close (report : Report) (s : Snapshot) (jobs : List Job) :
    Tries c (fun _ st => st = .due jobs) (close report s) (before c [.closing s] jobs) := by
  by_cases hs : (Job.closing s).number = c
  · rw [before_self hs]
    refine tries_store fun g => ⟨_, .claim hs (by simp [Job.closing]), ?_⟩
    subst hs
    refine tries_isFirstWriter.bind fun mine st hst => ?_
    subst hst
    cases mine with
    | true => exact tries_emit.bind fun _ st hst => tries_pure hst
    | false => exact tries_pure rfl
  · rw [before_other hs]
    refine tries_store fun g => ⟨_, .apart (.write hs), ?_⟩
    refine (tries_isFirstWriter_apart hs jobs).bind fun mine st hst => ?_
    subst hst
    cases mine with
    | true => exact (tries_emit_apart hs jobs).bind fun _ st hst => tries_pure hst
    | false => exact tries_pure rfl

/-- An update does the job of its case. -/
theorem tries_update (report : Report) (u : PlannedUpdate) (jobs : List Job) :
    Tries c (fun _ st => st = .due jobs) (update report u) (before c [.updating u] jobs) := by
  by_cases hu : (Job.updating u).number = c
  · rw [before_self hu]
    by_cases hnone : u.changes = []
    · refine tries_store fun g => ⟨_, .keep hu (by simp [Job.updating, hnone]), ?_⟩
      simp only [hnone, List.isEmpty_nil, if_true]
      exact tries_pure rfl
    · refine tries_store fun g => ⟨_, .claim hu (by simp [Job.updating, hnone]), ?_⟩
      simp only [List.isEmpty_iff, hnone, if_false]
      subst hu
      refine tries_isFirstWriter.bind fun mine st hst => ?_
      subst hst
      cases mine with
      | true => exact tries_emitAll _ _ _ _
      | false => exact tries_pure rfl
  · rw [before_other hu]
    refine tries_store fun g => ⟨_, .apart (.write hu), ?_⟩
    by_cases hnone : u.changes = []
    · simp only [hnone, List.isEmpty_nil, if_true]
      exact tries_pure rfl
    · simp only [List.isEmpty_iff, hnone, if_false]
      refine (tries_isFirstWriter_apart hu jobs).bind fun mine st hst => ?_
      subst hst
      cases mine with
      | true => exact tries_emitAll_apart hu _ _ _
      | false => exact tries_pure rfl

/-- A creation does the job of its case. -/
theorem tries_create (report : Report) (r : CaseRecord) (jobs : List Job) :
    Tries c (fun _ st => st = .due jobs) (create report r) (before c [.creating r] jobs) := by
  by_cases hr : (Job.creating r).number = c
  · rw [before_self hr]
    exact tries_store fun g => ⟨_, .keep hr rfl, tries_pure rfl⟩
  · rw [before_other hr]
    exact tries_store fun g => ⟨_, .apart (.write hr), tries_pure rfl⟩

theorem tries_foldlM {f : Report → α → Step Report} {job : α → Job}
    (hf : ∀ report a jobs, Tries c (fun _ st => st = .due jobs) (f report a) (before c [job a] jobs))
    (l : List α) (report : Report) (jobs : List Job) :
    Tries c (fun _ st => st = .due jobs) (l.foldlM f report) (before c (l.map job) jobs) := by
  induction l generalizing report with
  | nil => exact tries_pure rfl
  | cons a rest ih =>
    have hsplit : before c ((a :: rest).map job) jobs =
        before c [job a] ((rest.map job).filter (fun j => decide (j.number = c)) ++ jobs) := by
      simp only [before, List.map_cons, ← List.append_assoc, ← List.filter_append]
      rfl
    rw [hsplit]
    exact (hf report a _).bind fun report' st hst => hst ▸ ih report'

/-- Carrying out a plan does its work on the case. -/
theorem tries_carryOut (p : Plan) :
    Tries c (fun _ st => st = .due []) (carryOut p) (.due (p.jobsOf c)) := by
  have hsplit : Stage.due (p.jobsOf c) = before c (p.closures.map .closing)
      ((p.updates.map .updating).filter (fun j => decide (j.number = c)) ++
        ((p.creations.map .creating).filter (fun j => decide (j.number = c)) ++ [])) := by
    simp only [before, Plan.jobsOf, Plan.jobs, List.filter_append, List.append_assoc,
      List.append_nil]
  rw [hsplit]
  refine (tries_foldlM tries_close _ _ _).bind fun report st hst => ?_
  subst hst
  refine (tries_foldlM tries_update _ _ _).bind fun report st hst => ?_
  subst hst
  exact tries_foldlM tries_create _ _ _

/-! ## Cycles and flushes -/

/-- **A cycle keeps to the moves of every case.** -/
theorem follows_cycle (w : Watcher) {st : Stage} (hst : st.Rests) :
    Follows c (fun _ st' => st' = .due []) (cycle w) st := by
  have hpoll : Tries c (fun _ st' => st' = .due []) poll st := by
    intro reply
    cases reply with
    | error f => exact ⟨_, .noFetch hst, rfl⟩
    | ok live =>
      refine ⟨_, .fetch hst, ?_⟩
      exact tries_store fun previous => ⟨_, .list,
        (tries_carryOut _).bind fun report st' hst' => tries_pure hst'⟩
  refine Follows.bind hpoll fun r st' hr => ?_
  rcases r with f | ⟨live, report⟩
  · exact hr
  · have hst' : st' = .due [] := hr
    subst hst'
    cases w.subscribes with
    | true => exact (follows_quiet (asks_subscribeAll _ _)).bind fun summary st' hst' => hst'
    | false => rfl

theorem follows_deleteAll (count : Nat) (numbers : List String) :
    Follows c (fun _ st => st = .due []) (deleteAll count numbers) (.due []) := by
  induction numbers generalizing count with
  | nil => rfl
  | cons number rest ih =>
    intro reply
    cases reply with
    | error f => exact ⟨_, .fault, rfl⟩
    | ok a => exact ⟨_, .delete, ih _⟩

/-- **A flush keeps to the moves of every case.** -/
theorem follows_flush (w : Watcher) :
    Follows c (fun _ st => st = .due []) (flush w) (.due []) := by
  refine (follows_deleteAll 0 w.queue).bind fun r st hst => ?_
  rcases r with ⟨f, left⟩ | count <;> exact hst

end CaseHerald.Watch
