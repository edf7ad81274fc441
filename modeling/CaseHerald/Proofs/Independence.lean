import CaseHerald.Proofs.Crew
import CaseHerald.Proofs.Handled

/-!
# What announcements and subscriptions cannot change

Two systems are played side by side. The same fetches come to both, and the same failures and tokens
of the store; what becomes of announcements, and everything that subscribing to a case asks for, may
differ from one system to the other in any way. `Parallel` relates two programs that make the same
requests about cases and the same announcements, with any requests of subscribing between them.

## Main definitions

* `Watch.Parallel`, `Watch.Firm` : programs that agree on cases and announcements.
* `Watch.Fate`, `Watch.Aside` : the replies that concern cases, and the others.
* `Watch.System.play` : cycles and flushes of some watchers, one after the other.

## Main results

* `Watch.parallel_cycle`, `Watch.parallel_flush` : cycles and flushes of watchers with the same
  queue and report run in parallel.
* `Watch.Parallel.run` : parallel programs agree, whatever is replied aside.
* `Watch.plays_alike` : so do whole plays of two systems.
-/
namespace CaseHerald.Watch

open Store (Memory Query)

variable {α β γ δ ι φ ρ σ : Type}

/-! ## Requests about cases -/

/-- A step on the snapshots and markers. -/
inductive OfCases : Query → Prop
  | list : OfCases .list
  | write (r : CaseRecord) : OfCases (.write r)
  | firstWriter (number : String) (updated : Instant) : OfCases (.firstWriter number updated)
  | delete (number : String) : OfCases (.delete number)

instance : DecidablePred OfCases
  | .list => isTrue .list
  | .write r => isTrue (.write r)
  | .firstWriter number updated => isTrue (.firstWriter number updated)
  | .delete number => isTrue (.delete number)
  | .assets => isFalse fun h => nomatch h
  | .upsertAsset _ => isFalse fun h => nomatch h
  | .removeAsset _ => isFalse fun h => nomatch h
  | .channels _ => isFalse fun h => nomatch h
  | .track .. => isFalse fun h => nomatch h
  | .untrack .. => isFalse fun h => nomatch h

/-- A request that concerns cases: a fetch, or a step on the snapshots and markers. -/
inductive Request.Concerns : Request → Prop
  | fetch : Concerns .fetch
  | store {q : Query} (h : OfCases q) : Concerns (.store q)

open Request (IsQuiet Concerns)

/-- What two systems are compared by: a request that concerns cases with its reply, or an
announcement without what becomes of it. -/
inductive Shown
  | asked (x : Exchange)
  | sent (e : Event)

/-- What an exchange shows. -/
def Exchange.shown? : Exchange → Option Shown
  | ⟨.fetch, reply⟩ => some (.asked ⟨.fetch, reply⟩)
  | ⟨.store q, reply⟩ => if OfCases q then some (.asked ⟨.store q, reply⟩) else none
  | ⟨.announce e, _⟩ => some (.sent e)
  | _ => none

/-! ## Parallel programs

Two watchers need not go in step: where one subscribes to a case the other may not, or may fail
early. Their requests about cases and their announcements come in pairs, and any other request stands
on one side alone. -/

/-- The programs make the same requests about cases and the same announcements, and agree on what
follows as long as the replies about cases do; each may make quiet requests of its own. Both come to
results that are related. -/
inductive Parallel (R : α → β → Prop) : Proc interface α → Proc interface β → Prop
  | done {a : α} {b : β} (related : R a b) : Parallel R (.done a) (.done b)
  | both {q : Request} {f : q.Reply → Proc interface α} {g : q.Reply → Proc interface β}
      (concerns : Concerns q) (rest : ∀ reply, Parallel R (f reply) (g reply)) :
      Parallel R (.ask q f) (.ask q g)
  | announce {e : Event} {f : (Request.announce e).Reply → Proc interface α}
      {g : (Request.announce e).Reply → Proc interface β}
      (rest : ∀ reply reply', Parallel R (f reply) (g reply')) :
      Parallel R (.ask (.announce e) f) (.ask (.announce e) g)
  | left {q : Request} {f : q.Reply → Proc interface α} {p : Proc interface β} (quiet : IsQuiet q)
      (rest : ∀ reply, Parallel R (f reply) p) : Parallel R (.ask q f) p
  | right {q : Request} {p : Proc interface α} {g : q.Reply → Proc interface β} (quiet : IsQuiet q)
      (rest : ∀ reply, Parallel R p (g reply)) : Parallel R p (.ask q g)

/-- A program that is parallel to itself: it goes by the replies about cases alone. -/
def Firm (p : Proc interface α) : Prop := Parallel (· = ·) p p

namespace Parallel

variable {R : α → β → Prop} {S : γ → δ → Prop}

theorem bind {p : Proc interface α} {p' : Proc interface β} {f : α → Proc interface γ}
    {g : β → Proc interface δ} (h : Parallel R p p') (hf : ∀ a b, R a b → Parallel S (f a) (g b)) :
    Parallel S (p >>= f) (p' >>= g) := by
  induction h with
  | done related => exact hf _ _ related
  | both concerns _ ih => exact .both concerns ih
  | announce _ ih => exact .announce ih
  | left quiet _ ih => exact .left quiet ih
  | right quiet _ ih => exact .right quiet ih

/-- A quiet program may stand before one of two parallel programs. -/
theorem quiet_left {Q : γ → Prop} {p : Proc interface γ} {f : γ → Proc interface α}
    {p' : Proc interface β} (hp : p.Asks IsQuiet) (hQ : p.Yields Q)
    (hf : ∀ a, Q a → Parallel R (f a) p') : Parallel R (p >>= f) p' := by
  induction p with
  | done a => exact hf a hQ
  | ask q next ih => exact .left hp.1 fun reply => ih reply (hp.2 reply) (hQ reply)
  | halt crash => exact hp.elim

theorem quiet_right {Q : γ → Prop} {p : Proc interface γ} {f : γ → Proc interface β}
    {p' : Proc interface α} (hp : p.Asks IsQuiet) (hQ : p.Yields Q)
    (hf : ∀ a, Q a → Parallel R p' (f a)) : Parallel R p' (p >>= f) := by
  induction p with
  | done a => exact hf a hQ
  | ask q next ih => exact .right hp.1 fun reply => ih reply (hp.2 reply) (hQ reply)
  | halt crash => exact hp.elim

end Parallel

theorem Firm.bind {p : Proc interface α} {f : α → Proc interface β} (hp : Firm p)
    (hf : ∀ a, Firm (f a)) : Firm (p >>= f) := by
  refine Parallel.bind hp ?_
  rintro a _ rfl
  exact hf a

theorem firm_done (a : α) : Firm (.done a) := .done rfl

/-- Steps that are parallel to themselves. -/
def FirmStep (p : Step α) : Prop := Firm p.run

theorem firmStep_pure (a : α) : FirmStep (pure a : Step α) := .done rfl

theorem FirmStep.bind {p : Step α} {f : α → Step β} (hp : FirmStep p)
    (hf : ∀ a, FirmStep (f a)) : FirmStep (p >>= f) := by
  refine Firm.bind hp fun r => ?_
  cases r with
  | ok a => exact hf a
  | error e => exact firm_done _

theorem FirmStep.foldlM {f : β → α → Step β} (hf : ∀ b a, FirmStep (f b a)) (l : List α)
    (b : β) : FirmStep (l.foldlM f b) := by
  induction l generalizing b with
  | nil => exact firmStep_pure b
  | cons a l ih => exact (hf b a).bind ih

/-! ## The programs of a watcher -/

theorem firm_fetch : FirmStep fetch := .both .fetch fun _ => .done rfl

theorem firm_store {q : Query} (h : OfCases q) : FirmStep (store q) :=
  .both (.store h) fun _ => .done rfl

/-- Whether an announcement arrives makes no difference. -/
theorem firm_announce (e : Event) : FirmStep (announce e) := .announce fun _ _ => .done rfl

theorem firm_isFirstWriter (number : String) (updated : Instant) (guid : Guid) :
    FirmStep (isFirstWriter number updated guid) := by
  refine (firm_store (.firstWriter _ _)).bind fun m => ?_
  cases m with
  | none => exact firmStep_pure _
  | some m => exact firmStep_pure _

theorem firm_emit (report : Report) (e : Event) : FirmStep (emit report e) :=
  (firm_announce e).bind fun _ => firmStep_pure _

theorem firm_close (report : Report) (s : Snapshot) : FirmStep (close report s) := by
  refine (firm_store (.write _)).bind fun guid => ?_
  refine (firm_isFirstWriter _ _ _).bind fun mine => ?_
  cases mine with
  | true => exact (firm_emit _ _).bind fun _ => firmStep_pure _
  | false => exact firmStep_pure _

theorem firm_update (report : Report) (u : PlannedUpdate) : FirmStep (update report u) := by
  refine (firm_store (.write _)).bind fun guid => ?_
  by_cases hnone : u.changes = []
  · simp only [hnone, List.isEmpty_nil, if_true]
    exact firmStep_pure _
  · simp only [List.isEmpty_iff, hnone, if_false]
    refine (firm_isFirstWriter _ _ _).bind fun mine => ?_
    cases mine with
    | true => exact FirmStep.foldlM (fun r c => firm_emit r _) _ _
    | false => exact firmStep_pure _

theorem firm_create (report : Report) (r : CaseRecord) : FirmStep (create report r) :=
  (firm_store (.write _)).bind fun _ => firmStep_pure _

theorem firm_carryOut (p : Plan) : FirmStep (carryOut p) := by
  refine (FirmStep.foldlM firm_close _ _).bind fun report => ?_
  refine (FirmStep.foldlM firm_update _ _).bind fun report' => ?_
  exact FirmStep.foldlM firm_create _ _

theorem firm_poll : FirmStep poll := by
  refine firm_fetch.bind fun live => ?_
  refine (firm_store .list).bind fun previous => ?_
  exact (firm_carryOut _).bind fun report => firmStep_pure _

theorem firm_deleteAll (count : Nat) (numbers : List String) :
    Firm (deleteAll count numbers) := by
  induction numbers generalizing count with
  | nil => exact firm_done _
  | cons number rest ih =>
    refine Firm.bind (firm_store (.delete number)) fun r => ?_
    cases r with
    | ok a => exact ih _
    | error f => exact firm_done _

/-- The counts of a cycle without those of subscribing. -/
def Summary.reconciled (s : Summary) : Summary := { s with subscribed := 0, subscribeFailures := 0 }

theorem Summary.reconciled_addSubscribed (s : Summary) (r : Except Failure Subscribed) :
    (s.addSubscribed r).reconciled = s.reconciled := by
  cases r <;> rfl

/-- Subscribing changes no other count. -/
theorem yields_subscribeAll (s : Summary) (created : List CaseRecord) :
    (subscribeAll s created).Yields fun after => after.reconciled = s.reconciled := by
  induction created generalizing s with
  | nil => exact rfl
  | cons r created ih =>
    have hone : Proc.Yields (P := interface) (fun after => after.reconciled = s.reconciled)
        (do return s.addSubscribed (← (autoSubscribe r).outcome)) :=
      Proc.yields_bind fun outcome => s.reconciled_addSubscribed outcome
    refine hone.bind fun after hafter => ?_
    exact (ih after).mono fun last hlast => hlast.trans hafter

/-- Whether two watchers have the same cases to delete and the same report. One may subscribe to new
cases where the other does not. -/
structure Watcher.Alike (w w' : Watcher) : Prop where
  queue_eq : w.queue = w'.queue
  lastReport_eq : w.lastReport = w'.lastReport

/-- The counts of a cycle, with those of subscribing if the watcher does. -/
def counted (w : Watcher) (counts : Summary) (created : List CaseRecord) :
    Proc interface Summary :=
  if w.subscribes then subscribeAll counts created else pure counts

theorem asks_counted (w : Watcher) (counts : Summary) (created : List CaseRecord) :
    (counted w counts created).Asks IsQuiet := by
  unfold counted
  split
  · exact asks_subscribeAll counts created
  · trivial

theorem yields_counted (w : Watcher) (counts : Summary) (created : List CaseRecord) :
    (counted w counts created).Yields fun after => after.reconciled = counts.reconciled := by
  unfold counted
  split
  · exact yields_subscribeAll counts created
  · exact rfl

/-- The counts of a cycle before those of subscribing. -/
def countsOf (live : Nat) (report : Report) : Summary :=
  ⟨live, report.events.length, report.created.length, report.deletions.length, 0, 0⟩

theorem cycle_eq (w : Watcher) :
    cycle w = poll.outcome >>= fun
      | .error f => pure (.error f, w)
      | .ok (live, report) => counted w (countsOf live report) report.created >>= fun summary =>
          pure (.ok summary, w.after report) := by
  refine bind_congr fun r => ?_
  cases r with
  | error f => rfl
  | ok found =>
    cases hsubscribes : w.subscribes <;> simp [counted, countsOf, hsubscribes]

/-- **Cycles of watchers that are alike run in parallel**, and leave them alike. -/
theorem parallel_cycle {w w' : Watcher} (h : w.Alike w') :
    Parallel (fun r r' => r.1.map Summary.reconciled = r'.1.map Summary.reconciled ∧
      r.2.Alike r'.2) (cycle w) (cycle w') := by
  rw [cycle_eq, cycle_eq]
  refine Parallel.bind firm_poll ?_
  rintro r _ rfl
  cases r with
  | error f => exact .done ⟨rfl, h⟩
  | ok found =>
    obtain ⟨live, report⟩ := found
    have halike : (w.after report).Alike (w'.after report) := by
      refine ⟨?_, rfl⟩
      simp only [Watcher.after, h.queue_eq]
    -- only one of the two may subscribe, so each is taken by itself
    refine Parallel.quiet_left (asks_counted w _ _) (yields_counted w _ _) fun s hs => ?_
    refine Parallel.quiet_right (asks_counted w' _ _) (yields_counted w' _ _) fun s' hs' => ?_
    exact .done ⟨congrArg Except.ok (hs.trans hs'.symm), halike⟩

/-- Flushes of watchers that are alike run in parallel, and leave them alike. -/
theorem parallel_flush {w w' : Watcher} (h : w.Alike w') :
    Parallel (fun r r' => r.1 = r'.1 ∧ r.2.Alike r'.2) (flush w) (flush w') := by
  have hdelete : Parallel (· = ·) (deleteAll 0 w.queue) (deleteAll 0 w'.queue) := by
    rw [h.queue_eq]
    exact firm_deleteAll 0 w'.queue
  refine hdelete.bind ?_
  rintro r _ rfl
  cases r with
  | ok count => exact .done ⟨rfl, rfl, h.lastReport_eq⟩
  | error e => exact .done ⟨rfl, rfl, h.lastReport_eq⟩

/-! ## Two systems -/

/-- What decides the replies about cases, and goes on from one of them to the next: what a fetch of
a watcher brings, and for a step of the store its failure or the token it would give to a write. -/
structure Fate (ι φ : Type) where
  fetch : ι → φ → Except SourceFailure (List CaseRecord) × φ
  store : ι → Query → φ → Except StoreFailure Guid × φ

/-- What decides all other replies: what becomes of announcements, the assets, the resource tree,
the subscribers of cases and the comments. -/
abbrev Aside (ι ρ : Type) := ι → (q : Request) → Memory → ρ → q.Reply × ρ

/-- What watchers act on: the store, and how far the replies have come. -/
structure Place (φ ρ : Type) where
  store : Memory
  fate : φ
  rest : ρ

/-- The reply to a watcher, and the place after it. -/
def answer (fate : Fate ι φ) (aside : Aside ι ρ) (i : ι) : Proc.Handler interface (Place φ ρ)
  | .fetch, s =>
    let r := fate.fetch i s.fate
    (r.1, { s with fate := r.2 })
  | .store q, s =>
    if OfCases q then
      match fate.store i q s.fate with
      | (.error f, next) => (.error f, { s with fate := next })
      | (.ok g, next) =>
        ((s.store.answer g q).1, { s with store := (s.store.answer g q).2, fate := next })
    else
      let r := aside i (.store q) s.store s.rest
      (r.1, { s with rest := r.2 })
  | q, s =>
    let r := aside i q s.store s.rest
    (r.1, { s with rest := r.2 })

/-- Whether two stores hold the same snapshots and markers, and are written in the same way. -/
structure SameCases (m m' : Memory) : Prop where
  snapshots_eq : m.snapshots = m'.snapshots
  markers_eq : m.markers = m'.markers
  writable_eq : m.writable = m'.writable

theorem SameCases.answer {m m' : Memory} (h : SameCases m m') {q : Query} (hq : OfCases q)
    (g : Guid) :
    (m.answer g q).1 = (m'.answer g q).1 ∧ SameCases (m.answer g q).2 (m'.answer g q).2 := by
  obtain ⟨hsnapshots, hmarkers, hwritable⟩ := h
  cases hq with
  | list => exact ⟨by simp [Memory.answer, hsnapshots], ⟨hsnapshots, hmarkers, hwritable⟩⟩
  | firstWriter => exact ⟨by simp [Memory.answer, hmarkers], ⟨hsnapshots, hmarkers, hwritable⟩⟩
  | write r =>
    simp only [Memory.answer, hwritable]
    split
    · exact ⟨rfl, by simp [Memory.write, hsnapshots], by simp [Memory.write, hmarkers], hwritable⟩
    · exact ⟨rfl, hsnapshots, hmarkers, hwritable⟩
  | delete c =>
    simp only [Memory.answer, hwritable]
    split
    · exact ⟨rfl, by simp [Memory.delete, hsnapshots], by simp [Memory.delete, hmarkers], hwritable⟩
    · exact ⟨rfl, hsnapshots, hmarkers, hwritable⟩

/-- Whether two places are the same for requests about cases. -/
structure Place.Alike {ρ' : Type} (s : Place φ ρ) (s' : Place φ ρ') : Prop where
  store : SameCases s.store s'.store
  fate_eq : s.fate = s'.fate

section Answer

variable {ρ' : Type} {fate : Fate ι φ} {aside : Aside ι ρ} {aside' : Aside ι ρ'} {i : ι}
  {s : Place φ ρ} {s' : Place φ ρ'}

theorem answer_concerns {q : Request} (hq : Concerns q) (h : s.Alike s') :
    (answer fate aside i q s).1 = (answer fate aside' i q s').1 ∧
      (answer fate aside i q s).2.Alike (answer fate aside' i q s').2 := by
  obtain ⟨hstore, hfate⟩ := h
  cases hq with
  | fetch =>
    simp only [answer, hfate]
    exact ⟨rfl, hstore, rfl⟩
  | store hcases =>
    simp only [answer, if_pos hcases, hfate]
    split
    · exact ⟨rfl, hstore, rfl⟩
    · exact ⟨(hstore.answer hcases _).1, (hstore.answer hcases _).2, rfl⟩

/-- Any other reply leaves the place as it is for requests about cases. -/
theorem answer_aside {q : Request} (hq : IsQuiet q ∨ ∃ e, q = .announce e) (h : s.Alike s') :
    (answer fate aside i q s).2.Alike s' := by
  obtain ⟨hstore, hfate⟩ := h
  rcases hq with hq | ⟨e, rfl⟩
  · cases hq <;> exact ⟨hstore, hfate⟩
  · exact ⟨hstore, hfate⟩

theorem Place.Alike.symm (h : s.Alike s') : s'.Alike s :=
  ⟨⟨h.store.snapshots_eq.symm, h.store.markers_eq.symm, h.store.writable_eq.symm⟩, h.fate_eq.symm⟩

theorem shown?_quiet {q : Request} (hq : IsQuiet q) (reply : q.Reply) :
    (Exchange.mk q reply).shown? = none := by
  cases hq <;> rfl

/-- **Parallel programs agree, whatever is replied aside**: both come to results that are related,
show the same, and leave the places alike. -/
theorem Parallel.run (fate : Fate ι φ) (aside : Aside ι ρ) (aside' : Aside ι ρ') (i : ι)
    {R : α → β → Prop} {p : Proc interface α} {p' : Proc interface β} (h : Parallel R p p')
    (hs : s.Alike s') :
    ∃ a b, (p.run (answer fate aside i) s).1 = .ok a ∧
      (p'.run (answer fate aside' i) s').1 = .ok b ∧ R a b ∧
      (p.run (answer fate aside i) s).2.Alike (p'.run (answer fate aside' i) s').2 ∧
      (transcript (answer fate aside i) p s).filterMap Exchange.shown? =
        (transcript (answer fate aside' i) p' s').filterMap Exchange.shown? := by
  induction h generalizing s s' with
  | done related => exact ⟨_, _, rfl, rfl, related, hs, rfl⟩
  | @both q f g concerns _ ih =>
    have hreply : (answer fate aside i q s).1 = (answer fate aside' i q s').1 :=
      (answer_concerns concerns hs).1
    have halike : (answer fate aside i q s).2.Alike (answer fate aside' i q s').2 :=
      (answer_concerns concerns hs).2
    obtain ⟨a, b, ha, hb, hab, hplaces, hshown⟩ := ih (answer fate aside i q s).1 halike
    simp only [Proc.run_ask, transcript, ← hreply, List.filterMap_cons, hshown]
    exact ⟨a, b, ha, hb, hab, hplaces, trivial⟩
  | @announce e f g _ ih =>
    -- the replies may differ, and both programs go on from any
    have halike : (answer fate aside i (.announce e) s).2.Alike
        (answer fate aside' i (.announce e) s').2 :=
      (answer_aside (.inr ⟨e, rfl⟩) (answer_aside (.inr ⟨e, rfl⟩) hs.symm).symm)
    obtain ⟨a, b, ha, hb, hab, hplaces, hshown⟩ := ih (answer fate aside i (.announce e) s).1
      (answer fate aside' i (.announce e) s').1 halike
    refine ⟨a, b, ha, hb, hab, hplaces, ?_⟩
    simp only [transcript, List.filterMap_cons, Exchange.shown?, hshown]
  | @left q f p quiet _ ih =>
    obtain ⟨a, b, ha, hb, hab, hplaces, hshown⟩ :=
      ih (answer fate aside i q s).1 (answer_aside (.inl quiet) hs)
    refine ⟨a, b, ha, hb, hab, hplaces, ?_⟩
    rw [transcript, List.filterMap_cons_none (shown?_quiet quiet _), hshown]
  | @right q p g quiet _ ih =>
    obtain ⟨a, b, ha, hb, hab, hplaces, hshown⟩ :=
      ih (answer fate aside' i q s').1 (answer_aside (.inl quiet) hs.symm).symm
    refine ⟨a, b, ha, hb, hab, hplaces, ?_⟩
    rw [hshown, transcript, List.filterMap_cons_none (shown?_quiet quiet _)]

end Answer

/-! ## Whole plays -/

/-- What a cycle or a flush comes to. -/
inductive Answer
  | cycled (r : Except Failure Summary)
  | flushed (r : Except Failure Nat)
  deriving DecidableEq

/-- The answer without the counts of subscribing. -/
def Answer.reconciled : Answer → Answer
  | .cycled r => .cycled (r.map Summary.reconciled)
  | .flushed r => .flushed r

/-- A cycle or a flush of a watcher. -/
def Turn.program (w : Watcher) : Turn → Proc interface (Answer × Watcher)
  | .cycle => (fun r => (.cycled r.1, r.2)) <$> Watch.cycle w
  | .flush => (fun r => (.flushed r.1, r.2)) <$> Watch.flush w

/-- Watchers on a store. -/
structure System (ι φ ρ : Type) where
  place : Place φ ρ
  watchers : ι → Watcher

/-- What has come of one turn: its exchanges, its answer, and the watcher and the store after it. -/
structure Happening where
  log : List Exchange
  answer : Except Crash Answer
  watcher : Watcher
  store : Memory

variable [DecidableEq ι]

/-- One turn of a watcher. -/
def System.step (fate : Fate ι φ) (aside : Aside ι ρ) (y : System ι φ ρ) (i : ι) (turn : Turn) :
    Happening × System ι φ ρ :=
  let p := turn.program (y.watchers i)
  let r := p.run (Watch.answer fate aside i) y.place
  let w := match r.1 with
    | .ok (_, w) => w
    | .error _ => y.watchers i
  (⟨transcript (Watch.answer fate aside i) p y.place, r.1.map Prod.fst, w, r.2.store⟩,
    ⟨r.2, Function.update y.watchers i w⟩)

/-- Turns of some watchers, one after the other: what comes of each, and the system at the end. -/
def System.play (fate : Fate ι φ) (aside : Aside ι ρ) :
    List (ι × Turn) → System ι φ ρ → List Happening × System ι φ ρ
  | [], y => ([], y)
  | (i, turn) :: rest, y =>
    let now := y.step fate aside i turn
    let later := play fate aside rest now.2
    (now.1 :: later.1, later.2)

/-- Whether the same has come of two turns: they have made the same requests about cases, with the
same replies, and the same announcements between them, in the same order; they have succeeded or
failed in the same way, with the same counts up to those of subscribing; and they have left watchers
with the same cases to delete and the same report, and stores with the same snapshots and markers. -/
structure Happening.Alike (a a' : Happening) : Prop where
  shown : a.log.filterMap Exchange.shown? = a'.log.filterMap Exchange.shown?
  answer : ∃ x x', a.answer = .ok x ∧ a'.answer = .ok x' ∧ x.reconciled = x'.reconciled
  watcher : a.watcher.Alike a'.watcher
  store : SameCases a.store a'.store

/-- Whether two systems are the same for requests about cases. -/
structure System.Alike {ρ' : Type} (y : System ι φ ρ) (y' : System ι φ ρ') : Prop where
  place : y.place.Alike y'.place
  watchers : ∀ i, (y.watchers i).Alike (y'.watchers i)

section Plays

variable {ρ' : Type} {y : System ι φ ρ} {y' : System ι φ ρ'}

theorem parallel_turn (turn : Turn) {w w' : Watcher} (h : w.Alike w') :
    Parallel (fun r r' => r.1.reconciled = r'.1.reconciled ∧ r.2.Alike r'.2) (turn.program w)
      (turn.program w') := by
  cases turn with
  | cycle =>
    simp only [Turn.program, map_eq_pure_bind]
    refine (parallel_cycle h).bind fun r r' hr => .done ⟨?_, hr.2⟩
    exact congrArg Answer.cycled hr.1
  | flush =>
    simp only [Turn.program, map_eq_pure_bind]
    refine (parallel_flush h).bind fun r r' hr => .done ⟨?_, hr.2⟩
    exact congrArg Answer.flushed hr.1

/-- The same comes of one turn. -/
theorem step_alike (fate : Fate ι φ) (aside : Aside ι ρ) (aside' : Aside ι ρ') (h : y.Alike y')
    (i : ι) (turn : Turn) :
    (y.step fate aside i turn).1.Alike (y'.step fate aside' i turn).1 ∧
      (y.step fate aside i turn).2.Alike (y'.step fate aside' i turn).2 := by
  obtain ⟨⟨x, w⟩, ⟨x', w'⟩, ha, hb, ⟨hanswer, hwatcher⟩, hplaces, hshown⟩ :=
    Parallel.run fate aside aside' i (parallel_turn turn (h.watchers i)) h.place
  simp only [System.step, ha, hb]
  refine ⟨⟨hshown, ⟨x, x', rfl, rfl, hanswer⟩, hwatcher, hplaces.store⟩, hplaces, fun j => ?_⟩
  by_cases hj : j = i
  · subst hj
    simpa using hwatcher
  · simpa [hj] using h.watchers j

/-- **Neither announcements nor subscriptions change what becomes of cases.** Two systems that
differ only in what is replied aside, and in which watchers subscribe, play the same turns alike. -/
theorem plays_alike (fate : Fate ι φ) (aside : Aside ι ρ) (aside' : Aside ι ρ') (h : y.Alike y')
    (turns : List (ι × Turn)) :
    List.Forall₂ Happening.Alike (y.play fate aside turns).1 (y'.play fate aside' turns).1 ∧
      (y.play fate aside turns).2.Alike (y'.play fate aside' turns).2 := by
  induction turns generalizing y y' with
  | nil => exact ⟨.nil, h⟩
  | cons turn rest ih =>
    obtain ⟨i, turn⟩ := turn
    obtain ⟨hnow, hnext⟩ := step_alike fate aside aside' h i turn
    obtain ⟨hlater, hlast⟩ := ih hnext
    exact ⟨.cons hnow hlater, hlast⟩

end Plays

/-! ## A system where all goes well and one where nothing does -/

/-- A case of a project. -/
def placed : CaseRecord := { sample "1" 1 2 with parent := "projects/555" }

/-- The case is open at the first fetch and gone at the next; the store works. -/
def openThenGone : Fate Unit Nat where
  fetch _ n := (.ok (if n = 0 then [placed] else []), n + 1)
  store _ _ n := (.ok (.ofNat (n + 1)), n + 1)

/-- Every announcement arrives, and an asset of the project has one address to subscribe. -/
def allGoesWell : Aside Unit Unit
  | _, .store .assets, _, _ => (.ok [⟨"C1", .project, "555", ["a@x.com"], "U1"⟩], ())
  | _, .find (.project _), _, _ => (.ok ⟨"projects/555", "p", "organizations/42"⟩, ())
  | _, .subscribe _ _ emails _, _, _ => (.ok emails, ())
  | _, .comment _, _, _ => (.ok (), ())
  | _, .announce _, _, _ => (.ok (), ())
  | _, q, _, _ => ((Scene.serve ⟨.empty, []⟩ [] (.ofNat 0) q).1, ())

/-- No announcement arrives, and there are no assets to be had. -/
def nothingDoes : Aside Unit Unit
  | _, .store .assets, _, _ => (.error (.backend "down"), ())
  | _, .announce e, _, _ => (.error (.delivery "chat" e.caseNumber), ())
  | _, q, _, _ => ((Scene.serve ⟨.empty, []⟩ [] (.ofNat 0) q).1, ())

/-- An empty store and one watcher, which subscribes to new cases. -/
def emptySystem : System Unit Nat Unit := ⟨⟨.empty, 0, ()⟩, fun _ => .new true⟩

/-- The case is found, then gone, then deleted. -/
def threeTurns : List (Unit × Turn) := [((), .cycle), ((), .cycle), ((), .flush)]

theorem plays_alike_three :
    List.Forall₂ Happening.Alike (emptySystem.play openThenGone allGoesWell threeTurns).1
        (emptySystem.play openThenGone nothingDoes threeTurns).1 ∧
      (emptySystem.play openThenGone allGoesWell threeTurns).1.map Happening.answer =
        [.ok (.cycled (.ok ⟨1, 0, 1, 0, 1, 0⟩)), .ok (.cycled (.ok ⟨0, 1, 0, 1, 0, 0⟩)),
          .ok (.flushed (.ok 1))] ∧
      (emptySystem.play openThenGone nothingDoes threeTurns).1.map Happening.answer =
        [.ok (.cycled (.ok ⟨1, 0, 1, 0, 0, 1⟩)), .ok (.cycled (.ok ⟨0, 1, 0, 1, 0, 0⟩)),
          .ok (.flushed (.ok 1))] := by
  have alike : emptySystem.Alike emptySystem := ⟨⟨⟨rfl, rfl, rfl⟩, rfl⟩, fun _ => ⟨rfl, rfl⟩⟩
  exact ⟨(plays_alike openThenGone allGoesWell nothingDoes alike threeTurns).1, by decide +kernel,
    by decide +kernel⟩

end CaseHerald.Watch
