import CaseHerald.Proofs.Jobs
import CaseHerald.Proofs.Quiet
import Mathlib.Data.List.Nodup

/-!
# A watcher alone

What a program does when nobody else acts: `Does` is a triple of a program, the scene before it, and two
ends. Either nothing fails, or the first step of the store that fails ends the program. Carrying out a
plan does its jobs in order up to there (`doesJobs_carryOut`), if no two of them are about one case.
`Runs.cycled` and `Runs.flushed` say from this all that may come of a cycle and of a flush.
-/
namespace CaseHerald.Watch

open Store (Memory Query)

variable {α β : Type}

/-! ## Programs and what comes of them -/

/-- The two ends of a program: nothing fails, and it has a result, announcements and a scene as told; or
a step of the store fails, which ends it, with the step, announcements and a scene as told. -/
inductive Ends (Q : α → List Event → Scene → Prop) (F : Query → List Event → Scene → Prop) :
    List Exchange → Except Failure α → Scene → Prop
  | done {log : List Exchange} {a : α} {t : Scene} (smooth : ∀ x ∈ log, x.succeeds)
      (post : Q a (log.filterMap Exchange.event?) t) : Ends Q F log (.ok a) t
  | fault (front : List Exchange) {q : Query} {f : StoreFailure} {t : Scene}
      (smooth : ∀ x ∈ front, x.succeeds) (post : F q (front.filterMap Exchange.event?) t) :
      Ends Q F (front ++ [⟨.store q, .error f⟩]) (.error (.store f)) t

/-- Every run of the program from the scene has one of the two ends. -/
def Does (p : Step α) (s : Scene) (Q : α → List Event → Scene → Prop)
    (F : Query → List Event → Scene → Prop) : Prop :=
  ∀ log r t, Runs p.run s log r t → Ends Q F log r t

variable {Q Q' : α → List Event → Scene → Prop} {R : β → List Event → Scene → Prop}
  {F F' : Query → List Event → Scene → Prop} {s : Scene}

theorem Does.imp {p : Step α} (h : Does p s Q F) (hQ : ∀ a es t, Q a es t → Q' a es t)
    (hF : ∀ q es t, F q es t → F' q es t) : Does p s Q' F' := by
  intro log r t hrun
  cases h log r t hrun with
  | done smooth post => exact .done smooth (hQ _ _ _ post)
  | fault front smooth post => exact .fault front smooth (hF _ _ _ post)

theorem does_pure {a : α} (h : Q a [] s) : Does (pure a) s Q F := by
  intro log r t hrun
  cases hrun with
  | done => exact .done (List.forall_mem_nil _) h

theorem forall_succeeds_append {front back : List Exchange} (hfront : ∀ x ∈ front, x.succeeds)
    (hback : ∀ x ∈ back, x.succeeds) : ∀ x ∈ front ++ back, x.succeeds := by
  intro x hx
  rcases List.mem_append.1 hx with hx | hx
  · exact hfront x hx
  · exact hback x hx

theorem Does.bind {p : Step α} {f : α → Step β} (hp : Does p s Q F)
    (hf : ∀ a es t, Q a es t →
      Does (f a) t (fun b more u => R b (es ++ more) u) fun q more u => F' q (es ++ more) u)
    (hF : ∀ q es t, F q es t → F' q es t) : Does (p >>= f) s R F' := by
  intro log r u hrun
  obtain ⟨front, back, outcome, t, rfl, hfront, hback⟩ := Runs.bind hrun
  cases hp _ _ _ hfront with
  | done smooth post =>
    cases hf _ _ _ post _ _ _ hback with
    | done smooth' post' =>
      refine .done (forall_succeeds_append smooth smooth') ?_
      rwa [List.filterMap_append]
    | fault middle smooth' post' =>
      rw [← List.append_assoc]
      refine .fault (front ++ middle) (forall_succeeds_append smooth smooth') ?_
      rwa [List.filterMap_append]
  | fault front smooth post =>
    cases hback with
    | done =>
      rw [List.append_nil]
      exact .fault front smooth (hF _ _ _ post)

theorem does_store {q : Query} {f : q.Answer → Step α}
    (h : ∀ a t, Meets s ⟨.store q, .ok a⟩ t → Does (f a) t Q F)
    (hF : ∀ t, t.store = s.store → F q [] t) : Does (store q >>= f) s Q F := by
  intro log r u hrun
  obtain ⟨reply, rest, t, rfl, hmeets, hrest⟩ := Runs.of_ask hrun
  cases reply with
  | error e =>
    cases hrest with
    | done => exact .fault [] (List.forall_mem_nil _) (hF _ hmeets.error)
  | ok a =>
    have hone : ∀ x ∈ [(⟨.store q, .ok a⟩ : Exchange)], x.succeeds := by simp [Exchange.succeeds]
    cases h a t hmeets rest r u hrest with
    | done smooth post => exact .done (forall_succeeds_append hone smooth) post
    | fault front smooth post =>
      exact .fault (_ :: front) (forall_succeeds_append hone smooth) post

theorem does_announce {e : Event} {f : Unit → Step α}
    (h : Does (f ()) s (fun a es t => Q a (e :: es) t) fun q es t => F q (e :: es) t) :
    Does (announce e >>= f) s Q F := by
  intro log r u hrun
  obtain ⟨reply, rest, t, rfl, hmeets, hrest⟩ := Runs.of_ask hrun
  obtain rfl := hmeets.same fun _ h => by cases h
  have hone : ∀ x ∈ [(⟨.announce e, reply⟩ : Exchange)], x.succeeds := by simp [Exchange.succeeds]
  cases h rest r u hrest with
  | done smooth post => exact .done (forall_succeeds_append hone smooth) post
  | fault front smooth post =>
    exact .fault (_ :: front) (forall_succeeds_append hone smooth) post

theorem does_isFirstWriter (c : String) (u : Instant) (g : Guid) (s : Scene) :
    Does (isFirstWriter c u g) s
      (fun mine es t =>
        (mine = true ↔ (s.store.marker? c u).map (·.guid) = some g) ∧ es = [] ∧ t = s)
      fun q es t => q = .firstWriter c u ∧ es = [] ∧ t.store = s.store := by
  refine does_store (fun m t hmeets => ?_) fun t ht => ⟨rfl, rfl, ht⟩
  obtain ⟨rfl, rfl⟩ := hmeets.firstWriter
  cases t.store.marker? c u with
  | none => exact does_pure ⟨by simp, rfl, rfl⟩
  | some m => exact does_pure ⟨by simp, rfl, rfl⟩

theorem does_emit (report : Report) (e : Event) (s : Scene) :
    Does (emit report e) s
      (fun after es t => after.deletions = report.deletions ∧ es = [e] ∧ t = s)
      fun _ _ _ => False :=
  does_announce (does_pure ⟨rfl, rfl, rfl⟩)

theorem does_emitAll (number : String) (changes : List FieldChange) (report : Report) (s : Scene) :
    Does (changes.foldlM (fun r d => emit r (d.event number)) report) s
      (fun after es t => after.deletions = report.deletions ∧
        es = (changes.map fun d => d.event number) ∧ t = s)
      fun _ _ _ => False := by
  induction changes generalizing report with
  | nil => exact does_pure ⟨rfl, rfl, rfl⟩
  | cons d changes ih =>
    refine (does_emit report _ s).bind (fun after es t h => ?_) fun _ _ _ h => h
    obtain ⟨hdeletions, rfl, rfl⟩ := h
    refine (ih after).imp (fun last es t h => ?_) fun _ _ _ h => h
    obtain ⟨hlast, rfl, rfl⟩ := h
    exact ⟨hlast.trans hdeletions, rfl, rfl⟩

/-! ## Jobs -/

/-- What is announced with a job: its announcements, if its write is the first of the version. -/
def told (s : Memory) (j : Job) : List Event :=
  if (s.marker? j.number j.record.updated).isSome then [] else j.events

theorem told_of_silent {s : Memory} {j : Job} (h : j.events = []) : told s j = [] := by
  unfold told
  split
  · rfl
  · exact h

/-- Whether a job's announcements, if it has any, are nobody's so far. -/
def Unclaimed (s : Memory) (j : Job) : Prop :=
  j.events ≠ [] → s.marker? j.number j.record.updated = none

theorem told_of_unclaimed {s : Memory} {j : Job} (h : Unclaimed s j) : told s j = j.events := by
  by_cases hnone : j.events = []
  · rw [told_of_silent hnone, hnone]
  · simp [told, h hnone]

/-- The write of a job is the first of its version exactly if the version had no marker. -/
theorem told_eq {g : Guid} {j : Job} {mine : Bool} (fresh : s.Fresh g)
    (hmine : mine = true ↔
      ((s.store.write g j.record).marker? j.number j.record.updated).map (·.guid) = some g) :
    told s.store j = if mine then j.events else [] := by
  have hmarker : (s.store.write g j.record).marker? j.number j.record.updated =
      some ((s.store.marker? j.number j.record.updated).getD ⟨g, j.record⟩) :=
    (Memory.marker?_write _ _ _ _ _).trans (if_pos ⟨rfl, rfl⟩)
  rw [hmarker] at hmine
  unfold told
  cases hm : s.store.marker? j.number j.record.updated with
  | none =>
    rw [hm] at hmine
    simp [hmine]
  | some m =>
    rw [hm] at hmine
    have hother : mine = false := by simpa [fresh.notMarked _ _ _ hm] using hmine
    simp [hother]

/-- The store after the writes of some jobs, in order. -/
inductive Written : Memory → List Job → Memory → Prop
  | nil {m : Memory} : Written m [] m
  | cons {m n : Memory} {j : Job} {jobs : List Job} (g : Guid)
      (rest : Written (m.write g j.record) jobs n) : Written m (j :: jobs) n

/-- The step at which a job may be cut short, and the store then. -/
inductive Cut (m : Memory) (j : Job) : Query → Memory → Prop
  | writing : Cut m j (.write j.record) m
  | asking (g : Guid) (loud : j.events ≠ []) :
      Cut m j (.firstWriter j.number j.record.updated) (m.write g j.record)

/-- Jobs that are done in order until one is cut short at a step: what is announced before, and the
store then. -/
inductive Stops (m : Memory) : List Job → Query → List Event → Memory → Prop
  | intro (done : List Job) {rest : List Job} {j : Job} {q : Query} {n t : Memory}
      (written : Written m done n) (cut : Cut n j q t) : Stops m (done ++ j :: rest) q (done.flatMap (told m)) t

namespace Written

variable {m n : Memory} {jobs : List Job}

theorem eq_of_nil (h : Written m [] n) : n = m := by
  cases h
  rfl

theorem append {k : Memory} {more : List Job} (h : Written m jobs n) (h' : Written n more k) :
    Written m (jobs ++ more) k := by
  induction h with
  | nil => exact h'
  | cons g _ ih => exact .cons g (ih h')

theorem marker?_isSome (h : Written m jobs n) (c : String) (u : Instant) :
    (n.marker? c u).isSome ↔
      (m.marker? c u).isSome ∨ ∃ j ∈ jobs, j.number = c ∧ j.record.updated = u := by
  induction h with
  | nil => simp
  | @cons m n j jobs g _ ih =>
    rw [ih, Memory.marker?_write]
    by_cases hj : j.record.number = c ∧ j.record.updated = u
    · simp [hj, Job.number]
    · simp only [if_neg hj, List.mem_cons, exists_eq_or_imp]
      have hj' : ¬(j.number = c ∧ j.record.updated = u) := hj
      simp [hj']

theorem snapshot?_of_notMem (h : Written m jobs n) {c : String} (hc : ∀ j ∈ jobs, j.number ≠ c) :
    n.snapshot? c = m.snapshot? c := by
  induction h with
  | nil => rfl
  | @cons m n j jobs g _ ih =>
    have hj : j.record.number ≠ c := hc j List.mem_cons_self
    rw [ih fun k hk => hc k (List.mem_cons_of_mem _ hk), Memory.snapshot?_write, if_neg hj]

theorem snapshot?_of_mem (h : Written m jobs n) (hjobs : (jobs.map Job.number).Nodup) {j : Job}
    (hj : j ∈ jobs) : ∃ g, n.snapshot? j.number = some ⟨j.record, g⟩ := by
  induction h with
  | nil => cases hj
  | @cons m n k jobs g rest ih =>
    obtain ⟨hk, hrest⟩ := List.nodup_cons.1 hjobs
    rcases List.mem_cons.1 hj with rfl | hj
    · refine ⟨g, ?_⟩
      rw [rest.snapshot?_of_notMem fun i hi hnumber => hk (List.mem_map.2 ⟨i, hi, hnumber⟩),
        Memory.snapshot?_write]
      exact if_pos rfl
    · exact ih hrest hj

theorem record?_of_notMem (h : Written m jobs n) {c : String} (hc : ∀ j ∈ jobs, j.number ≠ c) :
    n.record? c = m.record? c := by
  rw [Memory.record?, h.snapshot?_of_notMem hc, Memory.record?]

theorem record?_of_mem (h : Written m jobs n) (hjobs : (jobs.map Job.number).Nodup) {j : Job}
    (hj : j ∈ jobs) : n.record? j.number = some j.record := by
  obtain ⟨g, hg⟩ := h.snapshot?_of_mem hjobs hj
  rw [Memory.record?, hg]
  rfl

/-- What every write preserves. -/
theorem preserves {P : Memory → Prop} (hP : ∀ s g r, P s → P (s.write g r)) (h : Written m jobs n)
    (hm : P m) : P n := by
  induction h with
  | nil => exact hm
  | cons g _ ih => exact ih (hP _ g _ hm)

theorem filed (h : Written m jobs n) (hm : m.Filed) : n.Filed :=
  h.preserves (fun _ g r hs => hs.write g r) hm

/-- Jobs leave what is announced with those of other cases as it was. -/
theorem flatMap_told {more : List Job} (h : Written m jobs n)
    (hnodup : ((jobs ++ more).map Job.number).Nodup) :
    more.flatMap (told n) = more.flatMap (told m) := by
  rw [List.map_append] at hnodup
  refine List.flatMap_congr fun k hk => ?_
  have hother : ¬∃ j ∈ jobs, j.number = k.number ∧ j.record.updated = k.record.updated :=
    fun ⟨j, hj, hnumber, _⟩ => (List.nodup_append.1 hnodup).2.2 _ (List.mem_map_of_mem hj) _
      (List.mem_map_of_mem hk) hnumber
  unfold told
  simp only [h.marker?_isSome, hother, or_false]

end Written

namespace Stops

variable {m n t : Memory} {jobs more : List Job} {q : Query} {es : List Event}

theorem append (h : Stops m jobs q es t) (more : List Job) : Stops m (jobs ++ more) q es t := by
  cases h with
  | intro done written cut =>
    rw [List.append_assoc, List.cons_append]
    exact .intro done written cut

theorem after (h : Stops n more q es t) (hwritten : Written m jobs n)
    (hnodup : ((jobs ++ more).map Job.number).Nodup) :
    Stops m (jobs ++ more) q (jobs.flatMap (told m) ++ es) t := by
  cases h with
  | intro done written cut =>
    rw [← List.append_assoc, List.map_append] at hnodup
    rw [hwritten.flatMap_told (List.nodup_append.1 hnodup).1, ← List.flatMap_append,
      ← List.append_assoc]
    exact .intro (jobs ++ done) (hwritten.append written) cut

end Stops

/-- Whether a program does the jobs in order, up to the first failure, and its report then has these
cases to delete. -/
def DoesJobs (p : Step Report) (s : Scene) (jobs : List Job) (deletions : List String) : Prop :=
  Does p s
    (fun after es t => Written s.store jobs t.store ∧ es = jobs.flatMap (told s.store) ∧
      after.deletions = deletions)
    fun q es t => Stops s.store jobs q es t.store

theorem doesJobs_pure {report : Report} {s : Scene} :
    DoesJobs (pure report) s [] report.deletions :=
  does_pure ⟨.nil, rfl, rfl⟩

theorem DoesJobs.bind {p : Step Report} {f : Report → Step Report} {s : Scene}
    {jobs more : List Job} {deletions deletions' : List String} (hp : DoesJobs p s jobs deletions)
    (hnodup : ((jobs ++ more).map Job.number).Nodup)
    (hf : ∀ report t, report.deletions = deletions → DoesJobs (f report) t more deletions') :
    DoesJobs (p >>= f) s (jobs ++ more) deletions' := by
  refine Does.bind hp (fun report es t h => ?_) fun q es t h => h.append more
  obtain ⟨hwritten, rfl, hdeletions⟩ := h
  refine (hf report t hdeletions).imp (fun last es u h => ?_) fun q es u h =>
    h.after hwritten hnodup
  obtain ⟨hwritten', rfl, hdeletions'⟩ := h
  refine ⟨hwritten.append hwritten', ?_, hdeletions'⟩
  rw [hwritten.flatMap_told hnodup, List.flatMap_append]

/-- A job that begins with its write, which may fail. -/
theorem doesJobs_write {j : Job} {f : Guid → Step Report} {s : Scene} {deletions : List String}
    (h : ∀ g, s.Fresh g → Does (f g) ⟨s.store.write g j.record, g :: s.minted⟩
      (fun after es t => t.store = s.store.write g j.record ∧ es = told s.store j ∧
        after.deletions = deletions)
      fun q es t => es = [] ∧ Cut s.store j q t.store) :
    DoesJobs (store (.write j.record) >>= f) s [j] deletions := by
  refine does_store (fun g t hmeets => ?_) fun t ht => ht ▸ .intro [] .nil .writing
  obtain ⟨hfresh, rfl⟩ := hmeets.write
  refine (h g hfresh).imp (fun after es t h => ?_) fun q es t h => ?_
  · obtain ⟨hstore, rfl, hdeletions⟩ := h
    exact ⟨hstore ▸ .cons g .nil, by simp, hdeletions⟩
  · obtain ⟨rfl, hcut⟩ := h
    exact .intro [] .nil hcut

theorem doesJobs_close (report : Report) (a : Snapshot) (s : Scene) :
    DoesJobs (close report a) s [.closing a] (report.deletions ++ [a.number]) := by
  refine doesJobs_write (j := .closing a) fun g hfresh => ?_
  refine (does_isFirstWriter _ _ _ _).bind (fun mine es t h => ?_) fun q es t h => ?_
  · obtain ⟨hmine, rfl, rfl⟩ := h
    rw [told_eq hfresh hmine]
    cases mine with
    | true =>
      refine (does_emit _ _ _).bind (fun after es t h => ?_) fun q es t h => h.elim
      obtain ⟨hdeletions, rfl, rfl⟩ := h
      exact does_pure ⟨rfl, rfl, congrArg (· ++ [a.number]) hdeletions⟩
    | false => exact does_pure ⟨rfl, rfl, rfl⟩
  · obtain ⟨rfl, rfl, hstore⟩ := h
    exact ⟨rfl, hstore ▸ .asking g (List.cons_ne_nil _ _)⟩

theorem doesJobs_update (report : Report) (u : PlannedUpdate) (s : Scene) :
    DoesJobs (update report u) s [.updating u] report.deletions := by
  refine doesJobs_write (j := .updating u) fun g hfresh => ?_
  by_cases hnone : u.changes = []
  · simp only [hnone, List.isEmpty_nil, if_true]
    exact does_pure ⟨rfl, (told_of_silent (by simp [Job.updating, hnone])).symm, rfl⟩
  · simp only [List.isEmpty_iff, hnone, if_false]
    refine (does_isFirstWriter _ _ _ _).bind (fun mine es t h => ?_) fun q es t h => ?_
    · obtain ⟨hmine, rfl, rfl⟩ := h
      rw [told_eq hfresh hmine]
      cases mine with
      | true =>
        refine (does_emitAll _ _ _ _).imp (fun after es t h => ?_) fun q es t h => h.elim
        obtain ⟨hdeletions, rfl, rfl⟩ := h
        exact ⟨rfl, rfl, hdeletions⟩
      | false => exact does_pure ⟨rfl, rfl, rfl⟩
    · obtain ⟨rfl, rfl, hstore⟩ := h
      exact ⟨rfl, hstore ▸ .asking g (by simpa [Job.updating] using hnone)⟩

theorem doesJobs_create (report : Report) (r : CaseRecord) (s : Scene) :
    DoesJobs (create report r) s [.creating r] report.deletions :=
  doesJobs_write (j := .creating r) fun _ _ => does_pure ⟨rfl, (told_of_silent rfl).symm, rfl⟩

/-- Programs that do their jobs do them one after the other. -/
theorem doesJobs_foldlM {f : Report → α → Step Report} {job : α → Job} {queues : α → List String}
    (hf : ∀ report a s, DoesJobs (f report a) s [job a] (report.deletions ++ queues a)) (l : List α)
    (report : Report) (s : Scene) (hnodup : ((l.map job).map Job.number).Nodup) :
    DoesJobs (l.foldlM f report) s (l.map job) (report.deletions ++ l.flatMap queues) := by
  induction l generalizing report s with
  | nil =>
    rw [List.flatMap_nil, List.append_nil]
    exact doesJobs_pure
  | cons a l ih =>
    have hrest (after : Report) (t : Scene)
        (hdeletions : after.deletions = report.deletions ++ queues a) : DoesJobs
        (l.foldlM f after) t (l.map job) (report.deletions ++ (a :: l).flatMap queues) := by
      rw [List.flatMap_cons, ← List.append_assoc, ← hdeletions]
      exact ih after t (List.nodup_cons.1 hnodup).2
    exact (hf report a s).bind hnodup hrest

/-- **Carrying out a plan** does its jobs in order, up to the first failure, and queues the cases that
are closed or swept away. -/
theorem doesJobs_carryOut (p : Plan) (s : Scene) (hnodup : (p.jobs.map Job.number).Nodup) :
    DoesJobs (carryOut p) s p.jobs p.removals := by
  have hjobs : p.jobs = p.closures.map Job.closing ++ (p.updates.map Job.updating ++
      p.creations.map Job.creating) := by rw [Plan.jobs, List.append_assoc]
  have hnil {γ : Type} (l : List γ) : l.flatMap (fun _ => ([] : List String)) = [] :=
    List.flatMap_eq_nil_iff.2 fun _ _ => rfl
  rw [hjobs] at hnodup ⊢
  have hall := hnodup
  rw [List.map_append] at hall
  obtain ⟨hclosures, hrest, -⟩ := List.nodup_append.1 hall
  have hboth := hrest
  rw [List.map_append] at hboth
  obtain ⟨hupdates, hcreations, -⟩ := List.nodup_append.1 hboth
  refine (doesJobs_foldlM doesJobs_close _ _ _ hclosures).bind hnodup fun report t hreport => ?_
  have hupdate (report : Report) (u : PlannedUpdate) (s : Scene) :
      DoesJobs (update report u) s [.updating u] (report.deletions ++ []) := by
    rw [List.append_nil]
    exact doesJobs_update report u s
  have hcreate (report : Report) (r : CaseRecord) (s : Scene) :
      DoesJobs (create report r) s [.creating r] (report.deletions ++ []) := by
    rw [List.append_nil]
    exact doesJobs_create report r s
  refine (doesJobs_foldlM hupdate _ _ _ hupdates).bind hrest fun report' u hreport' => ?_
  have hlast := doesJobs_foldlM hcreate p.creations report' u hcreations
  rw [hnil, List.append_nil, hreport', hnil, List.append_nil, Report.addDeletions, hreport,
    ← List.map_eq_flatMap] at hlast
  exact hlast

/-! ## The requests of a plan -/

/-- A request that carrying out a plan may make. -/
inductive Request.OfPlan (p : Plan) : Request → Prop
  | write {j : Job} (planned : j ∈ p.jobs) : OfPlan p (.store (.write j.record))
  | ask {j : Job} (planned : j ∈ p.jobs) :
      OfPlan p (.store (.firstWriter j.number j.record.updated))
  | announce {j : Job} {e : Event} (planned : j ∈ p.jobs) (event : e ∈ j.events) :
      OfPlan p (.announce e)

section Asks

open Request (OfPlan)

variable {A : Request → Prop} {p : Plan}

theorem asks_store {q : Query} {f : q.Answer → Step α} (hq : A (.store q))
    (hf : ∀ a, (f a).Asks A) : (store q >>= f).Asks A :=
  (Attempt.asks_ask (Proc.asks_request hq)).bind hf

theorem asks_isFirstWriter {number : String} {u : Instant} (g : Guid)
    (h : A (.store (.firstWriter number u))) : (isFirstWriter number u g).Asks A := by
  refine asks_store h fun m => ?_
  cases m with
  | none => exact Attempt.asks_pure _
  | some m => exact Attempt.asks_pure _

theorem asks_emit (report : Report) {e : Event} (h : A (.announce e)) : (emit report e).Asks A := by
  have hannounce : (announce e).Asks A := ((Proc.asks_request h).map _).map _
  exact hannounce.bind fun _ => Attempt.asks_pure _

theorem asks_close (report : Report) {a : Snapshot} (planned : .closing a ∈ p.jobs) :
    (close report a).Asks (OfPlan p) := by
  refine asks_store (.write planned) fun g => ?_
  refine (asks_isFirstWriter g (.ask planned)).bind fun mine => ?_
  cases mine with
  | true =>
    exact (asks_emit _ (.announce planned List.mem_cons_self)).bind fun _ => Attempt.asks_pure _
  | false => exact Attempt.asks_pure _

theorem asks_update (report : Report) {u : PlannedUpdate} (planned : .updating u ∈ p.jobs) :
    (update report u).Asks (OfPlan p) := by
  refine asks_store (.write planned) fun g => ?_
  by_cases hnone : u.changes = []
  · simp only [hnone, List.isEmpty_nil, if_true]
    exact Attempt.asks_pure _
  · simp only [List.isEmpty_iff, hnone, if_false]
    refine (asks_isFirstWriter g (.ask planned)).bind fun mine => ?_
    cases mine with
    | true =>
      refine Attempt.Asks.foldlM (fun d hd r => asks_emit r (.announce planned ?_)) _
      exact List.mem_map.2 ⟨d, hd, rfl⟩
    | false => exact Attempt.asks_pure _

theorem asks_create (report : Report) {r : CaseRecord} (planned : .creating r ∈ p.jobs) :
    (create report r).Asks (OfPlan p) :=
  asks_store (.write planned) fun _ => Attempt.asks_pure _

/-- **Carrying out a plan asks for nothing but its jobs.** -/
theorem asks_carryOut (p : Plan) : (carryOut p).Asks (OfPlan p) := by
  refine (Attempt.Asks.foldlM (fun a ha report => asks_close report ?_) _).bind fun report => ?_
  · exact List.mem_append_left _ (List.mem_append_left _ (List.mem_map_of_mem ha))
  refine (Attempt.Asks.foldlM (fun u hu report => asks_update report ?_) _).bind fun report => ?_
  · exact List.mem_append_left _ (List.mem_append_right _ (List.mem_map_of_mem hu))
  refine Attempt.Asks.foldlM (fun r hr report => asks_create report ?_) _
  exact List.mem_append_right _ (List.mem_map_of_mem hr)

/-- A request that a cycle may make. -/
inductive Request.OfCycle : Request → Prop
  | fetch : OfCycle .fetch
  | list : OfCycle (.store .list)
  | plan {p : Plan} {q : Request} (planned : q.OfPlan p) : OfCycle q
  | quiet {q : Request} (quiet : q.IsQuiet) : OfCycle q

/-- **What a cycle asks for**: the open cases, the list of the store, its plan, and subscriptions. -/
theorem asks_cycle (w : Watcher) : (cycle w).Asks Request.OfCycle := by
  have hfetch : fetch.Asks Request.OfCycle := Attempt.asks_ask (Proc.asks_request .fetch)
  have hpoll : poll.Asks Request.OfCycle := by
    refine hfetch.bind fun live => asks_store .list fun previous => ?_
    have hplan : (reconcile previous live).Asks Request.OfCycle :=
      Proc.Asks.mono (asks_carryOut _) fun q hq => .plan hq
    exact hplan.bind fun report => Attempt.asks_pure _
  refine Proc.Asks.bind hpoll fun outcome => ?_
  cases outcome with
  | error f => trivial
  | ok a =>
    obtain ⟨live, report⟩ := a
    cases w.subscribes with
    | true =>
      simp only [if_true]
      have hquiet (counts : Summary) (created : List CaseRecord) :
          (subscribeAll counts created).Asks Request.OfCycle :=
        Proc.Asks.mono (asks_subscribeAll counts created) fun q hq => .quiet hq
      exact (hquiet _ _).bind fun summary => trivial
    | false =>
      simp only [Bool.false_eq_true, if_false]
      trivial

/-- A cycle deletes nothing. -/
theorem Request.OfCycle.ne_delete {q : Request} (h : q.OfCycle) (c : String) :
    q ≠ .store (.delete c) := by
  rintro rfl
  cases h with
  | plan planned => cases planned
  | quiet quiet => cases quiet

end Asks

/-! ## Cycles -/

/-- Whether the open records of each case agree on its time of update. -/
def Consistent (live : List CaseRecord) : Prop :=
  ∀ r ∈ live, ∀ a ∈ live, r.isActive → a.isActive → r.number = a.number → r.updated = a.updated

instance (live : List CaseRecord) : Decidable (Consistent live) :=
  inferInstanceAs (Decidable (∀ r ∈ live, ∀ a ∈ live, _))

/-- No two jobs of a plan are about one case. -/
theorem nodup_jobs (previous : List Snapshot) (live : List CaseRecord) :
    ((Plan.of previous live).jobs.map Job.number).Nodup := by
  rw [List.nodup_iff_count_le_one]
  intro c
  have hcount : ((Plan.of previous live).jobs.map Job.number).count c =
      ((Plan.of previous live).jobsOf c).length := by
    rw [List.count, List.countP_map, List.countP_eq_length_filter, Plan.jobsOf]
    congr 2
  rw [hcount, Plan.jobsOf_of]
  cases Plan.job? live c _ <;> simp

/-- The record of a case after the jobs of a plan. -/
theorem Written.record?_eq {s t : Memory} {live : List CaseRecord} (hfiled : s.Filed)
    (h : Written s (Plan.of s.snapshots.values live).jobs t) (c : String) :
    t.record? c = match Plan.job? live c (s.snapshot? c) with
      | some j => some j.record
      | none => s.record? c := by
  have hjobs := Plan.jobsOf_of s.snapshots.values live c
  rw [Memory.find?_values hfiled] at hjobs
  cases hj : Plan.job? live c (s.snapshot? c) with
  | none =>
    rw [hj] at hjobs
    have hnone := List.filter_eq_nil_iff.1 hjobs
    exact h.record?_of_notMem fun j hj => by simpa using hnone j hj
  | some j =>
    rw [hj] at hjobs
    have hone : j ∈ (Plan.of s.snapshots.values live).jobsOf c := hjobs ▸ List.mem_cons_self
    obtain ⟨hmem, hnumber⟩ := List.mem_filter.1 hone
    obtain rfl : j.number = c := by simpa using hnumber
    exact h.record?_of_mem (nodup_jobs _ _) hmem

/-- All that may come of a cycle of a watcher that meets the store alone. It fetches, lists, and does
its jobs in order, until something fails; then nothing that it remembers changes. Otherwise it ends with
requests that leave the cases alone. -/
inductive Cycled (w : Watcher) (m : Memory) :
    List Exchange → Except Failure Summary × Watcher → Memory → Prop
  | noFetch {f : SourceFailure} : Cycled w m [⟨.fetch, .error f⟩] (.error (.source f), w) m
  | noList {live : List CaseRecord} {f : StoreFailure} :
      Cycled w m [⟨.fetch, .ok live⟩, ⟨.store .list, .error f⟩] (.error (.store f), w) m
  | stopped {live : List CaseRecord} {front : List Exchange} {q : Query} {f : StoreFailure}
      {t : Memory} (smooth : ∀ x ∈ front, x.succeeds)
      (planned : ∀ x ∈ front, x.request.OfPlan (Plan.of m.snapshots.values live))
      (stops : Stops m (Plan.of m.snapshots.values live).jobs q (front.filterMap Exchange.event?) t) :
      Cycled w m (⟨.fetch, .ok live⟩ :: ⟨.store .list, .ok m.snapshots.values⟩ ::
        (front ++ [⟨.store q, .error f⟩])) (.error (.store f), w) t
  | done {live : List CaseRecord} {front back : List Exchange} {report : Report}
      {summary : Summary} {t : Memory} (smooth : ∀ x ∈ front, x.succeeds)
      (planned : ∀ x ∈ front, x.request.OfPlan (Plan.of m.snapshots.values live))
      (quiet : ∀ x ∈ back, x.request.IsQuiet)
      (written : Written m (Plan.of m.snapshots.values live).jobs t)
      (announced : front.filterMap Exchange.event? =
        (Plan.of m.snapshots.values live).jobs.flatMap (told m))
      (deletions : report.deletions = (Plan.of m.snapshots.values live).removals) :
      Cycled w m (⟨.fetch, .ok live⟩ :: ⟨.store .list, .ok m.snapshots.values⟩ ::
        (front ++ back)) (.ok summary, w.after report) t

/-- **What a cycle does**, whatever the replies it gets. -/
theorem Runs.cycled {w : Watcher} {s t : Scene} {log : List Exchange}
    {r : Except Failure Summary × Watcher} (hrun : Runs (cycle w) s log r t) :
    Cycled w s.store log r t.store := by
  obtain ⟨front, back, outcome, u, rfl, hpoll, hrest⟩ := Runs.bind hrun
  obtain ⟨reply, log, v, rfl, hmeets, hlist⟩ := Runs.of_ask hpoll
  obtain rfl := hmeets.same fun _ h => by cases h
  cases reply with
  | error f =>
    cases hlist with
    | done => cases hrest with
      | done => exact .noFetch
  | ok live =>
    obtain ⟨reply, log, v, rfl, hmeets, hreconcile⟩ := Runs.of_ask hlist
    cases reply with
    | error f =>
      cases hreconcile with
      | done => cases hrest with
        | done => exact hmeets.error ▸ .noList
    | ok previous =>
      obtain ⟨rfl, rfl⟩ := hmeets.list
      have hdoes : Does (reconcile v.store.snapshots.values live >>= fun report =>
          pure (live.length, report)) v
          (fun a es t => Written v.store (Plan.of v.store.snapshots.values live).jobs t.store ∧
            es = (Plan.of v.store.snapshots.values live).jobs.flatMap (told v.store) ∧
            a.2.deletions = (Plan.of v.store.snapshots.values live).removals)
          fun q es t => Stops v.store (Plan.of v.store.snapshots.values live).jobs q es t.store := by
        refine Does.bind (doesJobs_carryOut _ v (nodup_jobs _ _)) (fun report es t h => ?_)
          fun q es t h => h
        exact does_pure (by rwa [List.append_nil])
      have hplanned := hreconcile.asks <|
        (asks_carryOut (Plan.of v.store.snapshots.values live)).bind fun report =>
          Attempt.asks_pure (live.length, report)
      cases hdoes _ _ _ hreconcile with
      | fault front smooth stops =>
        cases hrest with
        | done =>
          rw [List.append_nil]
          exact .stopped smooth (fun x hx => hplanned x (List.mem_append_left _ hx)) stops
      | @done _ a _ smooth post =>
        obtain ⟨count, report⟩ := a
        obtain ⟨hwritten, hannounced, hdeletions⟩ := post
        -- what is left subscribes to the new cases, if it does anything
        have hquiet : (∃ summary, r = (.ok summary, w.after report)) ∧
            (∀ x ∈ back, x.request.IsQuiet) ∧ t = u := by
          cases hw : w.subscribes with
          | true =>
            simp only [hw, if_true] at hrest
            obtain ⟨log, last, summary, v, rfl, hsubscribe, hdone⟩ := Runs.bind hrest
            have hasks := hsubscribe.asks (asks_subscribeAll _ _)
            obtain ⟨-, rfl⟩ := hsubscribe.quiet (asks_subscribeAll _ _)
            cases hdone with
            | done => exact ⟨⟨summary, rfl⟩, by rwa [List.append_nil], rfl⟩
          | false =>
            simp only [hw, Bool.false_eq_true, if_false] at hrest
            cases hrest with
            | done => exact ⟨⟨_, rfl⟩, List.forall_mem_nil _, rfl⟩
        obtain ⟨⟨summary, rfl⟩, hback, rfl⟩ := hquiet
        exact .done smooth hplanned hback hwritten hannounced hdeletions

/-- A cycle writes closing marks, and open records that it has fetched. -/
theorem Cycled.of_written {w : Watcher} {m t : Memory} {log : List Exchange}
    {r : Except Failure Summary × Watcher} (h : Cycled w m log r t) {x : Exchange} (hx : x ∈ log)
    {v : CaseRecord × Guid} (hv : x.written? = some v) :
    ∃ live, (∃ y ∈ log, y.fetched? = some live) ∧
      (v.1.isMarked ∨ v.1 ∈ live ∧ v.1.isActive) := by
  obtain ⟨record, g⟩ := v
  obtain rfl := Exchange.eq_of_written? hv
  have hplanned {live : List CaseRecord}
      (h : (Request.store (.write record)).OfPlan (Plan.of m.snapshots.values live)) :
      record.isMarked ∨ record ∈ live ∧ record.isActive := by
    cases h with
    | write planned => exact Plan.record_of_mem_jobs planned
  cases h with
  | noFetch => cases List.mem_singleton.1 hx
  | noList =>
    rcases List.mem_cons.1 hx with heq | hx
    · cases heq
    · cases List.mem_singleton.1 hx
  | @stopped live front q f _ smooth planned stops =>
    refine ⟨live, ⟨_, List.mem_cons_self, rfl⟩, ?_⟩
    rcases List.mem_cons.1 hx with heq | hx
    · cases heq
    rcases List.mem_cons.1 hx with heq | hx
    · cases heq
    rcases List.mem_append.1 hx with hx | hx
    · exact hplanned (planned _ hx)
    · cases List.mem_singleton.1 hx
  | @done live front back report summary _ smooth planned quiet written announced deletions =>
    refine ⟨live, ⟨_, List.mem_cons_self, rfl⟩, ?_⟩
    rcases List.mem_cons.1 hx with heq | hx
    · cases heq
    rcases List.mem_cons.1 hx with heq | hx
    · cases heq
    rcases List.mem_append.1 hx with hx | hx
    · exact hplanned (planned _ hx)
    · cases quiet _ hx

/-- A case that a cycle queues is stored with a closing mark after it. -/
theorem Written.isMarked_of_mem_removals {s t : Memory} {live : List CaseRecord} {c : String}
    (hs : s.Filed) (h : Written s (Plan.of s.snapshots.values live).jobs t)
    (hc : c ∈ (Plan.of s.snapshots.values live).removals) :
    ∃ r, t.record? c = some r ∧ r.isMarked := by
  rw [Plan.mem_removals, Memory.isStored_values hs, Plan.isLive_eq] at hc
  obtain ⟨hstored, hgone⟩ := hc
  obtain ⟨a, ha⟩ := Option.isSome_iff_exists.1 hstored
  have hnone : Plan.lastActive? live c = none := by simpa using hgone
  rw [h.record?_eq hs, ha, Plan.job?, hnone]
  by_cases hm : a.isMarked
  · exact ⟨a.record, by simp [hm, Memory.record?, ha], hm⟩
  · exact ⟨a.record.mark, by simp [hm, Job.closing], by simp [CaseRecord.mark, CaseRecord.isMarked]⟩

/-- A cycle in which nothing fails does all its jobs. -/
theorem Cycled.of_succeeds {w : Watcher} {m t : Memory} {log : List Exchange}
    {live : List CaseRecord} {r : Except Failure Summary × Watcher} (h : Cycled w m log r t)
    (hok : ∀ x ∈ log, x.succeeds) (hfetch : ∀ x ∈ log, ∀ l, x.fetched? = some l → l = live) :
    ∃ summary report, r = (.ok summary, w.after report) ∧
      Written m (Plan.of m.snapshots.values live).jobs t ∧
      log.filterMap Exchange.event? =
        (Plan.of m.snapshots.values live).jobs.flatMap (told m) ∧
      report.deletions = (Plan.of m.snapshots.values live).removals := by
  cases h with
  | noFetch => exact absurd (hok _ List.mem_cons_self) Bool.false_ne_true
  | noList =>
    exact (Exchange.not_succeeds_error (hok _ (List.mem_cons_of_mem _ List.mem_cons_self))).elim
  | stopped =>
    exact (Exchange.not_succeeds_error (hok _ (List.mem_cons_of_mem _ (List.mem_cons_of_mem _
      (List.mem_append_right _ List.mem_cons_self))))).elim
  | @done l front back report summary _ smooth planned quiet written announced deletions =>
    obtain rfl := hfetch _ List.mem_cons_self l rfl
    refine ⟨summary, report, rfl, written, ?_, deletions⟩
    have hback : back.filterMap Exchange.event? = [] :=
      List.filterMap_eq_nil_iff.2 fun x hx => (quiet x hx).event?_eq
    have hall : (front ++ back).filterMap Exchange.event? = front.filterMap Exchange.event? := by
      rw [List.filterMap_append, hback, List.append_nil]
    exact hall.trans announced

/-- Nobody has claimed a version that a plan announces, if there are no markers of its closures and
updates. -/
theorem forall_unclaimed {s : Memory} {p : Plan}
    (closures : ∀ a ∈ p.closures, s.marker? a.number .closingMark = none)
    (updates : ∀ u ∈ p.updates, s.marker? u.current.number u.current.updated = none) :
    ∀ j ∈ p.jobs, Unclaimed s j := by
  intro j hj loud
  rcases List.mem_append.1 hj with hj | hj
  · rcases List.mem_append.1 hj with hj | hj
    · obtain ⟨a, ha, rfl⟩ := List.mem_map.1 hj
      exact closures a ha
    · obtain ⟨u, hu, rfl⟩ := List.mem_map.1 hj
      exact updates u hu
  · obtain ⟨r, -, rfl⟩ := List.mem_map.1 hj
    exact absurd rfl loud

/-- A cycle announces all that its plan may announce, if no version of it has been claimed. -/
theorem flatMap_told_eq {s : Memory} {p : Plan} (h : ∀ j ∈ p.jobs, Unclaimed s j) :
    p.jobs.flatMap (told s) = p.events :=
  List.flatMap_congr fun j hj => told_of_unclaimed (h j hj)

/-- A watcher queues its cases and those that were in its queue. -/
theorem mem_foldl_enqueue {c : String} {queue l : List String} :
    c ∈ l.foldl Watcher.enqueue queue ↔ c ∈ queue ∨ c ∈ l := by
  induction l generalizing queue with
  | nil => simp
  | cons d l ih =>
    have hone : c ∈ Watcher.enqueue queue d ↔ c ∈ queue ∨ c = d := by
      unfold Watcher.enqueue
      split
      next hd =>
        have hmem : d ∈ queue := by simpa using hd
        exact ⟨.inl, fun h => h.elim id fun h => h ▸ hmem⟩
      next => simp
    rw [List.foldl_cons, ih, hone, List.mem_cons, or_assoc]

/-! ## Flushes -/

/-- The deletion of a case. -/
def deletion (c : String) : Exchange := ⟨.store (.delete c), .ok ()⟩

/-- A deletion of one of some cases. -/
def Request.DeletesOneOf (numbers : List String) (q : Request) : Prop :=
  ∃ c ∈ numbers, q = .store (.delete c)

theorem asks_deleteAll (count : Nat) (numbers : List String) :
    (deleteAll count numbers).Asks (Request.DeletesOneOf numbers) := by
  induction numbers generalizing count with
  | nil => trivial
  | cons number rest ih =>
    have hone : (store (.delete number)).Asks (Request.DeletesOneOf (number :: rest)) :=
      Attempt.asks_ask (Proc.asks_request ⟨number, List.mem_cons_self, rfl⟩)
    refine Proc.Asks.bind hone fun r => ?_
    cases r with
    | ok a =>
      refine (ih (count + 1)).mono fun q hq => ?_
      obtain ⟨c, hc, rfl⟩ := hq
      exact ⟨c, List.mem_cons_of_mem _ hc, rfl⟩
    | error f => trivial

/-- **What a flush asks for**: deletions of the cases in its queue. -/
theorem asks_flush (w : Watcher) : (flush w).Asks (Request.DeletesOneOf w.queue) := by
  refine (asks_deleteAll 0 w.queue).bind fun r => ?_
  cases r <;> trivial

/-- All that may come of a flush of a watcher that meets the store alone. It deletes the cases of its
queue in order, up to the first failure, and keeps those that are left. -/
inductive Flushed (w : Watcher) (m : Memory) :
    List Exchange → Except Failure Nat × Watcher → Memory → Prop
  | done {count : Nat} : Flushed w m (w.queue.map deletion) (.ok count, { w with queue := [] })
      (w.queue.foldl Memory.delete m)
  | stopped {gone rest : List String} {c : String} {f : StoreFailure}
      (queue : w.queue = gone ++ c :: rest) :
      Flushed w m (gone.map deletion ++ [⟨.store (.delete c), .error f⟩])
        (.error (.store f), { w with queue := c :: rest }) (gone.foldl Memory.delete m)

theorem runs_deleteAll {numbers : List String} {count : Nat} {s t : Scene} {log : List Exchange}
    {r : Except (Failure × List String) Nat} (hrun : Runs (deleteAll count numbers) s log r t) :
    (log = numbers.map deletion ∧ (∃ n, r = .ok n) ∧
        t.store = numbers.foldl Memory.delete s.store) ∨
      ∃ gone c rest f, numbers = gone ++ c :: rest ∧
        log = gone.map deletion ++ [⟨.store (.delete c), .error f⟩] ∧
        r = .error (.store f, c :: rest) ∧ t.store = gone.foldl Memory.delete s.store := by
  induction numbers generalizing count s log with
  | nil =>
    cases hrun with
    | done => exact .inl ⟨rfl, ⟨count, rfl⟩, rfl⟩
  | cons number rest ih =>
    obtain ⟨reply, log, u, rfl, hmeets, hrest⟩ := Runs.of_ask hrun
    cases reply with
    | error f =>
      cases hrest with
      | done => exact .inr ⟨[], number, rest, f, rfl, rfl, rfl, hmeets.error⟩
    | ok a =>
      obtain rfl := hmeets.delete
      rcases ih hrest with ⟨rfl, hr, hstore⟩ | ⟨gone, c, left, f, rfl, rfl, hr, hstore⟩
      · exact .inl ⟨rfl, hr, hstore⟩
      · exact .inr ⟨number :: gone, c, left, f, rfl, rfl, hr, hstore⟩

/-- **What a flush does**, whatever the replies it gets. -/
theorem Runs.flushed {w : Watcher} {s t : Scene} {log : List Exchange}
    {r : Except Failure Nat × Watcher} (hrun : Runs (flush w) s log r t) :
    Flushed w s.store log r t.store := by
  obtain ⟨front, back, outcome, u, rfl, hdelete, hrest⟩ := Runs.bind hrun
  rcases runs_deleteAll hdelete with ⟨rfl, ⟨n, rfl⟩, hstore⟩ | ⟨gone, c, rest, f, hq, rfl, rfl, hstore⟩
  · cases hrest with
    | done =>
      rw [List.append_nil, hstore]
      exact .done
  · cases hrest with
    | done =>
      rw [List.append_nil, hstore]
      exact .stopped hq

/-- A flush asks for nothing but the deletions of its queue. -/
theorem Flushed.request_eq {w : Watcher} {m t : Memory} {log : List Exchange}
    {r : Except Failure Nat × Watcher} (h : Flushed w m log r t) {x : Exchange} (hx : x ∈ log) :
    ∃ c ∈ w.queue, x.request = .store (.delete c) := by
  cases h with
  | done =>
    obtain ⟨c, hc, rfl⟩ := List.mem_map.1 hx
    exact ⟨c, hc, rfl⟩
  | @stopped gone rest c f queue =>
    rcases List.mem_append.1 hx with hx | hx
    · obtain ⟨d, hd, rfl⟩ := List.mem_map.1 hx
      exact ⟨d, by simp [queue, hd], rfl⟩
    · rw [List.mem_singleton.1 hx]
      exact ⟨c, by simp [queue], rfl⟩

/-- What a flush leaves in the queue was in it. -/
theorem Flushed.queue_subset {w w' : Watcher} {m t : Memory} {log : List Exchange}
    {r : Except Failure Nat} (h : Flushed w m log (r, w') t) : w'.queue ⊆ w.queue := by
  cases h with
  | done => exact List.nil_subset _
  | stopped queue =>
    rw [queue]
    exact List.subset_append_right _ _

/-- A flush in which nothing fails deletes all cases of the queue. -/
theorem Flushed.of_succeeds {w : Watcher} {m t : Memory} {log : List Exchange}
    {r : Except Failure Nat × Watcher} (h : Flushed w m log r t) (hok : ∀ x ∈ log, x.succeeds) :
    (∃ count, r = (.ok count, { w with queue := [] })) ∧
      t = w.queue.foldl Memory.delete m ∧ log.filterMap Exchange.event? = [] := by
  cases h with
  | done => exact ⟨⟨_, rfl⟩, rfl, List.filterMap_eq_nil_iff.2 fun x hx => by
      obtain ⟨c, -, rfl⟩ := List.mem_map.1 hx; rfl⟩
  | stopped =>
    exact (Exchange.not_succeeds_error (hok _ (List.mem_append_right _ List.mem_cons_self))).elim

end CaseHerald.Watch
