import CaseHerald.Proofs.Perform

/-!
# The deeds of a plan

A `Deed` is one exchange with the store or with those announced to, without what makes no difference
in it, and `course` lists the deeds of some jobs: a job is announced just if the store holds no
marker of its version by then, and the jobs before it may have left one. Nothing here needs the jobs
to be about different cases.

## Main definitions

* `Watch.perform` : closures, updates and creations as one program, with a `Task` as its parameter.
* `Watch.Deed`, `Watch.course` : the deeds of some jobs.
* `Watch.Done`, `Watch.Halted` : exchanges that are all of the course, or a front part of it.

## Main results

* `Watch.close_eq`, `Watch.update_eq`, `Watch.create_eq` : the programs are the one of tasks.
* `Watch.Done.append`, `Watch.Done.halted` : courses follow one another.
-/
namespace CaseHerald.Watch

open Store (Memory Query)

variable {α β : Type}

/-! ## Runs of steps -/

namespace Runs

variable {s t u : Scene} {log : List Exchange}

theorem of_store {q : Query} {f : q.Answer → Step α} {r : Except Failure α}
    (h : Runs (store q >>= f).run s log r u) :
    (∃ e, log = [⟨.store q, .error e⟩] ∧ r = .error (.store e) ∧ u.store = s.store) ∨
      ∃ a rest t, log = ⟨.store q, .ok a⟩ :: rest ∧ Meets s ⟨.store q, .ok a⟩ t ∧
        Runs (f a).run t rest r u := by
  obtain ⟨reply, rest, t, rfl, hmeets, hrest⟩ := Runs.of_ask h
  cases reply with
  | error e =>
    cases hrest with
    | done => exact .inl ⟨e, rfl, rfl, hmeets.error⟩
  | ok a => exact .inr ⟨a, rest, t, rfl, hmeets, hrest⟩

theorem of_announce {e : Event} {f : Unit → Step α} {r : Except Failure α}
    (h : Runs (announce e >>= f).run s log r u) :
    ∃ reply rest, log = ⟨.announce e, reply⟩ :: rest ∧ Runs (f ()).run s rest r u := by
  obtain ⟨reply, rest, t, rfl, hmeets, hrest⟩ := Runs.of_ask h
  obtain rfl := hmeets.same fun _ h => by cases h
  exact ⟨reply, rest, rfl, hrest⟩

theorem of_isFirstWriter {c : String} {updated : Instant} {g : Guid} {f : Bool → Step α}
    {r : Except Failure α} (h : Runs (isFirstWriter c updated g >>= f).run s log r u) :
    (∃ e, log = [⟨.store (.firstWriter c updated), .error e⟩] ∧ r = .error (.store e) ∧
        u.store = s.store) ∨
      ∃ (mine : Bool) (m : Option Marker) (rest : List Exchange),
        (mine = true ↔ (s.store.marker? c updated).map (·.guid) = some g) ∧
        log = ⟨.store (.firstWriter c updated), .ok m⟩ :: rest ∧ Runs (f mine).run s rest r u := by
  simp only [isFirstWriter, bind_assoc] at h
  rcases of_store h with ⟨e, rfl, rfl, hstore⟩ | ⟨m, rest, t, rfl, hmeets, hrest⟩
  · exact .inl ⟨e, rfl, rfl, hstore⟩
  · right
    obtain ⟨rfl, rfl⟩ := hmeets.firstWriter
    cases hm : t.store.marker? c updated with
    | none =>
      rw [hm] at hrest
      exact ⟨false, none, rest, by simp, rfl, hrest⟩
    | some m =>
      rw [hm] at hrest
      exact ⟨decide (m.guid = g), some m, rest, by simp, rfl, hrest⟩

theorem of_bind {p : Step α} {f : α → Step β} {r : Except Failure β}
    (h : Runs (p >>= f).run s log r u) :
    (∃ e, Runs p.run s log (.error e) u ∧ r = .error e) ∨
      ∃ front back a t, log = front ++ back ∧ Runs p.run s front (.ok a) t ∧
        Runs (f a).run t back r u := by
  obtain ⟨front, back, outcome, t, rfl, hfront, hback⟩ := Runs.bind h
  cases outcome with
  | error e =>
    cases hback with
    | done =>
      rw [List.append_nil]
      exact .inl ⟨e, hfront, rfl⟩
  | ok a => exact .inr ⟨front, back, a, t, rfl, hfront, hback⟩

theorem store {q : Query} {a : q.Answer} {f : q.Answer → Step α} {r : Except Failure α}
    (hmeets : Meets s ⟨.store q, .ok a⟩ t) (h : Runs (f a).run t log r u) :
    Runs (Watch.store q >>= f).run s (⟨.store q, .ok a⟩ :: log) r u := .ask hmeets h

theorem announce {e : Event} (reply : (Request.announce e).Reply) {f : Unit → Step α}
    {r : Except Failure α} (h : Runs (f ()).run s log r u) :
    Runs (Watch.announce e >>= f).run s (⟨.announce e, reply⟩ :: log) r u :=
  .ask (.other fun _ h => by cases h) h

theorem trans {p : Proc interface α} {f : α → Proc interface β} {front back : List Exchange}
    {a : α} {b : β} (h : Runs p s front a t) (h' : Runs (f a) t back b u) :
    Runs (p >>= f) s (front ++ back) b u := by
  induction h with
  | done => exact h'
  | ask meets _ ih => exact .ask meets (ih h')

theorem trans_ok {p : Step α} {f : α → Step β} {front back : List Exchange} {a : α}
    {r : Except Failure β} (h : Runs p.run s front (.ok a) t) (h' : Runs (f a).run t back r u) :
    Runs (p >>= f).run s (front ++ back) r u := trans h h'

end Runs

/-! ## Tasks

Closures, updates and creations differ in their job and in what is reported of it. With these as
parameters one program does them all, and what it does is shown once. -/

/-- A job with what is reported of it. -/
structure Task where
  job : Job
  /-- how the write is reported -/
  op : Guid → StoreOp
  created : List CaseRecord
  deletions : List String

namespace Task

/-- The closure of a case, which is then to be deleted. -/
def closing (s : Snapshot) : Task := ⟨.closing s, .markClosed s.number, [], [s.number]⟩

/-- The update of a case. -/
def updating (u : PlannedUpdate) : Task := ⟨.updating u, .write u.current.number, [], []⟩

/-- The creation of a case. -/
def creating (r : CaseRecord) : Task := ⟨.creating r, .write r.number, [r], []⟩

/-- The report with what the task creates and deletes. -/
def finish (k : Task) (report : Report) : Report :=
  ⟨report.events, report.created ++ k.created, report.deletions ++ k.deletions, report.writes⟩

end Task

/-- Makes the announcements of a job if the write with the token was the first of its version. -/
def tell (report : Report) (j : Job) (guid : Guid) : Step Report :=
  if j.events.isEmpty then pure report
  else do
    let mine ← isFirstWriter j.number j.record.updated guid
    if mine then j.events.foldlM emit report else pure report

/-- Does a task: its write, and its announcements. -/
def perform (report : Report) (k : Task) : Step Report := do
  let guid ← store (.write k.job.record)
  let report ← tell (report.addWrite (k.op guid)) k.job guid
  return k.finish report

theorem close_eq (report : Report) (s : Snapshot) :
    close report s = perform report (.closing s) := by
  have hfinish : ∀ report : Report,
      report.addDeletions [s.number] = (Task.closing s).finish report := by
    intro report
    simp [Report.addDeletions, Task.finish, Task.closing]
  have hevents : (Task.closing s).job.events = [.closed s.number] := rfl
  simp only [close, perform, tell, hfinish, hevents, List.isEmpty_cons, Bool.false_eq_true,
    if_false, List.foldlM_cons, List.foldlM_nil, bind_pure, bind_assoc]
  refine bind_congr fun guid => bind_congr fun mine => ?_
  cases mine <;> rfl

theorem update_eq (report : Report) (u : PlannedUpdate) :
    update report u = perform report (.updating u) := by
  have hfinish : ∀ report : Report, (Task.updating u).finish report = report := by
    intro report
    simp [Task.finish, Task.updating]
  simp only [update, perform, tell, hfinish, bind_pure]
  simp [Task.updating, Job.updating, Job.number, List.foldlM_map]

theorem create_eq (report : Report) (r : CaseRecord) :
    create report r = perform report (.creating r) := by
  simp [create, perform, tell, Task.creating, Job.creating, Task.finish, Report.addCreated]

/-! ## Deeds -/

/-- An exchange with the store or with those announced to, without what makes no difference. -/
inductive Deed
  | write (r : CaseRecord) (g : Guid)
  /-- the question whose write of the version was the first -/
  | ask (number : String) (updated : Instant)
  | announce (e : Event)

namespace Deed

/-- The step of the store. -/
def query? : Deed → Option Query
  | .write r _ => some (.write r)
  | .ask number updated => some (.firstWriter number updated)
  | .announce _ => none

/-- The token of a write. -/
def token? : Deed → Option Guid
  | .write _ g => some g
  | _ => none

/-- What is announced. -/
def event? : Deed → Option Event
  | .announce e => some e
  | _ => none

/-- The store after the deed. -/
def apply (m : Memory) : Deed → Memory
  | .write r g => m.write g r
  | _ => m

end Deed

/-- The deed of an exchange that does not fail, whatever becomes of an announcement. -/
def Exchange.deed? : Exchange → Option Deed
  | ⟨.store (.write r), .ok g⟩ => some (.write r g)
  | ⟨.store (.firstWriter number updated), .ok _⟩ => some (.ask number updated)
  | ⟨.announce e, _⟩ => some (.announce e)
  | _ => none

/-- The tokens of the writes, in order. -/
def given (log : List Exchange) : List Guid := log.filterMap fun x => x.written?.map Prod.snd

/-- The deeds of a job with the token of its write: a job with announcements asks for the first
writer, and makes them if the store has held no marker of the version just before the write. -/
def deeds (m : Memory) (j : Job) (g : Guid) : List Deed :=
  .write j.record g ::
    if j.events = [] then []
    else .ask j.number j.record.updated :: (told m j).map .announce

/-- The store after the writes of some jobs. -/
def writeAll (m : Memory) (work : List (Job × Guid)) : Memory :=
  work.foldl (fun m w => m.write w.2 w.1.record) m

/-- The deeds of some jobs, each on the store that those before it have left. -/
def course (m : Memory) : List (Job × Guid) → List Deed
  | [] => []
  | (j, g) :: rest => deeds m j g ++ course (m.write g j.record) rest

@[simp] theorem given_nil : given [] = [] := rfl

@[simp] theorem given_write (r : CaseRecord) (g : Guid) (log : List Exchange) :
    given (⟨.store (.write r), .ok g⟩ :: log) = g :: given log := rfl

@[simp] theorem given_append (log more : List Exchange) :
    given (log ++ more) = given log ++ given more := List.filterMap_append

@[simp] theorem course_nil (m : Memory) : course m [] = [] := rfl

@[simp] theorem course_cons (m : Memory) (j : Job) (g : Guid) (rest : List (Job × Guid)) :
    course m ((j, g) :: rest) = deeds m j g ++ course (m.write g j.record) rest := rfl

theorem course_append (m : Memory) (work more : List (Job × Guid)) :
    course m (work ++ more) = course m work ++ course (writeAll m work) more := by
  induction work generalizing m with
  | nil => rfl
  | cons w rest ih =>
    obtain ⟨j, g⟩ := w
    simp only [List.cons_append, course_cons, ih, List.append_assoc]
    rfl

theorem writeAll_append (m : Memory) (work more : List (Job × Guid)) :
    writeAll m (work ++ more) = writeAll (writeAll m work) more := List.foldl_append

theorem foldl_apply_deeds (m : Memory) (j : Job) (g : Guid) :
    (deeds m j g).foldl Deed.apply m = m.write g j.record := by
  have htold : ∀ es : List Event, ∀ n : Memory,
      (es.map Deed.announce).foldl Deed.apply n = n := by
    intro es n
    induction es with
    | nil => rfl
    | cons e es ih => exact ih
  unfold deeds
  split
  · rfl
  · exact htold _ _

theorem foldl_apply_course (m : Memory) (work : List (Job × Guid)) :
    (course m work).foldl Deed.apply m = writeAll m work := by
  induction work generalizing m with
  | nil => rfl
  | cons w rest ih =>
    obtain ⟨j, g⟩ := w
    rw [course_cons, List.foldl_append, foldl_apply_deeds, ih]
    rfl

theorem length_told_le (m : Memory) (j : Job) : (told m j).length ≤ j.events.length := by
  unfold told
  split <;> simp

/-- What the deeds of a job announce. -/
theorem filterMap_event?_deeds (m : Memory) (j : Job) (g : Guid) :
    (deeds m j g).filterMap Deed.event? = told m j := by
  by_cases hnone : j.events = []
  · simp [deeds, hnone, told_of_silent hnone, Deed.event?]
  · rw [deeds, if_neg hnone, List.filterMap_cons_none rfl, List.filterMap_cons_none rfl,
      List.filterMap_map]
    exact List.filterMap_some

theorem length_events_course_le (m : Memory) (work : List (Job × Guid)) :
    ((course m work).filterMap Deed.event?).length ≤
      (work.flatMap fun w => w.1.events).length := by
  induction work generalizing m with
  | nil => simp
  | cons w rest ih =>
    obtain ⟨j, g⟩ := w
    have hhead := length_told_le m j
    have hrest := ih (m.write g j.record)
    simp only [course_cons, List.filterMap_append, filterMap_event?_deeds, List.length_append,
      List.flatMap_cons]
    omega

theorem filterMap_token?_deeds (m : Memory) (j : Job) (g : Guid) :
    (deeds m j g).filterMap Deed.token? = [g] := by
  by_cases hnone : j.events = []
  · simp [deeds, hnone, Deed.token?]
  · simp [deeds, hnone, Deed.token?]

section Log

variable {log : List Exchange} {ds : List Deed}

/-- What the deeds tell of every exchange they tell of the exchanges. -/
theorem filterMap_deeds {f : Exchange → Option β} {g : Deed → Option β}
    (hfg : ∀ x : Exchange, f x = x.deed?.bind g) (h : log.map Exchange.deed? = ds.map some) :
    log.filterMap f = ds.filterMap g := by
  calc
    log.filterMap f = (log.map Exchange.deed?).filterMap (Option.bind · g) := by
      rw [List.filterMap_map]
      exact List.filterMap_congr fun x _ => hfg x
    _ = (ds.map some).filterMap (Option.bind · g) := by rw [h]
    _ = ds.filterMap g := by
      rw [List.filterMap_map]
      rfl

/-- What is announced is told by the deeds. -/
theorem events_eq (h : log.map Exchange.deed? = ds.map some) :
    log.filterMap Exchange.event? = ds.filterMap Deed.event? := by
  refine filterMap_deeds ?_ h
  rintro ⟨q, reply⟩
  cases q with
  | announce e => rfl
  | store q => cases q <;> cases reply <;> rfl
  | _ => rfl

/-- The tokens are told by the deeds. -/
theorem given_eq (h : log.map Exchange.deed? = ds.map some) :
    given log = ds.filterMap Deed.token? := by
  refine filterMap_deeds ?_ h
  rintro ⟨q, reply⟩
  cases q with
  | store q => cases q <;> cases reply <;> rfl
  | _ => rfl

end Log

theorem given_eq_singleton {m : Memory} {j : Job} {g : Guid} {log : List Exchange}
    (h : log.map Exchange.deed? = (deeds m j g).map some) : given log = [g] :=
  (given_eq h).trans (filterMap_token?_deeds m j g)

theorem events_eq_told {m : Memory} {j : Job} {g : Guid} {log : List Exchange}
    (h : log.map Exchange.deed? = (deeds m j g).map some) :
    log.filterMap Exchange.event? = told m j :=
  (events_eq h).trans (filterMap_event?_deeds m j g)

/-! ## What runs come to -/

/-- The jobs are done: the exchanges are the deeds of their course, with the tokens in the order of
the jobs. -/
structure Done (s : Scene) (jobs : List Job) (log : List Exchange) (t : Scene) : Prop where
  length_given : (given log).length = jobs.length
  deeds_eq : log.map Exchange.deed? = (course s.store (jobs.zip (given log))).map some
  store_eq : t.store = writeAll s.store (jobs.zip (given log))
  minted_eq : t.minted = (given log).reverse ++ s.minted
  /-- no token has been given out before -/
  fresh : (given log).Nodup ∧ ∀ g ∈ given log, g ∉ s.minted

/-- The jobs are cut short at a step of the store: the exchanges before it are a front part of the
course, whichever tokens the writes still to come would be given, and the step is the next of it. -/
structure Halted (s : Scene) (jobs : List Job) (front : List Exchange) (q : Query) (t : Scene) :
    Prop where
  length_given_le : (given front).length ≤ jobs.length
  early : ∀ later : List Guid, (given front ++ later).length = jobs.length →
    ∃ done next rest, course s.store (jobs.zip (given front ++ later)) = done ++ next :: rest ∧
      front.map Exchange.deed? = done.map some ∧ next.query? = some q ∧
      t.store = done.foldl Deed.apply s.store

section Done

variable {s t u : Scene} {jobs more : List Job} {log log' front : List Exchange} {q : Query}

theorem Done.nil : Done s [] [] s := ⟨rfl, rfl, rfl, rfl, .nil, List.forall_mem_nil _⟩

theorem Done.append (h : Done s jobs log t) (h' : Done t more log' u) :
    Done s (jobs ++ more) (log ++ log') u := by
  have hzip : (jobs ++ more).zip (given (log ++ log')) =
      jobs.zip (given log) ++ more.zip (given log') := by
    rw [given_append, List.zip_append h.length_given.symm]
  constructor
  · simp only [given_append, List.length_append, h.length_given, h'.length_given]
  · rw [List.map_append, h.deeds_eq, h'.deeds_eq, h.store_eq, ← List.map_append, ← course_append,
      hzip]
  · rw [h'.store_eq, h.store_eq, ← writeAll_append, hzip]
  · simp only [h'.minted_eq, h.minted_eq, given_append, List.reverse_append, List.append_assoc]
  · have hnotMinted : ∀ g ∈ given log', g ∉ given log ∧ g ∉ s.minted := by
      intro g hg
      have hg' := h'.fresh.2 g hg
      simpa only [h.minted_eq, List.mem_append, List.mem_reverse, not_or] using hg'
    refine ⟨?_, ?_⟩
    · rw [given_append]
      refine List.nodup_append.2 ⟨h.fresh.1, h'.fresh.1, ?_⟩
      rintro g hg _ hg' rfl
      exact (hnotMinted g hg').1 hg
    · intro g hg
      rcases List.mem_append.1 (given_append log log' ▸ hg) with hg | hg
      · exact h.fresh.2 g hg
      · exact (hnotMinted g hg).2

/-- Jobs that are cut short are so whatever would have come after them. -/
theorem Halted.append (h : Halted s jobs front q t) (more : List Job) :
    Halted s (jobs ++ more) front q t := by
  have hle := h.length_given_le
  constructor
  · rw [List.length_append]
    omega
  · intro later hlength
    -- the tokens still to come go to the rest of these jobs first
    obtain ⟨own, others, hown, rfl⟩ : ∃ own others, (given front ++ own).length = jobs.length ∧
        own ++ others = later := by
      refine ⟨later.take (jobs.length - (given front).length), _, ?_, List.take_append_drop _ _⟩
      simp only [List.length_append, List.length_take] at hlength ⊢
      omega
    obtain ⟨done, next, rest, hcourse, hdone⟩ := h.early own hown
    refine ⟨done, next, rest ++ course (writeAll s.store (jobs.zip (given front ++ own)))
      (more.zip others), ?_, hdone⟩
    rw [← List.append_assoc, List.zip_append hown.symm, course_append, hcourse, List.append_assoc,
      List.cons_append]

/-- Jobs that are done come before the one that is cut short. -/
theorem Done.halted (h : Done s jobs log t) (h' : Halted t more front q u) :
    Halted s (jobs ++ more) (log ++ front) q u := by
  constructor
  · have hle := h'.length_given_le
    simp only [given_append, List.length_append, h.length_given]
    omega
  · intro later hlength
    rw [given_append, List.append_assoc] at hlength ⊢
    have hlater : (given front ++ later).length = more.length := by
      simp only [List.length_append, h.length_given] at hlength ⊢
      omega
    obtain ⟨done, next, rest, hcourse, hfront, hquery, hstore⟩ := h'.early later hlater
    refine ⟨course s.store (jobs.zip (given log)) ++ done, next, rest, ?_, ?_, hquery, ?_⟩
    · rw [List.zip_append h.length_given.symm, course_append, ← h.store_eq, hcourse,
        List.append_assoc]
    · rw [List.map_append, h.deeds_eq, hfront, List.map_append]
    · rw [hstore, List.foldl_append, foldl_apply_course, h.store_eq]

end Done

end CaseHerald.Watch
