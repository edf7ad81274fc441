import CaseHerald.Proofs.Deeds

/-!
# What carrying out a plan does

Any plan is carried out here, also one that names a case repeatedly, on any store. A run without
failures of the store goes through the course of the plan's jobs, and one with a failure through a
front part of it; what becomes of the announcements makes no difference.

## Main definitions

* `Watch.Carries` : a program goes through the course of some jobs, up to the first failure.
* `Watch.CarriedOut` : the specification of carrying out a plan.

## Main results

* `Watch.carries_perform`, `Watch.carries_carryOut` : a task and a plan go through their courses.
* `Watch.exists_carryOut` : there is a run without failures.
* `Watch.carriedOut` : the specification holds of every plan on every store.
-/
namespace CaseHerald.Watch

open Store (Memory Query)

/-! ## Runs of tasks -/

/-- What a run of some jobs comes to, where `out` is the report from its exchanges. -/
inductive Comes (s : Scene) (jobs : List Job) (out : List Exchange → Report) :
    List Exchange → Except Failure Report → Scene → Prop
  | done {log : List Exchange} {t : Scene} (done : Done s jobs log t) :
      Comes s jobs out log (.ok (out log)) t
  | halted {front : List Exchange} {q : Query} {t : Scene} (halted : Halted s jobs front q t)
      (f : StoreFailure) :
      Comes s jobs out (front ++ [⟨.store q, .error f⟩]) (.error (.store f)) t

/-- Every run of the program does the jobs in order, up to the first failure. -/
def Carries (p : Step Report) (s : Scene) (jobs : List Job) (out : List Exchange → Report) : Prop :=
  ∀ log r t, Runs p.run s log r t → Comes s jobs out log r t

theorem Carries.bind {p : Step Report} {f : Report → Step Report} {s : Scene} {jobs more : List Job}
    {out out' : List Exchange → Report} {next : Report → List Exchange → Report}
    (hp : Carries p s jobs out) (hf : ∀ report t, Carries (f report) t more (next report))
    (hout : ∀ log log', (given log).length = jobs.length →
      next (out log) log' = out' (log ++ log')) :
    Carries (p >>= f) s (jobs ++ more) out' := by
  intro log r u hrun
  rcases Runs.of_bind hrun with ⟨e, hfailed, rfl⟩ | ⟨front, back, report, t, rfl, hfront, hback⟩
  · cases hp _ _ _ hfailed with
    | halted halted f => exact .halted (halted.append more) f
  · cases hp _ _ _ hfront with
    | done done =>
      cases hf _ t _ _ _ hback with
      | done done' =>
        rw [hout _ _ done.length_given]
        exact .done (done.append done')
      | halted halted f =>
        rw [← List.append_assoc]
        exact .halted (done.halted halted) f

/-- The report after some tasks. -/
def Report.after (report : Report) (tasks : List Task) (log : List Exchange) : Report where
  events := report.events ++ log.filterMap Exchange.event?
  created := report.created ++ tasks.flatMap (·.created)
  deletions := report.deletions ++ tasks.flatMap (·.deletions)
  writes := report.writes ++ List.zipWith Task.op tasks (given log)

theorem Report.after_after {report : Report} {tasks more : List Task} {log log' : List Exchange}
    (h : (given log).length = tasks.length) :
    (report.after tasks log).after more log' = report.after (tasks ++ more) (log ++ log') := by
  simp only [Report.after, List.filterMap_append, List.flatMap_append, given_append,
    List.zipWith_append h.symm, List.append_assoc]

/-- Announcements are sent one after the other, whatever becomes of them. -/
theorem Runs.of_emitAll {events : List Event} {report : Report} {s u : Scene} {log : List Exchange}
    {r : Except Failure Report} (h : Runs (events.foldlM emit report).run s log r u) :
    r = .ok { report with events := report.events ++ events } ∧ u = s ∧
      log.map Exchange.deed? = (events.map Deed.announce).map some := by
  induction events generalizing report log with
  | nil =>
    cases h with
    | done => exact ⟨by simp, rfl, rfl⟩
  | cons e events ih =>
    simp only [List.foldlM_cons, emit, bind_assoc, pure_bind] at h
    obtain ⟨reply, rest, rfl, hrest⟩ := Runs.of_announce h
    obtain ⟨rfl, rfl, hdeeds⟩ := ih hrest
    exact ⟨by simp [Report.addEvent], rfl, by simp [Exchange.deed?, hdeeds]⟩

/-- After the write of a job, its announcements are made if the version has had no marker before. -/
theorem Runs.of_tell {report : Report} {j : Job} {g : Guid} {s u : Scene} {log : List Exchange}
    {r : Except Failure Report} (fresh : s.Fresh g)
    (h : Runs (tell report j g).run ⟨s.store.write g j.record, g :: s.minted⟩ log r u) :
    (∃ f, log = [⟨.store (.firstWriter j.number j.record.updated), .error f⟩] ∧
        r = .error (.store f) ∧ u.store = s.store.write g j.record ∧ j.events ≠ []) ∨
      (r = .ok { report with events := report.events ++ told s.store j } ∧
        u = ⟨s.store.write g j.record, g :: s.minted⟩ ∧
        some (.write j.record g) :: log.map Exchange.deed? = (deeds s.store j g).map some) := by
  by_cases hloud : j.events = []
  · simp only [tell, hloud, List.isEmpty_nil, if_true] at h
    cases h with
    | done =>
      rw [told_of_silent hloud, List.append_nil, deeds, if_pos hloud]
      exact .inr ⟨rfl, rfl, rfl⟩
  · simp only [tell, List.isEmpty_iff, hloud, if_false] at h
    rcases Runs.of_isFirstWriter h with ⟨f, rfl, rfl, hstore⟩ | ⟨mine, m, rest, hmine, rfl, hrest⟩
    · exact .inl ⟨f, rfl, rfl, hstore, hloud⟩
    · rw [told_eq fresh hmine, deeds, if_neg hloud, told_eq fresh hmine]
      cases mine with
      | true =>
        obtain ⟨rfl, rfl, hdeeds⟩ := Runs.of_emitAll hrest
        exact .inr ⟨rfl, rfl, by simp [Exchange.deed?, hdeeds]⟩
      | false =>
        cases hrest with
        | done => exact .inr ⟨by simp, rfl, by simp [Exchange.deed?]⟩

/-- One job is done if the exchanges after its write are the rest of its deeds. -/
theorem Done.single {s : Scene} {j : Job} {g : Guid} {log : List Exchange} (fresh : s.Fresh g)
    (h : some (.write j.record g) :: log.map Exchange.deed? = (deeds s.store j g).map some) :
    Done s [j] (⟨.store (.write j.record), .ok g⟩ :: log)
      ⟨s.store.write g j.record, g :: s.minted⟩ := by
  have hgiven : given (⟨.store (.write j.record), .ok g⟩ :: log) = [g] := given_eq_singleton h
  constructor
  · rw [hgiven]
    rfl
  · rw [hgiven, List.zip_cons_cons, List.zip_nil_right, course_cons, course_nil, List.append_nil]
    exact h
  · rw [hgiven]
    rfl
  · rw [hgiven]
    rfl
  · rw [hgiven]
    exact ⟨List.nodup_singleton g, by simpa using fresh.notMinted⟩

/-- **A task goes through the course of its job.** -/
theorem carries_perform (report : Report) (k : Task) (s : Scene) :
    Carries (perform report k) s [k.job] (report.after [k]) := by
  intro log r u hrun
  rcases Runs.of_store hrun with ⟨f, rfl, rfl, hstore⟩ | ⟨(g : Guid), rest, t, rfl, hmeets, hrest⟩
  · -- the write has failed: nothing is done
    have hhalted : Halted s [k.job] [] (.write k.job.record) u := by
      refine ⟨Nat.zero_le _, fun later hlater => ?_⟩
      obtain ⟨g, rfl⟩ := List.length_eq_one_iff.1 hlater
      exact ⟨[], .write k.job.record g, _, rfl, rfl, rfl, hstore⟩
    exact .halted hhalted f
  · obtain ⟨hfresh, rfl⟩ := hmeets.write
    rcases Runs.of_bind hrest with ⟨e, hfailed, rfl⟩ | ⟨front, back, report', t, rfl, hfront, hback⟩
    · rcases Runs.of_tell hfresh hfailed with ⟨f, rfl, he, hstore, hloud⟩ | ⟨h, -⟩
      · -- the write stays, and nothing is announced
        cases he
        have hhalted : Halted s [k.job] [⟨.store (.write k.job.record), .ok g⟩]
            (.firstWriter k.job.number k.job.record.updated) u := by
          refine ⟨Nat.le_refl _, fun later hlater => ?_⟩
          obtain rfl : later = [] := by simpa using hlater
          refine ⟨[.write k.job.record g], .ask k.job.number k.job.record.updated,
            (told s.store k.job).map .announce, ?_, rfl, rfl, hstore⟩
          simp [deeds, hloud]
        exact .halted hhalted f
      · cases h
    · rcases Runs.of_tell hfresh hfront with ⟨f, -, h, -⟩ | ⟨h, rfl, hdeeds⟩
      · cases h
      · cases h
        cases hback with
        | done =>
          have hdone := Done.single hfresh hdeeds
          have hgiven : given (⟨.store (.write k.job.record), .ok g⟩ :: front) = [g] :=
            given_eq_singleton hdeeds
          have hevents : (⟨.store (.write k.job.record), .ok g⟩ :: front).filterMap
              Exchange.event? = told s.store k.job := events_eq_told hdeeds
          have hreport : k.finish { report.addWrite (k.op g) with
              events := (report.addWrite (k.op g)).events ++ told s.store k.job } =
              report.after [k] (⟨.store (.write k.job.record), .ok g⟩ :: front) := by
            rw [Report.after, hevents, hgiven]
            simp [Task.finish, Report.addWrite]
          rw [List.append_nil, hreport]
          exact .done hdone

/-- Tasks go through the course of their jobs. -/
theorem carries_foldlM (tasks : List Task) (report : Report) (s : Scene) :
    Carries (tasks.foldlM perform report) s (tasks.map Task.job) (report.after tasks) := by
  induction tasks generalizing report s with
  | nil =>
    intro log r t hrun
    cases hrun with
    | done =>
      have hreport : report = report.after [] [] := by simp [Report.after]
      have hcomes : Comes s [] (report.after []) [] (.ok (report.after [] [])) s := .done .nil
      rwa [← hreport] at hcomes
  | cons k tasks ih =>
    refine (carries_perform report k s).bind (fun report' t => ih report' t) ?_
    intro log log' hlength
    exact Report.after_after hlength

/-! ## Plans -/

/-- The tasks of a plan, in order. -/
def tasks (p : Plan) : List Task :=
  p.closures.map .closing ++ (p.updates.map .updating ++ p.creations.map .creating)

theorem map_job_tasks (p : Plan) : (tasks p).map Task.job = p.jobs := by
  simp only [tasks, Plan.jobs, List.map_append, List.map_map, List.append_assoc]
  rfl

/-- Carrying out a plan is doing its tasks, with the sweeps noted after the closures. -/
theorem carryOut_eq (p : Plan) :
    carryOut p = (p.closures.map Task.closing).foldlM perform Report.empty >>= fun report =>
      (p.updates.map Task.updating ++ p.creations.map Task.creating).foldlM perform
        (report.addDeletions p.sweeps) := by
  simp only [carryOut, List.foldlM_append, List.foldlM_map, ← close_eq, ← update_eq, ← create_eq]

/-- The report on a plan that has been carried out, from the exchanges. -/
def Report.ofPlan (p : Plan) (log : List Exchange) : Report where
  events := log.filterMap Exchange.event?
  created := p.creations
  deletions := p.closures.map Snapshot.number ++ p.sweeps
  writes := List.zipWith Task.op (tasks p) (given log)

/-- **A plan goes through the course of its jobs.** -/
theorem carries_carryOut (p : Plan) (s : Scene) :
    Carries (carryOut p) s p.jobs (Report.ofPlan p) := by
  have hjobs : p.jobs = (p.closures.map Task.closing).map Task.job ++
      (p.updates.map Task.updating ++ p.creations.map Task.creating).map Task.job := by
    rw [← map_job_tasks, tasks, List.map_append]
  rw [carryOut_eq, hjobs]
  refine (carries_foldlM _ _ _).bind (fun report t => carries_foldlM _ _ _) ?_
  intro log log' hlength
  have hwrites : List.zipWith Task.op (tasks p) (given (log ++ log')) =
      List.zipWith Task.op (p.closures.map Task.closing) (given log) ++
        List.zipWith Task.op (p.updates.map Task.updating ++ p.creations.map Task.creating)
          (given log') := by
    rw [tasks, given_append]
    refine List.zipWith_append ?_
    simpa using hlength.symm
  have hnil {γ δ : Type} (l : List γ) : l.flatMap (fun _ => ([] : List δ)) = [] :=
    List.flatMap_eq_nil_iff.2 fun _ _ => rfl
  have hnumbers : p.closures.flatMap (fun s => [s.number]) = p.closures.map Snapshot.number :=
    List.map_eq_flatMap.symm
  rw [Report.ofPlan, hwrites]
  simp [Report.after, Report.addDeletions, Report.empty, Task.closing, Task.updating, Task.creating,
    List.flatMap_map, hnil, hnumbers]

/-! ## Runs without failures

What is said of all runs says something only if there are some. For any new tokens, and whatever
becomes of the announcements, a plan can be carried out to its end. -/

/-- Whether every announcement gets this reply. -/
def Delivers (deliver : Event → Except NotifyFailure Unit) (log : List Exchange) : Prop :=
  ∀ e reply, (⟨.announce e, reply⟩ : Exchange) ∈ log → reply = deliver e

/-- The scene after the writes of some jobs. -/
def Scene.after (s : Scene) (work : List (Job × Guid)) : Scene :=
  ⟨writeAll s.store work, (work.map Prod.snd).reverse ++ s.minted⟩

/-- Whether the store may be written with these tokens. -/
structure Scene.Ready (s : Scene) (work : List (Job × Guid)) : Prop where
  writable : s.store.writable = true
  nodup : (work.map Prod.snd).Nodup
  fresh : ∀ w ∈ work, s.Fresh w.2

section Possible

variable {s : Scene} {work more : List (Job × Guid)} {j : Job} {g : Guid}
  {deliver : Event → Except NotifyFailure Unit}

theorem Scene.after_cons : s.after ((j, g) :: work) =
    (⟨s.store.write g j.record, g :: s.minted⟩ : Scene).after work := by
  simp [Scene.after, writeAll]

theorem Scene.after_append : s.after (work ++ more) = (s.after work).after more := by
  simp [Scene.after, writeAll_append]

theorem Scene.Fresh.write {h : Guid} (fresh : s.Fresh h) (hne : h ≠ g) (r : CaseRecord) :
    (⟨s.store.write g r, g :: s.minted⟩ : Scene).Fresh h := by
  constructor
  · simp [hne, fresh.notMinted]
  · intro c a ha
    rw [Memory.snapshot?_write] at ha
    split at ha
    · cases ha
      exact hne.symm
    · exact fresh.notKept c a ha
  · intro c t m hm
    rw [Memory.marker?_write] at hm
    split at hm
    · cases hm
      cases hold : s.store.marker? c t with
      | none => exact hne.symm
      | some m => exact fresh.notMarked c t m hold
    · exact fresh.notMarked c t m hm

theorem Scene.Ready.tail (h : s.Ready ((j, g) :: work)) :
    (⟨s.store.write g j.record, g :: s.minted⟩ : Scene).Ready work := by
  obtain ⟨hg, hnodup⟩ := List.nodup_cons.1 h.nodup
  refine ⟨h.writable, hnodup, fun w hw => ?_⟩
  have hne : w.2 ≠ g := fun heq => hg (heq ▸ List.mem_map.2 ⟨w, hw, rfl⟩)
  exact (h.fresh w (List.mem_cons_of_mem _ hw)).write hne j.record

theorem Scene.Ready.right (h : s.Ready (work ++ more)) : (s.after work).Ready more := by
  induction work generalizing s with
  | nil => exact h
  | cons w work ih =>
    rw [Scene.after_cons]
    exact ih h.tail

theorem Scene.Ready.left (h : s.Ready (work ++ more)) : s.Ready work := by
  refine ⟨h.writable, ?_, fun w hw => h.fresh w (List.mem_append_left more hw)⟩
  have hnodup := h.nodup
  rw [List.map_append] at hnodup
  exact hnodup.of_append_left

theorem Delivers.append {log log' : List Exchange} (h : Delivers deliver log)
    (h' : Delivers deliver log') : Delivers deliver (log ++ log') := by
  intro e reply hmem
  rcases List.mem_append.1 hmem with hmem | hmem
  · exact h e reply hmem
  · exact h' e reply hmem

theorem delivers_store {q : Query} {reply : Except StoreFailure q.Answer} :
    Delivers deliver [⟨.store q, reply⟩] := by
  intro e r hmem
  cases List.mem_singleton.1 hmem

theorem exists_emitAll (deliver : Event → Except NotifyFailure Unit) (events : List Event)
    (report : Report) (s : Scene) :
    ∃ log report', Runs (events.foldlM emit report).run s log (.ok report') s ∧
      Delivers deliver log := by
  induction events generalizing report with
  | nil => exact ⟨[], report, .done, by simp [Delivers]⟩
  | cons e events ih =>
    obtain ⟨log, report', hruns, hlog⟩ := ih (report.addEvent e)
    refine ⟨[⟨.announce e, deliver e⟩] ++ log, report', ?_, Delivers.append ?_ hlog⟩
    · simp only [List.foldlM_cons, emit, bind_assoc, pure_bind]
      exact Runs.announce (deliver e) hruns
    · intro e' reply hmem
      cases List.mem_singleton.1 hmem
      rfl

theorem exists_isFirstWriter (c : String) (u : Instant) (g : Guid) (s : Scene) :
    ∃ reply mine,
      Runs (isFirstWriter c u g).run s [⟨.store (.firstWriter c u), reply⟩] (.ok mine) s := by
  have hmeets : Meets s ⟨.store (.firstWriter c u), .ok (s.store.marker? c u)⟩ s :=
    .step g (by simp [tokens]) rfl
  cases hm : s.store.marker? c u with
  | none =>
    rw [hm] at hmeets
    exact ⟨_, false, .ask hmeets .done⟩
  | some m =>
    rw [hm] at hmeets
    exact ⟨_, decide (m.guid = g), .ask hmeets .done⟩

theorem exists_tell (deliver : Event → Except NotifyFailure Unit) (report : Report) (j : Job)
    (g : Guid) (s : Scene) :
    ∃ log report', Runs (tell report j g).run s log (.ok report') s ∧ Delivers deliver log := by
  by_cases hsilent : j.events = []
  · simp only [tell, hsilent, List.isEmpty_nil, if_true]
    exact ⟨[], report, .done, by simp [Delivers]⟩
  · obtain ⟨reply, mine, hasked⟩ := exists_isFirstWriter j.number j.record.updated g s
    obtain ⟨log, report', hruns, hlog⟩ : ∃ log report',
        Runs (if mine then j.events.foldlM emit report else pure report : Step Report).run s log
          (.ok report') s ∧ Delivers deliver log := by
      cases mine with
      | true => exact exists_emitAll deliver j.events report s
      | false => exact ⟨[], report, .done, by simp [Delivers]⟩
    simp only [tell, List.isEmpty_iff, hsilent, if_false]
    exact ⟨_, report', hasked.trans_ok hruns, delivers_store.append hlog⟩

theorem exists_perform (deliver : Event → Except NotifyFailure Unit) (report : Report) (k : Task)
    (hw : s.store.writable = true) (fresh : s.Fresh g) :
    ∃ log report', Runs (perform report k).run s log (.ok report')
      ⟨s.store.write g k.job.record, g :: s.minted⟩ ∧ Delivers deliver log := by
  obtain ⟨log, report', hruns, hlog⟩ := exists_tell deliver (report.addWrite (k.op g)) k.job g
    ⟨s.store.write g k.job.record, g :: s.minted⟩
  have hmeets : Meets s ⟨.store (.write k.job.record), .ok g⟩
      ⟨s.store.write g k.job.record, g :: s.minted⟩ :=
    .step g (by simpa [tokens] using fresh) (by simp [Memory.answer, hw])
  refine ⟨_, k.finish report', Runs.store hmeets (hruns.trans_ok .done), ?_⟩
  rw [List.append_nil]
  exact delivers_store.append hlog

theorem exists_foldlM (deliver : Event → Except NotifyFailure Unit) (tasks : List Task)
    (report : Report) (hwork : work.map Prod.fst = tasks.map Task.job) (ready : s.Ready work) :
    ∃ log report', Runs (tasks.foldlM perform report).run s log (.ok report') (s.after work) ∧
      Delivers deliver log := by
  induction tasks generalizing s work report with
  | nil =>
    obtain rfl : work = [] := by simpa using hwork
    exact ⟨[], report, .done, by simp [Delivers]⟩
  | cons k tasks ih =>
    obtain ⟨⟨j, g⟩, work, rfl, rfl, hrest⟩ := List.map_eq_cons_iff.1 hwork
    obtain ⟨log, report', hruns, hlog⟩ := exists_perform deliver report k ready.writable
      (ready.fresh _ List.mem_cons_self)
    obtain ⟨log', report'', hruns', hlog'⟩ := ih report' hrest ready.tail
    rw [Scene.after_cons, List.foldlM_cons]
    exact ⟨_, report'', hruns.trans_ok hruns', hlog.append hlog'⟩

theorem exists_carryOut (deliver : Event → Except NotifyFailure Unit) (p : Plan)
    (hwork : work.map Prod.fst = p.jobs) (ready : s.Ready work) :
    ∃ log report, Runs (carryOut p).run s log (.ok report) (s.after work) ∧
      Delivers deliver log := by
  rw [← map_job_tasks, tasks, List.map_append] at hwork
  obtain ⟨early, late, rfl, hearly, hlate⟩ := List.map_eq_append_iff.1 hwork
  obtain ⟨log, report, hruns, hlog⟩ := exists_foldlM deliver _ Report.empty hearly ready.left
  obtain ⟨log', report', hruns', hlog'⟩ :=
    exists_foldlM deliver _ (report.addDeletions p.sweeps) hlate ready.right
  rw [Scene.after_append, carryOut_eq]
  exact ⟨_, report', hruns.trans_ok hruns', hlog.append hlog'⟩

end Possible

/-! ## The specification -/

/-- What a run without failures comes to. -/
structure Whole (p : Plan) (s : Scene) (log : List Exchange) (report : Report) (t : Scene) :
    Prop where
  /-- closures, updates and creations are written in this order, and each is announced just if the
  store has held no marker of the version before -/
  done : Done s p.jobs log t
  /-- the report has what has been sent, and every write with its token -/
  report_eq : report = Report.ofPlan p log
  few : report.events.length ≤ p.mostEvents
  /-- the token of a write is stored now, or the case has been written again -/
  current : ∀ front j g back, p.jobs.zip (given log) = front ++ (j, g) :: back →
    t.store.snapshot? j.number = some ⟨j.record, g⟩ ∨ ∃ w ∈ back, w.1.number = j.number

/-- The specification of carrying out a plan, which may name a case repeatedly, on any store. -/
structure CarriedOut (p : Plan) (s : Scene) : Prop where
  whole : ∀ log report t, Runs (carryOut p).run s log (.ok report) t → Whole p s log report t
  /-- a failure of the store ends the work, and leaves what has been done by then -/
  halted : ∀ log e t, Runs (carryOut p).run s log (.error e) t → ∃ front q f,
    log = front ++ [⟨.store q, .error f⟩] ∧ e = .store f ∧ Halted s p.jobs front q t
  /-- there is a run without failures for any new tokens, whatever becomes of the announcements -/
  possible : ∀ (deliver : Event → Except NotifyFailure Unit) (guids : List Guid),
    guids.length = p.jobs.length → s.Ready (p.jobs.zip guids) →
      ∃ log report t, Runs (carryOut p).run s log (.ok report) t ∧ given log = guids ∧
        Delivers deliver log

theorem snapshot?_writeAll_of_notMem {work : List (Job × Guid)} {c : String}
    (h : ∀ w ∈ work, w.1.number ≠ c) (m : Memory) :
    (writeAll m work).snapshot? c = m.snapshot? c := by
  induction work generalizing m with
  | nil => rfl
  | cons w work ih =>
    obtain ⟨hw, hwork⟩ := List.forall_mem_cons.1 h
    have hne : ¬w.1.record.number = c := hw
    calc
      (writeAll m (w :: work)).snapshot? c = (m.write w.2 w.1.record).snapshot? c := ih hwork _
      _ = m.snapshot? c := by rw [Memory.snapshot?_write, if_neg hne]

/-- The last write of a case is the one that is stored. -/
theorem snapshot?_writeAll (m : Memory) (front back : List (Job × Guid)) (j : Job) (g : Guid) :
    (writeAll m (front ++ (j, g) :: back)).snapshot? j.number = some ⟨j.record, g⟩ ∨
      ∃ w ∈ back, w.1.number = j.number := by
  by_cases hback : ∃ w ∈ back, w.1.number = j.number
  · exact .inr hback
  · left
    have hother : ∀ w ∈ back, w.1.number ≠ j.number := fun w hw heq => hback ⟨w, hw, heq⟩
    calc
      (writeAll m (front ++ (j, g) :: back)).snapshot? j.number =
          (writeAll ((writeAll m front).write g j.record) back).snapshot? j.number := by
        rw [writeAll_append]
        rfl
      _ = ((writeAll m front).write g j.record).snapshot? j.number :=
        snapshot?_writeAll_of_notMem hother _
      _ = some ⟨j.record, g⟩ := (Memory.snapshot?_write _ _ _ _).trans (if_pos rfl)

theorem Done.length_events_le {s t : Scene} {p : Plan} {log : List Exchange}
    (h : Done s p.jobs log t) : (log.filterMap Exchange.event?).length ≤ p.mostEvents := by
  have hle := length_events_course_le s.store (p.jobs.zip (given log))
  have hall : (p.jobs.zip (given log)).flatMap (fun w => w.1.events) = p.events := by
    have hjobs : (p.jobs.zip (given log)).map Prod.fst = p.jobs :=
      List.map_fst_zip (Nat.le_of_eq h.length_given.symm)
    rw [Plan.events, ← hjobs, List.flatMap_map, hjobs]
  rw [events_eq h.deeds_eq, ← p.length_events, ← hall]
  exact hle

/-- **Carrying out a plan** does what its course says, all of it or up to the first failure of the
store. -/
theorem carriedOut (p : Plan) (s : Scene) : CarriedOut p s := by
  constructor
  · intro log report t hruns
    cases carries_carryOut p s _ _ _ hruns with
    | done done =>
      refine ⟨done, rfl, done.length_events_le, ?_⟩
      intro front j g back hsplit
      rw [done.store_eq, hsplit]
      exact snapshot?_writeAll _ _ _ _ _
  · intro log e t hruns
    cases carries_carryOut p s _ _ _ hruns with
    | halted halted f => exact ⟨_, _, f, rfl, rfl, halted⟩
  · intro deliver guids hlength ready
    have hjobs : (p.jobs.zip guids).map Prod.fst = p.jobs :=
      List.map_fst_zip (Nat.le_of_eq hlength.symm)
    obtain ⟨log, report, hruns, hlog⟩ := exists_carryOut deliver p hjobs ready
    refine ⟨log, report, _, hruns, ?_, hlog⟩
    have hminted : (given log).reverse ++ s.minted =
        ((p.jobs.zip guids).map Prod.snd).reverse ++ s.minted := by
      cases carries_carryOut p s _ _ _ hruns with
      | done done => exact done.minted_eq.symm
    rw [List.map_snd_zip (Nat.le_of_eq hlength)] at hminted
    exact List.reverse_injective (List.append_cancel_right hminted)

end CaseHerald.Watch
