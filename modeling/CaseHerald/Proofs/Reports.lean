import CaseHerald.Proofs.CarryOut
import CaseHerald.Proofs.Clock
import CaseHerald.Proofs.Logs

/-!
# What a report tells of the exchanges

Whatever the store replies, a plan that is carried out without a failure writes the records of its jobs,
and its report has what has been announced (`performs_carryOut`). Those of the records whose cases have not
been listed are the creations of the plan. A poll on the clock comes to this after it has fetched and
listed (`Timed.of_poll`).
-/
namespace CaseHerald.Watch

open Store (Query)

/-! ## Carrying out a plan -/

/-- The records that are written. -/
def records (log : List Exchange) : List CaseRecord := log.filterMap fun x => x.written?.map Prod.fst

/-- Steps that write the records of some jobs and report what they announce, unless the store fails. -/
inductive Performed (jobs : List Job) (before : List Event) (log : List Exchange) :
    Except Failure Report → Prop
  | whole {report : Report} (events : report.events = before ++ log.filterMap Exchange.event?)
      (records : records log = jobs.map Job.record) : Performed jobs before log (.ok report)
  | cut {f : StoreFailure} : Performed jobs before log (.error (.store f))

/-- Whether the steps, whatever the replies, write the records of the jobs and report what they
announce. -/
def Performs (jobs : List Job) (before : List Event) (p : Step Report) : Prop :=
  p.Tells Exchange.mk (Performed jobs before)

theorem performs_pure (report : Report) : Performs [] report.events (pure report) :=
  .pure (.whole (List.append_nil _).symm rfl)

theorem Performs.bind {jobs more : List Job} {before : List Event} {p : Step Report}
    {f : Report → Step Report} (hp : Performs jobs before p)
    (hf : ∀ report, Performs more report.events (f report)) :
    Performs (jobs ++ more) before (p >>= f) := by
  refine Attempt.Tells.bind hp (fun log report hlog => (hf report).mono fun back r hback => ?_)
    fun log e hlog => ?_
  · cases hlog with
    | whole events written =>
      cases hback with
      | whole events' written' =>
        refine .whole ?_ ?_
        · rw [events', events, List.filterMap_append, List.append_assoc]
        · rw [records, List.filterMap_append, List.map_append]
          exact congrArg₂ _ written written'
      | cut => exact .cut
  · cases hlog with
    | cut => exact .cut

/-- A step of the store and what follows it. -/
theorem tells_store {α : Type} {q : Query} {f : q.Answer → Step α}
    {Q : List Exchange → Except Failure α → Prop}
    (hok : ∀ a, (f a).Tells Exchange.mk fun log r => Q (⟨.store q, .ok a⟩ :: log) r)
    (herror : ∀ e, Q [⟨.store q, .error e⟩] (.error (.store e))) :
    (store q >>= f).Tells Exchange.mk Q := by
  intro reply
  cases reply with
  | ok a => exact hok a
  | error e =>
    intro r hr
    cases hr
    exact herror e

theorem performs_emit (report : Report) (e : Event) : Performs [] report.events (emit report e) := by
  intro reply r hr
  cases hr
  exact .whole rfl rfl

theorem performs_emitAll (events : List Event) (report : Report) :
    Performs [] report.events (events.foldlM emit report) := by
  induction events generalizing report with
  | nil => exact performs_pure report
  | cons e events ih =>
    rw [List.foldlM_cons]
    exact (performs_emit report e).bind ih

theorem performs_tell (report : Report) (j : Job) (guid : Guid) :
    Performs [] report.events (tell report j guid) := by
  unfold tell
  split
  · exact performs_pure report
  · simp only [isFirstWriter, bind_assoc]
    refine tells_store (fun found => ?_) fun e => .cut
    have htold (mine : Bool) : Performs [] report.events
        (if mine then j.events.foldlM emit report else pure report) := by
      cases mine with
      | true => exact performs_emitAll j.events report
      | false => exact performs_pure report
    -- the question is neither an announcement nor a write
    have hasked {log : List Exchange} {r : Except Failure Report}
        (h : Performed [] report.events log r) : Performed [] report.events
          (⟨.store (.firstWriter j.number j.record.updated), .ok found⟩ :: log) r := by
      cases h with
      | whole events written => exact .whole events written
      | cut => exact .cut
    cases found with
    | none => exact (htold false).mono fun log r => hasked
    | some first => exact (htold (decide (first.guid = guid))).mono fun log r => hasked

theorem performs_perform (report : Report) (k : Task) :
    Performs [k.job] report.events (perform report k) := by
  refine tells_store (fun guid => ?_) fun e => .cut
  have hrest : Performs [] report.events
      (tell (report.addWrite (k.op guid)) k.job guid >>= fun report => pure (k.finish report)) :=
    (performs_tell (report.addWrite (k.op guid)) k.job guid).bind fun report =>
      performs_pure (k.finish report)
  refine hrest.mono fun log r hlog => ?_
  cases hlog with
  | whole events written => exact .whole events (congrArg _ written)
  | cut => exact .cut

theorem performs_foldlM (tasks : List Task) (report : Report) :
    Performs (tasks.map Task.job) report.events (tasks.foldlM perform report) := by
  induction tasks generalizing report with
  | nil => exact performs_pure report
  | cons k tasks ih =>
    rw [List.foldlM_cons]
    exact (performs_perform report k).bind ih

/-- **A plan is carried out as it is reported**, whatever the replies, unless the store fails. -/
theorem performs_carryOut (p : Plan) : Performs p.jobs [] (carryOut p) := by
  rw [carryOut_eq, ← map_job_tasks, tasks, List.map_append]
  exact (performs_foldlM _ Report.empty).bind fun report =>
    performs_foldlM _ (report.addDeletions p.sweeps)

/-! ## What a plan creates -/

theorem Plan.records_notMem_listed (previous : List Snapshot) (live : List CaseRecord) :
    ((Plan.of previous live).jobs.map Job.record).filter
      (fun r => decide (r.number ∉ previous.map Snapshot.number)) =
        (Plan.of previous live).creations := by
  have hclosures : ∀ a ∈ (Plan.of previous live).closures, a.number ∈ previous.map Snapshot.number := by
    intro a ha
    have hstored := mem_firstOfEach (List.mem_of_mem_filter (List.mem_of_mem_filter ha))
    exact List.mem_map_of_mem hstored
  have hupdates : ∀ u ∈ (Plan.of previous live).updates,
      u.current.number ∈ previous.map Snapshot.number := by
    intro u hu
    obtain ⟨a, ha, hplanned⟩ := List.mem_filterMap.1 hu
    rw [(Plan.update?_spec hplanned).2]
    exact List.mem_map_of_mem (mem_firstOfEach ha)
  have hcreations : ∀ r ∈ (Plan.of previous live).creations,
      r.number ∉ previous.map Snapshot.number := by
    intro r hr hmem
    obtain ⟨a, ha, hnumber⟩ := List.mem_map.1 hmem
    have hnew := (List.mem_filter.1 (mem_firstOfEach hr)).2
    simp only [Bool.and_eq_true, Bool.not_eq_true', Plan.isStored, List.any_eq_false,
      decide_eq_true_eq] at hnew
    exact hnew.2 a ha hnumber
  have hclosing : (fun r : CaseRecord => decide (r.number ∉ previous.map Snapshot.number)) ∘
      Job.record ∘ Job.closing = fun a => decide (a.number ∉ previous.map Snapshot.number) := rfl
  have hupdating : (fun r : CaseRecord => decide (r.number ∉ previous.map Snapshot.number)) ∘
      Job.record ∘ Job.updating = fun u => decide (u.current.number ∉ previous.map Snapshot.number) :=
    rfl
  have hcreating : Job.record ∘ Job.creating = id := rfl
  simp only [Plan.jobs, List.map_append, List.map_map, List.filter_append, List.filter_map, hclosing,
    hupdating, hcreating]
  rw [List.filter_eq_nil_iff.2 fun a ha => by simpa using hclosures a ha,
    List.filter_eq_nil_iff.2 fun u hu => by simpa using hupdates u hu,
    List.filter_eq_self.2 fun r hr => by simpa using hcreations r hr]
  simp

/-! ## Polls -/

/-- What a poll comes to. -/
inductive Polled : List Exchange → Except Failure (Nat × Report) → Prop
  | noFetch {f : SourceFailure} : Polled [⟨.fetch, .error f⟩] (.error (.source f))
  | noList {live : List CaseRecord} {f : StoreFailure} :
      Polled [⟨.fetch, .ok live⟩, ⟨.store .list, .error f⟩] (.error (.store f))
  | reconciled {live : List CaseRecord} {previous : List Snapshot} {log : List Exchange}
      {r : Except Failure Report}
      (planned : ∀ x ∈ log, x.request.OfPlan (Plan.of previous live))
      (performed : Performed (Plan.of previous live).jobs [] log r)
      (created : ∀ report, r = .ok report → report.created = (Plan.of previous live).creations) :
      Polled (⟨.fetch, .ok live⟩ :: ⟨.store .list, .ok previous⟩ :: log)
        (r.map fun report => (live.length, report))

namespace Timed

variable {α : Type} {p : Proc interface α} {m last : Moment} {log : List Stamp} {a : α}

/-- The exchanges of a run and its result are as told. -/
theorem tells {Q : List Exchange → Except Crash α → Prop} (h : Timed p m log a last)
    (hp : p.Tells Exchange.mk Q) : Q (log.map Stamp.exchange) (.ok a) := by
  induction h generalizing Q with
  | done => exact hp
  | ask _ _ ih => exact ih (hp _)

theorem of_poll {r : Except Failure (Nat × Report)} (h : Timed poll.run m log r last) :
    Polled (log.map Stamp.exchange) r := by
  obtain ⟨reply, m₁, log, rfl, -, h⟩ := of_ask h
  cases reply with
  | error f =>
    cases h with
    | done => exact .noFetch
  | ok live =>
    obtain ⟨reply, m₂, log, rfl, -, h⟩ := of_ask h
    cases reply with
    | error f =>
      cases h with
      | done => exact .noList
    | ok previous =>
      have hrun : Timed (reconcile previous live >>= fun report => pure (live.length, report)).run m₂
        log r last := h
      obtain ⟨log, tail, outcome, m₃, rfl, hreconcile, hrest⟩ := bind hrun
      have hpolled : Polled (⟨.fetch, .ok live⟩ :: ⟨.store .list, .ok previous⟩ ::
          log.map Stamp.exchange) (outcome.map fun report => (live.length, report)) :=
        .reconciled
          (List.forall_mem_map.2 (hreconcile.asks (asks_carryOut (Plan.of previous live))))
          (hreconcile.tells (performs_carryOut (Plan.of previous live)) _ rfl)
          (hreconcile.yields (yields_carryOut (Plan.of previous live)))
      cases outcome with
      | error f =>
        cases hrest with
        | done => rwa [List.append_nil]
      | ok report =>
        cases hrest with
        | done => rwa [List.append_nil]

end Timed

end CaseHerald.Watch
