import CaseHerald.Proofs.Crew
import CaseHerald.Proofs.Perform
import Mathlib.Data.List.Sort

/-!
# After an interrupted cycle

A cycle that fails has done some of its jobs. A job that is done leaves none for its case, and the
others are left as they were, so the plan of the next cycle is what remains of the first one, in order
(`jobs_eq_rest`). `recovers_from_fault` compares the two cycles with one that does not fail.
-/
namespace CaseHerald.Watch

open Plan (isLive isStored job? lastActive? firstActive?)
open Store (Memory Query)

variable {s t : Memory} {live : List CaseRecord} {c : String}

/-! ## The plan for some of the cases -/

/-- Stores that agree on some cases list the same snapshots of them. -/
theorem filter_values_eq (hs : s.Filed) (ht : t.Filed) {p : String → Bool}
    (agree : ∀ c, p c → t.snapshot? c = s.snapshot? c) :
    (t.snapshots.values.filter fun a => p a.number) =
      s.snapshots.values.filter fun a => p a.number := by
  have hirrefl : Std.Irrefl fun a b : Snapshot => Text.octets a.number < Text.octets b.number :=
    ⟨fun a => List.lt_irrefl _⟩
  have hasymm : Std.Asymm fun a b : Snapshot => Text.octets a.number < Text.octets b.number :=
    ⟨fun a b hab hba => List.lt_irrefl _ (List.lt_trans hab hba)⟩
  refine ((Memory.sorted_values ht).filter _).eq_of_mem_iff ((Memory.sorted_values hs).filter _)
    fun a => ?_
  rw [List.mem_filter, List.mem_filter, Memory.mem_values_iff ht, Memory.mem_values_iff hs]
  exact and_congr_left fun hp => by rw [agree _ hp]

/-- The jobs that come from single snapshots, where the other snapshots give none. -/
theorem filterMap_values_eq (hs : s.Filed) (ht : t.Filed) {p : String → Bool}
    (agree : ∀ c, p c → t.snapshot? c = s.snapshot? c) {f : Snapshot → Option Job}
    (hf : ∀ a j, f a = some j → j.number = a.number)
    (settled : ∀ a ∈ t.snapshots.values, ¬p a.number → f a = none) :
    t.snapshots.values.filterMap f = (s.snapshots.values.filterMap f).filter fun j => p j.number := by
  have hkept (l : List Snapshot) : (l.filter fun a => p a.number).filterMap f =
      (l.filterMap f).filter fun j => p j.number := by
    rw [List.filterMap_filter, List.filter_filterMap]
    refine List.filterMap_congr fun a _ => ?_
    cases hfa : f a with
    | none => simp
    | some j => simp [Option.filter, hf a j hfa]
  rw [← hkept, ← filter_values_eq hs ht agree, List.filterMap_filter]
  refine List.filterMap_congr fun a ha => ?_
  by_cases hp : p a.number
  · rw [if_pos hp]
  · rw [if_neg hp, settled a ha hp]

/-- The closure of a snapshot, if the case calls for it. -/
def closing? (live : List CaseRecord) (a : Snapshot) : Option Job :=
  if !isLive live a.number && !a.isMarked then some (.closing a) else none

/-- The update of a snapshot, if the case calls for it. -/
def updating? (live : List CaseRecord) (a : Snapshot) : Option Job :=
  (Plan.update? live a).map .updating

theorem number_of_closing? {a : Snapshot} {j : Job} (h : closing? live a = some j) :
    j.number = a.number := by
  unfold closing? at h
  split at h
  · cases h
    rfl
  · cases h

theorem number_of_updating? {a : Snapshot} {j : Job} (h : updating? live a = some j) :
    j.number = a.number := by
  obtain ⟨u, hu, rfl⟩ := Option.map_eq_some_iff.1 h
  exact (Plan.update?_spec hu).2

theorem jobs_of_filed (hs : s.Filed) (live : List CaseRecord) :
    (Plan.of s.snapshots.values live).jobs =
      s.snapshots.values.filterMap (closing? live) ++ s.snapshots.values.filterMap (updating? live) ++
        (firstOfEach CaseRecord.number (live.filter fun r =>
          r.isActive && !(s.snapshot? r.number).isSome)).map .creating := by
  have hclosures (l : List Snapshot) :
      ((l.filter fun a => !isLive live a.number).filter fun a => !a.isMarked).map Job.closing =
        l.filterMap (closing? live) := by
    induction l with
    | nil => rfl
    | cons a rest ih =>
      cases hlive : isLive live a.number <;> cases hmark : a.isMarked <;>
        simp [closing?, hlive, hmark, ← ih]
  simp only [Plan.jobs, Plan.of, firstOfEach_eq_self (Memory.nodup_numbers hs), hclosures,
    List.map_filterMap, Memory.isStored_values hs]
  rfl

/-- A snapshot calls for no closure and no update if its case has no job. -/
theorem of_job?_eq_none {a : Snapshot} (h : job? live a.number (some a) = none) :
    closing? live a = none ∧ updating? live a = none := by
  unfold job? at h
  rw [closing?, updating?, Plan.update?, Plan.isLive_eq]
  cases hr : lastActive? live a.number with
  | none => cases hm : a.isMarked <;> simp_all
  | some r => by_cases hupdated : r.updated = a.record.updated <;> simp_all

/-- What is created for some of the cases, if the others have no job. -/
theorem created_of_agree {p : String → Bool} (agree : ∀ c, p c → t.snapshot? c = s.snapshot? c)
    (settled : ∀ c, ¬p c → job? live c (t.snapshot? c) = none) :
    (live.filter fun r => r.isActive && !(t.snapshot? r.number).isSome) =
      (live.filter fun r => r.isActive && !(s.snapshot? r.number).isSome).filter fun r =>
        p r.number := by
  rw [List.filter_filter]
  refine List.filter_congr fun r hr => ?_
  by_cases hp : p r.number
  · rw [agree _ hp, hp, Bool.true_and]
  · -- an open record of a case that is not stored would be a job
    have hsettled := settled _ hp
    cases ha : t.snapshot? r.number with
    | some a => simp [hp]
    | none =>
      rw [ha] at hsettled
      have hclosed := Plan.firstActive?_eq_none_iff.1 (Option.map_eq_none_iff.1 hsettled) r hr
      have hinactive : r.isActive = false := by
        rw [← Bool.not_eq_true]
        exact fun hactive => hclosed hactive rfl
      simp [hp, hinactive]

/-- **If some cases have no job any more and the others are as they were, the plan is that for the
others.** -/
theorem jobs_of_agree (hs : s.Filed) (ht : t.Filed) {p : String → Bool}
    (agree : ∀ c, p c → t.snapshot? c = s.snapshot? c)
    (settled : ∀ c, ¬p c → job? live c (t.snapshot? c) = none) :
    (Plan.of t.snapshots.values live).jobs =
      (Plan.of s.snapshots.values live).jobs.filter fun j => p j.number := by
  have hnone (a : Snapshot) (ha : a ∈ t.snapshots.values) (hp : ¬p a.number) :
      closing? live a = none ∧ updating? live a = none := by
    apply of_job?_eq_none
    rw [← (Memory.mem_values_iff ht).1 ha]
    exact settled _ hp
  rw [jobs_of_filed hs, jobs_of_filed ht, List.filter_append, List.filter_append,
    filterMap_values_eq hs ht agree (fun _ _ => number_of_closing?) fun a ha hp => (hnone a ha hp).1,
    filterMap_values_eq hs ht agree (fun _ _ => number_of_updating?) fun a ha hp => (hnone a ha hp).2,
    created_of_agree agree settled, firstOfEach_filter, List.filter_map]
  rfl

/-! ## What remains of a plan -/

theorem mem_jobs_iff (hs : s.Filed) {j : Job} :
    j ∈ (Plan.of s.snapshots.values live).jobs ↔
      job? live j.number (s.snapshot? j.number) = some j := by
  have hjobs := Plan.jobsOf_of s.snapshots.values live j.number
  rw [Memory.find?_values hs] at hjobs
  rw [← Option.mem_toList, ← hjobs, Plan.jobsOf, List.mem_filter]
  simp

/-- A plan has no jobs exactly if no case calls for one. -/
theorem jobs_eq_nil_iff (hs : s.Filed) :
    (Plan.of s.snapshots.values live).jobs = [] ↔ ∀ c, job? live c (s.snapshot? c) = none := by
  constructor
  · intro h c
    have hjobs := Plan.jobsOf_of s.snapshots.values live c
    rw [Plan.jobsOf, h, List.filter_nil, Memory.find?_values hs] at hjobs
    exact Option.toList_eq_nil_iff.1 hjobs.symm
  · intro h
    refine List.eq_nil_iff_forall_not_mem.2 fun j hj => ?_
    have hjob := (mem_jobs_iff hs).1 hj
    rw [h] at hjob
    cases hjob

/-- Only a case that is stored can be closed. -/
theorem isSome_of_job? {a : Option Snapshot} {j : Job} (h : job? live c a = some j)
    (gone : lastActive? live c = none) : a.isSome := by
  cases a with
  | some a => rfl
  | none =>
    rw [job?, Plan.firstActive?_eq_none_iff.2 (Plan.lastActive?_eq_none_iff.1 gone)] at h
    cases h

section Rest

variable {fin left : List Job}

/-- **After some of the jobs of a plan, the plan is what is left of it.** -/
theorem jobs_eq_rest (hs : s.Filed) (consistent : Consistent live)
    (hjobs : (Plan.of s.snapshots.values live).jobs = fin ++ left) (written : Written s fin t) :
    (Plan.of t.snapshots.values live).jobs = left := by
  have hnodup := nodup_jobs s.snapshots.values live
  rw [hjobs, List.map_append, List.nodup_append] at hnodup
  obtain ⟨hfin, -, hother⟩ := hnodup
  have hagree (c : String) (hc : decide (c ∉ fin.map Job.number)) :
      t.snapshot? c = s.snapshot? c := by
    have hc' : c ∉ fin.map Job.number := of_decide_eq_true hc
    exact written.snapshot?_of_notMem fun j hj hnumber => hc' (List.mem_map.2 ⟨j, hj, hnumber⟩)
  have hsettled (c : String) (hc : ¬decide (c ∉ fin.map Job.number)) :
      job? live c (t.snapshot? c) = none := by
    obtain ⟨j, hj, rfl⟩ : ∃ j ∈ fin, j.number = c := by simpa using hc
    obtain ⟨g, hg⟩ := written.snapshot?_of_mem hfin hj
    rw [hg]
    have hmem : j ∈ (Plan.of s.snapshots.values live).jobs := by
      rw [hjobs]
      exact List.mem_append_left _ hj
    exact Plan.job?_of_done consistent ((mem_jobs_iff hs).1 hmem) g
  rw [jobs_of_agree hs (written.filed hs) hagree hsettled, hjobs, List.filter_append,
    List.filter_eq_nil_iff.2, List.filter_eq_self.2, List.nil_append]
  · intro j hj
    simp only [decide_eq_true_eq]
    exact fun hmem => hother _ hmem _ (List.mem_map_of_mem hj) rfl
  · intro j hj
    simpa using ⟨j, hj, rfl⟩

/-- The jobs of a plan neither store a case that is not open nor take one away. -/
theorem isSome_snapshot?_iff (hs : s.Filed)
    (hjobs : (Plan.of s.snapshots.values live).jobs = fin ++ left) (written : Written s fin t)
    (gone : lastActive? live c = none) : (t.snapshot? c).isSome ↔ (s.snapshot? c).isSome := by
  have hnodup := nodup_jobs s.snapshots.values live
  rw [hjobs, List.map_append] at hnodup
  by_cases hc : ∃ j ∈ fin, j.number = c
  · obtain ⟨j, hj, rfl⟩ := hc
    have hmem : j ∈ (Plan.of s.snapshots.values live).jobs := by
      rw [hjobs]
      exact List.mem_append_left _ hj
    have hstored := isSome_of_job? ((mem_jobs_iff hs).1 hmem) gone
    obtain ⟨g, hg⟩ := written.snapshot?_of_mem (List.nodup_append.1 hnodup).1 hj
    simp [hg, hstored]
  · rw [written.snapshot?_of_notMem fun j hj hnumber => hc ⟨j, hj, hnumber⟩]

/-- The plan that is left takes away the same cases. -/
theorem mem_removals_rest (hs : s.Filed)
    (hjobs : (Plan.of s.snapshots.values live).jobs = fin ++ left) (written : Written s fin t) :
    c ∈ (Plan.of t.snapshots.values live).removals ↔
      c ∈ (Plan.of s.snapshots.values live).removals := by
  rw [Plan.mem_removals, Plan.mem_removals, Memory.isStored_values hs,
    Memory.isStored_values (written.filed hs), Plan.isLive_eq]
  refine and_congr_left fun hgone => isSome_snapshot?_iff hs hjobs written ?_
  simpa using hgone

end Rest

/-! ## Where a cycle is interrupted -/

namespace Written

variable {jobs : List Job} {m n k : Memory}

/-- The tokens make no difference to the records. -/
theorem record?_unique (h : Written m jobs n) (h' : Written m jobs k)
    (hnodup : (jobs.map Job.number).Nodup) (c : String) : n.record? c = k.record? c := by
  by_cases hc : ∃ j ∈ jobs, j.number = c
  · obtain ⟨j, hj, rfl⟩ := hc
    rw [h.record?_of_mem hnodup hj, h'.record?_of_mem hnodup hj]
  · have hother (j : Job) (hj : j ∈ jobs) : j.number ≠ c := fun hnumber => hc ⟨j, hj, hnumber⟩
    rw [h.record?_of_notMem hother, h'.record?_of_notMem hother]

end Written

/-- Where some jobs are cut short: some of them have been written, and have been announced unless the
question after the last write failed. -/
theorem Stops.split {m t : Memory} {jobs : List Job} {q : Query} {es : List Event}
    (h : Stops m jobs q es t) :
    ∃ fin left, jobs = fin ++ left ∧ Written m fin t ∧
      ((∃ r, q = .write r) ∧ es = fin.flatMap (told m) ∨
        ∃ front j, fin = front ++ [j] ∧ q = .firstWriter j.number j.record.updated ∧
          es = front.flatMap (told m)) := by
  cases h with
  | @intro done rest j _ n _ written cut =>
    cases cut with
    | writing => exact ⟨done, j :: rest, rfl, written, .inl ⟨⟨_, rfl⟩, rfl⟩⟩
    | asking g loud =>
      have hall : Written m (done ++ [j]) (n.write g j.record) := written.append (.cons g .nil)
      exact ⟨done ++ [j], rest, by simp, hall, .inr ⟨done, j, rfl, rfl, rfl⟩⟩

/-- The two kinds of steps that a job takes on the store. -/
inductive JobStep : Query → Prop
  | write (r : CaseRecord) : JobStep (.write r)
  | firstWriter (c : String) (u : Instant) : JobStep (.firstWriter c u)

/-- A cycle in which a step of a job fails stops there and leaves the watcher as it was. -/
theorem Cycled.of_fault {w : Watcher} {m t : Memory} {log : List Exchange}
    {r : Except Failure Summary × Watcher} {q : Query} (h : Cycled w m log r t)
    (hfetch : ∀ x ∈ log, ∀ l, x.fetched? = some l → l = live) (jobStep : JobStep q)
    (fault : ∃ x ∈ log, x.failed? = some q) :
    (∃ e, r = (.error e, w)) ∧
      Stops m (Plan.of m.snapshots.values live).jobs q (log.filterMap Exchange.event?) t := by
  obtain ⟨x, hx, hfailed⟩ := fault
  obtain ⟨f, rfl⟩ := Exchange.eq_of_failed? hfailed
  cases h with
  | noFetch => cases List.mem_singleton.1 hx
  | noList =>
    rcases List.mem_cons.1 hx with heq | hmem
    · cases heq
    · cases List.mem_singleton.1 hmem
      cases jobStep
  | @stopped l front p e _ smooth planned stops =>
    obtain rfl := hfetch _ List.mem_cons_self l rfl
    have hlast : (⟨.store q, .error f⟩ : Exchange) = ⟨.store p, .error e⟩ := by
      rcases List.mem_cons.1 hx with heq | hmem
      · cases heq
      rcases List.mem_cons.1 hmem with heq | hmem
      · cases heq
      rcases List.mem_append.1 hmem with hmem | hmem
      · exact absurd (smooth _ hmem) Exchange.not_succeeds_error
      · exact List.mem_singleton.1 hmem
    cases hlast
    refine ⟨⟨_, rfl⟩, ?_⟩
    have hsame : (front ++ [(⟨.store q, .error f⟩ : Exchange)]).filterMap Exchange.event? =
        front.filterMap Exchange.event? := List.filterMap_append.trans (List.append_nil _)
    exact hsame.symm ▸ stops
  | done smooth planned quiet =>
    -- nothing fails in the plan, and what follows asks for nothing of it
    rcases List.mem_cons.1 hx with heq | hmem
    · cases heq
    rcases List.mem_cons.1 hmem with heq | hmem
    · cases heq
    rcases List.mem_append.1 hmem with hmem | hmem
    · exact absurd (smooth _ hmem) Exchange.not_succeeds_error
    · cases quiet _ hmem
      cases jobStep

/-- An announcement that is made with a job is one of the job's. -/
theorem mem_events_of_mem_told {m : Memory} {j : Job} {e : Event} (he : e ∈ told m j) :
    e ∈ j.events := by
  unfold told at he
  split at he
  · cases he
  · exact he

/-- No announcement of a plan is made twice. -/
theorem nodup_flatMap_told (m : Memory) (previous : List Snapshot) (live : List CaseRecord) :
    ((Plan.of previous live).jobs.flatMap (told m)).Nodup := by
  rw [List.nodup_flatMap]
  constructor
  · intro j hj
    unfold told
    split
    · exact .nil
    · exact Plan.nodup_events_of_mem_jobs hj
  · have hnumbers := List.pairwise_map.1 (nodup_jobs previous live)
    refine hnumbers.imp_of_mem fun {j k} hj hk hne => ?_
    intro e hej hek
    apply hne
    rw [← Plan.caseNumber_of_mem_events hj (mem_events_of_mem_told hej),
      ← Plan.caseNumber_of_mem_events hk (mem_events_of_mem_told hek)]

/-- What is announced with the jobs but one is what is announced about the other cases. -/
theorem filter_flatMap_told {front left : List Job} {j : Job} (m : Memory)
    (hcase : ∀ k ∈ front ++ [j] ++ left, ∀ e ∈ k.events, e.caseNumber = k.number)
    (hnodup : ((front ++ [j] ++ left).map Job.number).Nodup) :
    ((front ++ [j] ++ left).flatMap (told m)).filter (fun e => decide (e.caseNumber ≠ j.number)) =
      front.flatMap (told m) ++ left.flatMap (told m) := by
  rw [Plan.filter_flatMap_events (fun k hk e he => hcase k hk e (mem_events_of_mem_told he))
    fun c => decide (c ≠ j.number)]
  rw [List.append_assoc, List.map_append, List.nodup_append] at hnodup
  obtain ⟨-, hrest, hother⟩ := hnodup
  have hfront : (front.filter fun k => decide (k.number ≠ j.number)) = front := by
    refine List.filter_eq_self.2 fun k hk => decide_eq_true fun heq => ?_
    exact hother _ (List.mem_map_of_mem hk) _ List.mem_cons_self heq
  have hleft : (left.filter fun k => decide (k.number ≠ j.number)) = left := by
    refine List.filter_eq_self.2 fun k hk => decide_eq_true fun heq => ?_
    exact (List.nodup_cons.1 hrest).1 (heq ▸ List.mem_map_of_mem hk)
  have hself : ([j].filter fun k => decide (k.number ≠ j.number)) = [] := by simp
  rw [List.filter_append, List.filter_append, hfront, hself, hleft, List.append_nil,
    List.flatMap_append]

/-- **A cycle after an interrupted one completes it.** Let a write or a question of a cycle fail. Then
the watcher remembers what it did before. A cycle without failures after it, of the same watcher or
another, leaves the records that one cycle without failures would have left, and queues the same cases.
Together the two announce what that cycle would have announced, in order and nothing twice; only if a
question failed, what it was about is not announced. -/
theorem recovers_from_fault {w w' v v' u u' : Watcher} {s s₁ s₂ s₀ : Scene}
    {log₁ log₂ log₀ : List Exchange} {r₁ r₂ r₀ : Except Failure Summary} {q : Query}
    (filed : s.store.Filed) (consistent : Consistent live)
    (first : Runs (cycle w) s log₁ (r₁, w') s₁) (jobStep : JobStep q)
    (fault : ∃ x ∈ log₁, x.failed? = some q) (second : Runs (cycle v) s₁ log₂ (r₂, v') s₂)
    (whole : Runs (cycle u) s log₀ (r₀, u') s₀)
    (fetches : ∀ x ∈ log₁ ++ log₂ ++ log₀, ∀ l, x.fetched? = some l → l = live)
    (smooth : ∀ x ∈ log₂ ++ log₀, x.succeeds) :
    (∃ e, r₁ = .error e) ∧ w' = w ∧ (∃ n, r₂ = .ok n) ∧ (∃ n, r₀ = .ok n) ∧
      (∀ c, s₂.store.record? c = s₀.store.record? c) ∧
      (∃ a b, v'.lastReport = some a ∧ u'.lastReport = some b ∧
        ∀ c, c ∈ a.deletions ↔ c ∈ b.deletions) ∧
      (log₀.filterMap Exchange.event?).Nodup ∧
      match q with
      | .firstWriter c _ => (log₁ ++ log₂).filterMap Exchange.event? =
          (log₀.filterMap Exchange.event?).filter fun e => decide (e.caseNumber ≠ c)
      | _ => (log₁ ++ log₂).filterMap Exchange.event? = log₀.filterMap Exchange.event? := by
  obtain ⟨⟨e, hr₁⟩, hstops⟩ := first.cycled.of_fault
    (fun x hx => fetches x (List.mem_append_left _ (List.mem_append_left _ hx))) jobStep fault
  obtain ⟨n₂, a, hr₂, hwritten₂, htold₂, hqueue₂⟩ := second.cycled.of_succeeds
    (fun x hx => smooth x (List.mem_append_left _ hx))
    fun x hx => fetches x (List.mem_append_left _ (List.mem_append_right _ hx))
  obtain ⟨n₀, b, hr₀, hwritten₀, htold₀, hqueue₀⟩ := whole.cycled.of_succeeds
    (fun x hx => smooth x (List.mem_append_right _ hx))
    fun x hx => fetches x (List.mem_append_right _ hx)
  cases hr₁
  cases hr₂
  cases hr₀
  obtain ⟨fin, left, hjobs, hwritten₁, hends⟩ := hstops.split
  have hnodup : ((fin ++ left).map Job.number).Nodup := hjobs ▸ nodup_jobs _ _
  rw [jobs_eq_rest filed consistent hjobs hwritten₁] at hwritten₂ htold₂
  rw [hwritten₁.flatMap_told hnodup] at htold₂
  have hnone := nodup_flatMap_told s.store s.store.snapshots.values live
  rw [← htold₀] at hnone
  rw [hjobs] at hwritten₀ htold₀
  refine ⟨⟨e, rfl⟩, rfl, ⟨n₂, rfl⟩, ⟨n₀, rfl⟩,
    (hwritten₁.append hwritten₂).record?_unique hwritten₀ hnodup,
    ⟨a, b, rfl, rfl, fun c => ?_⟩, hnone, ?_⟩
  · rw [hqueue₂, hqueue₀]
    exact mem_removals_rest filed hjobs hwritten₁
  · rcases hends with ⟨⟨r, rfl⟩, htold₁⟩ | ⟨front, j, rfl, rfl, htold₁⟩
    · show (log₁ ++ log₂).filterMap Exchange.event? = log₀.filterMap Exchange.event?
      rw [List.filterMap_append, htold₀, htold₁, htold₂, List.flatMap_append]
    · have hcase (k : Job) (hk : k ∈ front ++ [j] ++ left) (e : Event) (he : e ∈ k.events) :
          e.caseNumber = k.number := Plan.caseNumber_of_mem_events (hjobs ▸ hk) he
      show (log₁ ++ log₂).filterMap Exchange.event? = (log₀.filterMap Exchange.event?).filter _
      rw [List.filterMap_append, htold₀, htold₁, htold₂,
        filter_flatMap_told s.store hcase hnodup]

/-! ## An interrupted cycle -/

/-- A program alone whose request of the given index is met by a failure of the store. -/
def playCut (live : List CaseRecord) (f : StoreFailure) {α : Type} :
    Nat → Scene → Proc interface α → Option (List Exchange × α × Scene)
  | 0, s, .ask (.store q) next =>
    (playAlone live s (next (.error f))).map fun p => (⟨.store q, .error f⟩ :: p.1, p.2)
  | n + 1, s, .ask q next =>
    let g := Guid.ofNat (s.minted.length + 1)
    let r := s.serve live g q
    if s.isFresh g then
      (playCut live f n r.2 (next r.1)).map fun p => (⟨q, r.1⟩ :: p.1, p.2)
    else none
  | _, _, _ => none

theorem runs_playCut {α : Type} {live : List CaseRecord} {f : StoreFailure} {n : Nat} {s t : Scene}
    {p : Proc interface α} {log : List Exchange} {a : α}
    (h : playCut live f n s p = some (log, a, t)) : Runs p s log a t := by
  induction n generalizing s p log with
  | zero =>
    unfold playCut at h
    split at h
    next q next =>
      obtain ⟨⟨more, rest⟩, hplay, heq⟩ := Option.map_eq_some_iff.1 h
      cases heq
      exact .ask (.fault f) (runs_playAlone hplay)
    next heq => cases heq
    next => cases h
  | succ n ih =>
    cases p with
    | ask q next =>
      rw [playCut] at h
      split at h
      next hfresh =>
        obtain ⟨⟨more, rest⟩, hplay, heq⟩ := Option.map_eq_some_iff.1 h
        cases heq
        exact .ask (Scene.meets_serve live (Scene.fresh_of_isFresh hfresh) _) (ih hplay)
      next => cases h
    | done => cases h
    | halt => cases h

/-- A store with two cases. -/
def twoCases : Scene :=
  ⟨(Memory.empty.write (.ofNat 100) (sample "1" 1 2)).write (.ofNat 101) (sample "2" 1 2), []⟩

/-- The first case is gone, the second has changed, and there is a third. -/
def allMoved : List CaseRecord := [sample "2" 2 0, sample "3" 2 2]

/-- What a played cycle comes to. -/
abbrev Play := List Exchange × (Except Failure Summary × Watcher) × Scene

/-- A cycle whose question about the second case fails. -/
def cutPlay : Play :=
  (playCut allMoved (.backend "down") 6 twoCases (cycle (.new false))).getD
    ([], (.error (.store (.backend "down")), .new false), twoCases)

/-- The next cycle of the watcher. -/
def nextPlay : Play :=
  (playAlone allMoved cutPlay.2.2 (cycle cutPlay.2.1.2)).getD ([], cutPlay.2.1, twoCases)

/-- One cycle in which nothing fails. -/
def wholePlay : Play :=
  (playAlone allMoved twoCases (cycle (.new false))).getD ([], cutPlay.2.1, twoCases)

theorem recovers_from_fault_unasked :
    Runs (cycle (.new false)) twoCases cutPlay.1 cutPlay.2.1 cutPlay.2.2 ∧
      (∃ x ∈ cutPlay.1, x.failed? = some (.firstWriter "2" (instantAt 2))) ∧
      Runs (cycle cutPlay.2.1.2) cutPlay.2.2 nextPlay.1 nextPlay.2.1 nextPlay.2.2 ∧
      cutPlay.2.1.2 = .new false ∧
      (∀ c, nextPlay.2.2.store.record? c = wholePlay.2.2.store.record? c) ∧
      wholePlay.1.filterMap Exchange.event? =
        [.closed "1", (FieldChange.priority ⟨2⟩ ⟨0⟩).event "2"] ∧
      (cutPlay.1 ++ nextPlay.1).filterMap Exchange.event? = [.closed "1"] := by
  have cut : (playCut allMoved (.backend "down") 6 twoCases (cycle (.new false))).isSome := by
    decide +kernel
  have next : (playAlone allMoved cutPlay.2.2 (cycle cutPlay.2.1.2)).isSome := by decide +kernel
  have done : (playAlone allMoved twoCases (cycle (.new false))).isSome := by decide +kernel
  have first : Runs (cycle (.new false)) twoCases cutPlay.1 cutPlay.2.1 cutPlay.2.2 :=
    runs_getD (fun _ _ _ => runs_playCut) cut _
  have second : Runs (cycle cutPlay.2.1.2) cutPlay.2.2 nextPlay.1 nextPlay.2.1 nextPlay.2.2 :=
    runs_getD (fun _ _ _ => runs_playAlone) next _
  have whole : Runs (cycle (.new false)) twoCases wholePlay.1 wholePlay.2.1 wholePlay.2.2 :=
    runs_getD (fun _ _ _ => runs_playAlone) done _
  have filed : twoCases.store.Filed := (Memory.filed_empty.write _ _).write _ _
  have fault : ∃ x ∈ cutPlay.1, x.failed? = some (.firstWriter "2" (instantAt 2)) := by
    decide +kernel
  have fetches : ∀ x ∈ cutPlay.1 ++ nextPlay.1 ++ wholePlay.1, ∀ l, x.fetched? = some l →
      l = allMoved := by
    have hall : ∀ x ∈ cutPlay.1 ++ nextPlay.1 ++ wholePlay.1, ∀ l ∈ x.fetched?, l = allMoved := by
      decide +kernel
    exact hall
  obtain ⟨-, hsame, -, -, hrecords, -, -, htold⟩ := recovers_from_fault filed (by decide +kernel)
    first (.firstWriter _ _) fault second whole fetches (by decide +kernel)
  refine ⟨first, fault, second, hsame, hrecords, by decide +kernel, ?_⟩
  exact htold.trans (by decide +kernel)

end CaseHerald.Watch
