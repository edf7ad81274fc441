import CaseHerald.Plan
import Mathlib.Data.List.Basic

/-!
# The work of a plan, case by case

Every closure, update and creation of a plan is a `Job`: one write, and the announcements that go
with it. `Plan.jobsOf_of` says which job the plan of a cycle has for a case; it depends on nothing but
the first snapshot of the case and its open records.
-/
namespace CaseHerald

/-- A write that a plan calls for, and what its first writer announces. -/
structure Job where
  record : CaseRecord
  events : List Event
  deriving DecidableEq

namespace Job

/-- The case of the job. -/
def number (j : Job) : String := j.record.number

/-- The closure of a stored case. -/
def closing (s : Snapshot) : Job := ⟨s.record.mark, [.closed s.number]⟩

/-- An update. -/
def updating (u : PlannedUpdate) : Job :=
  ⟨u.current, u.changes.map fun c => c.event u.current.number⟩

/-- The creation of a case, which nobody announces. -/
def creating (r : CaseRecord) : Job := ⟨r, []⟩

end Job

/-! ## First elements -/

theorem sublist_firstOfEach {α : Type} (key : α → String) (l : List α) :
    (firstOfEach key l).Sublist l := by
  induction l with
  | nil => exact .slnil
  | cons a rest ih => exact (List.filter_sublist.trans ih).cons_cons a

theorem mem_firstOfEach {α : Type} {key : α → String} {l : List α} {a : α}
    (h : a ∈ firstOfEach key l) : a ∈ l := (sublist_firstOfEach key l).subset h

theorem filter_firstOfEach {α : Type} (key : α → String) (k : String) (l : List α) :
    (firstOfEach key l).filter (fun a => decide (key a = k)) =
      (l.find? fun a => decide (key a = k)).toList := by
  induction l with
  | nil => rfl
  | cons a rest ih =>
    by_cases ha : key a = k
    · simp [firstOfEach, ha]
    · have hsame : ((firstOfEach key rest).filter fun b => decide (key b ≠ key a)).filter
          (fun b => decide (key b = k)) =
          (firstOfEach key rest).filter fun b => decide (key b = k) := by
        rw [List.filter_filter]
        refine List.filter_congr fun b _ => ?_
        by_cases hb : key b = k
        · simp [hb, Ne.symm ha]
        · simp [hb]
      rw [firstOfEach, List.filter_cons_of_neg (by simpa using ha), hsame, ih,
        List.find?_cons_of_neg (by simpa using ha)]

theorem mem_map_firstOfEach {α : Type} {key : α → String} {l : List α} {k : String} :
    k ∈ (firstOfEach key l).map key ↔ k ∈ l.map key := by
  constructor
  · intro h
    obtain ⟨a, ha, rfl⟩ := List.mem_map.1 h
    exact List.mem_map_of_mem (mem_firstOfEach ha)
  · intro h
    obtain ⟨a, ha, rfl⟩ := List.mem_map.1 h
    cases hfind : l.find? fun b => decide (key b = key a) with
    | none => exact absurd (decide_eq_true rfl) (List.find?_eq_none.1 hfind a ha)
    | some b =>
      have hb : b ∈ (firstOfEach key l).filter fun b => decide (key b = key a) := by
        rw [filter_firstOfEach, hfind]
        exact List.mem_singleton_self b
      obtain ⟨hmem, hkey⟩ := List.mem_filter.1 hb
      exact List.mem_map.2 ⟨b, hmem, by simpa using hkey⟩

theorem firstOfEach_eq_self {α : Type} {key : α → String} {l : List α} (h : (l.map key).Nodup) :
    firstOfEach key l = l := by
  induction l with
  | nil => rfl
  | cons a rest ih =>
    obtain ⟨ha, hrest⟩ := List.nodup_cons.1 h
    rw [firstOfEach, ih hrest, List.filter_eq_self.2]
    intro b hb
    have hne : key b ≠ key a := fun hkey => ha (hkey ▸ List.mem_map_of_mem hb)
    simpa using hne

/-- The first elements with some keys are the first of those with these keys. -/
theorem firstOfEach_filter {α : Type} {key : α → String} (p : String → Bool) (l : List α) :
    firstOfEach key (l.filter fun a => p (key a)) = (firstOfEach key l).filter fun a => p (key a) := by
  induction l with
  | nil => rfl
  | cons a rest ih =>
    rw [firstOfEach, List.filter_cons, List.filter_cons]
    by_cases ha : p (key a) = true
    · rw [if_pos ha, if_pos ha, firstOfEach, ih, List.filter_filter, List.filter_filter]
      simp only [Bool.and_comm]
    · rw [if_neg ha, if_neg ha, ih, List.filter_filter]
      refine List.filter_congr fun b _ => ?_
      by_cases hb : key b = key a
      · simp [hb, ha]
      · simp [hb]

namespace Plan

/-! ## The jobs of a plan -/

/-- The work of a plan, in order. -/
def jobs (p : Plan) : List Job :=
  p.closures.map .closing ++ p.updates.map .updating ++ p.creations.map .creating

/-- The work of a plan on one case. -/
def jobsOf (p : Plan) (number : String) : List Job :=
  p.jobs.filter fun j => decide (j.number = number)

/-- What the plan announces if every write of it is the first, in order. -/
def events (p : Plan) : List Event := p.jobs.flatMap (·.events)

/-- An announcement is about the case of its job. -/
theorem caseNumber_of_mem_events {p : Plan} {j : Job} (hj : j ∈ p.jobs) {e : Event}
    (he : e ∈ j.events) : e.caseNumber = j.number := by
  rcases List.mem_append.1 hj with hj | hj
  · rcases List.mem_append.1 hj with hj | hj
    · obtain ⟨s, -, rfl⟩ := List.mem_map.1 hj
      rw [List.mem_singleton.1 he]; rfl
    · obtain ⟨u, -, rfl⟩ := List.mem_map.1 hj
      obtain ⟨c, -, rfl⟩ := List.mem_map.1 he
      rfl
  · obtain ⟨r, -, rfl⟩ := List.mem_map.1 hj
    cases he

theorem caseNumber_of_mem_jobsOf {p : Plan} {number : String} {j : Job} (hj : j ∈ p.jobsOf number)
    {e : Event} (he : e ∈ j.events) : e.caseNumber = number := by
  obtain ⟨hmem, hnumber⟩ := List.mem_filter.1 hj
  exact (caseNumber_of_mem_events hmem he).trans (by simpa using hnumber)

/-- What some jobs announce about some cases is what the jobs of these cases announce. -/
theorem filter_flatMap_events {jobs : List Job} {events : Job → List Event}
    (h : ∀ j ∈ jobs, ∀ e ∈ events j, e.caseNumber = j.number) (p : String → Bool) :
    (jobs.flatMap events).filter (fun e => p e.caseNumber) =
      (jobs.filter fun j => p j.number).flatMap events := by
  induction jobs with
  | nil => rfl
  | cons j rest ih =>
    have hhead := h j List.mem_cons_self
    rw [List.flatMap_cons, List.filter_append, ih fun k hk => h k (List.mem_cons_of_mem _ hk),
      List.filter_cons]
    by_cases hj : p j.number = true
    · rw [if_pos hj, List.flatMap_cons,
        List.filter_eq_self.2 fun e he => by rw [hhead e he, hj]]
    · rw [if_neg hj, List.filter_eq_nil_iff.2 fun e he => by rw [hhead e he]; exact hj,
        List.nil_append]

theorem filter_events (p : Plan) (number : String) :
    p.events.filter (fun e => decide (e.caseNumber = number)) =
      (p.jobsOf number).flatMap (·.events) :=
  filter_flatMap_events (fun _ hj _ he => caseNumber_of_mem_events hj he) fun c => decide (c = number)

/-- The cases that a plan takes away, in order. -/
def removals (p : Plan) : List String := p.closures.map Snapshot.number ++ p.sweeps

theorem length_events (p : Plan) : p.events.length = p.mostEvents := by
  simp [events, jobs, mostEvents, List.flatMap_map, List.length_flatMap, Job.closing, Job.updating,
    Job.creating]

/-! ## The job of a case -/

/-- The first open record of the case. -/
def firstActive? (live : List CaseRecord) (number : String) : Option CaseRecord :=
  live.find? fun r => r.isActive && r.number = number

/-- The job that a cycle has for a case with the snapshot, if it has one. -/
def job? (live : List CaseRecord) (number : String) : Option Snapshot → Option Job
  | some s =>
    match lastActive? live number with
    | some r =>
      if r.updated = s.record.updated then none else some (.updating ⟨s, r, classify s.record r⟩)
    | none => if s.isMarked then none else some (.closing s)
  | none => (firstActive? live number).map .creating

theorem lastActive?_spec {live : List CaseRecord} {number : String} {r : CaseRecord}
    (h : lastActive? live number = some r) : r ∈ live ∧ r.isActive ∧ r.number = number := by
  have hmem := List.mem_of_find?_eq_some h
  rw [List.mem_reverse, List.mem_filter] at hmem
  exact ⟨hmem.1, hmem.2, by simpa using List.find?_some h⟩

theorem firstActive?_spec {live : List CaseRecord} {number : String} {r : CaseRecord}
    (h : firstActive? live number = some r) : r ∈ live ∧ r.isActive ∧ r.number = number := by
  have hp := List.find?_some h
  simp only [Bool.and_eq_true, decide_eq_true_eq] at hp
  exact ⟨List.mem_of_find?_eq_some h, hp.1, hp.2⟩

/-- A case without an open record is not live. -/
theorem lastActive?_eq_none_iff {live : List CaseRecord} {number : String} :
    lastActive? live number = none ↔ ∀ r ∈ live, r.isActive → r.number ≠ number := by
  rw [lastActive?, List.find?_eq_none]
  constructor
  · exact fun h r hr ha hn =>
      h r (List.mem_reverse.2 (List.mem_filter.2 ⟨hr, ha⟩)) (by simpa using hn)
  · intro h r hr hn
    rw [List.mem_reverse, List.mem_filter] at hr
    exact h r hr.1 hr.2 (by simpa using hn)

theorem firstActive?_eq_none_iff {live : List CaseRecord} {number : String} :
    firstActive? live number = none ↔ ∀ r ∈ live, r.isActive → r.number ≠ number := by
  simp [firstActive?]

theorem isLive_eq (live : List CaseRecord) (number : String) :
    isLive live number = (lastActive? live number).isSome := by
  cases h : lastActive? live number with
  | none =>
    have hnone := lastActive?_eq_none_iff.1 h
    simpa [isLive] using hnone
  | some r =>
    obtain ⟨hmem, hactive, hnumber⟩ := lastActive?_spec h
    simp only [isLive, Option.isSome_some, List.any_eq_true]
    exact ⟨r, hmem, by simp [hactive, hnumber]⟩

theorem update?_spec {live : List CaseRecord} {s : Snapshot} {u : PlannedUpdate}
    (h : update? live s = some u) : u.previous = s ∧ u.current.number = s.number := by
  unfold update? at h
  split at h
  next r hr =>
    split at h
    · cases h
    · cases h
      exact ⟨rfl, (lastActive?_spec hr).2.2⟩
  next => cases h

variable (previous : List Snapshot) (live : List CaseRecord) (number : String)

theorem filter_closures_of :
    (of previous live).closures.filter (fun s => decide (s.number = number)) =
      (previous.find? fun s => decide (s.number = number)).toList.filter fun s =>
        !isLive live number && !s.isMarked := by
  simp only [of, List.filter_filter]
  rw [← filter_firstOfEach, List.filter_filter]
  refine List.filter_congr fun s _ => ?_
  by_cases hs : s.number = number
  · simp [hs, Bool.and_comm]
  · simp [hs]

theorem filter_updates_of :
    (of previous live).updates.filter (fun u => decide (u.current.number = number)) =
      (previous.find? fun s => decide (s.number = number)).toList.filterMap (update? live) := by
  simp only [of]
  rw [← filter_firstOfEach, List.filter_filterMap, List.filterMap_filter]
  refine List.filterMap_congr fun s _ => ?_
  cases hu : update? live s with
  | none => simp
  | some u =>
    by_cases hs : s.number = number
    · simp [Option.filter, (update?_spec hu).2, hs]
    · simp [Option.filter, (update?_spec hu).2, hs]

theorem filter_creations_of :
    (of previous live).creations.filter (fun r => decide (r.number = number)) =
      if isStored previous number then [] else (firstActive? live number).toList := by
  simp only [of]
  rw [filter_firstOfEach, List.find?_filter]
  by_cases hstored : isStored previous number
  · rw [if_pos hstored, List.find?_eq_none.2, Option.toList_none]
    intro r _ hr
    simp only [Bool.decide_and, Bool.and_eq_true, Bool.not_eq_true', decide_eq_true_eq] at hr
    simp [hr.2, hstored] at hr
  · rw [if_neg hstored, firstActive?]
    congr 2
    funext r
    by_cases hr : r.number = number
    · simp [hr, hstored]
    · simp [hr]

theorem isStored_eq :
    isStored previous number = (previous.find? fun s => decide (s.number = number)).isSome := by
  rw [isStored, List.isSome_find?]

/-- **The plan of a cycle has at most one job for a case**, that of its first snapshot. -/
theorem jobsOf_of :
    (of previous live).jobsOf number =
      (job? live number (previous.find? fun s => decide (s.number = number))).toList := by
  have hclosures := filter_closures_of previous live number
  have hupdates := filter_updates_of previous live number
  have hcreations := filter_creations_of previous live number
  rw [isStored_eq] at hcreations
  have hjobs : (of previous live).jobsOf number =
      ((of previous live).closures.filter fun s => decide (s.number = number)).map .closing ++
        ((of previous live).updates.filter fun u => decide (u.current.number = number)).map
          .updating ++
        ((of previous live).creations.filter fun r => decide (r.number = number)).map
          .creating := by
    rw [jobsOf, jobs, List.filter_append, List.filter_append, List.filter_map, List.filter_map,
      List.filter_map]
    rfl
  rw [hjobs, hclosures, hupdates, hcreations, isLive_eq]
  cases hs : previous.find? fun s => decide (s.number = number) with
  | none => cases h : firstActive? live number <;> simp [job?, h]
  | some s =>
    have hnumber : s.number = number := by simpa using List.find?_some hs
    cases hr : lastActive? live number with
    | none => cases hm : s.isMarked <;> simp [job?, update?, hnumber, hr, hm]
    | some r =>
      by_cases hupdated : r.updated = s.record.updated <;>
        simp [job?, update?, hnumber, hr, hupdated]

/-- A plan takes away the cases that are stored and not open. -/
theorem mem_removals :
    number ∈ (of previous live).removals ↔ isStored previous number ∧ ¬isLive live number := by
  have hstored : isStored previous number ↔
      number ∈ (firstOfEach Snapshot.number previous).map Snapshot.number := by
    rw [mem_map_firstOfEach]
    simp [isStored]
  rw [hstored]
  simp only [removals, of, List.mem_append, List.mem_map, List.mem_filter]
  constructor
  · rintro (⟨s, ⟨⟨hs, hgone⟩, -⟩, rfl⟩ | ⟨s, ⟨⟨hs, hgone⟩, -⟩, rfl⟩)
    · exact ⟨⟨s, hs, rfl⟩, by simpa using hgone⟩
    · exact ⟨⟨s, hs, rfl⟩, by simpa using hgone⟩
  · rintro ⟨⟨s, hs, rfl⟩, hgone⟩
    have hgone' : (!isLive live s.number) = true := by simpa using hgone
    by_cases hm : s.isMarked
    · exact .inr ⟨s, ⟨⟨hs, hgone'⟩, hm⟩, rfl⟩
    · exact .inl ⟨s, ⟨⟨hs, hgone'⟩, by simpa using hm⟩, rfl⟩

/-- What may lead to a job for a case. -/
inductive CallsFor (previous : List Snapshot) (live : List CaseRecord) (number : String) : Job → Prop
  | closing {s : Snapshot} (stored : s ∈ previous) (ofCase : s.number = number)
      (unmarked : ¬s.isMarked) (gone : ∀ r ∈ live, r.isActive → r.number ≠ number) :
      CallsFor previous live number (.closing s)
  | updating {s : Snapshot} {r : CaseRecord} (stored : s ∈ previous) (fetched : r ∈ live)
      (active : r.isActive) (ofCase : r.number = number) (sameCase : s.number = number)
      (moved : r.updated ≠ s.record.updated) :
      CallsFor previous live number (.updating ⟨s, r, classify s.record r⟩)
  | creating {r : CaseRecord} (fetched : r ∈ live) (active : r.isActive)
      (ofCase : r.number = number) (new : ∀ s ∈ previous, s.number ≠ number) :
      CallsFor previous live number (.creating r)

theorem callsFor_of_mem_jobsOf {previous : List Snapshot} {live : List CaseRecord} {number : String}
    {j : Job} (hj : j ∈ (of previous live).jobsOf number) : CallsFor previous live number j := by
  rw [jobsOf_of, Option.mem_toList] at hj
  unfold job? at hj
  split at hj
  next s hs =>
    have hstored := List.mem_of_find?_eq_some hs
    have hnumber : s.number = number := by simpa using List.find?_some hs
    split at hj
    next r hr =>
      obtain ⟨hmem, hactive, hc⟩ := lastActive?_spec hr
      split at hj
      · cases hj
      next hmoved =>
        cases hj
        exact .updating hstored hmem hactive hc hnumber hmoved
    next hnone =>
      split at hj
      · cases hj
      next hunmarked =>
        cases hj
        exact .closing hstored hnumber hunmarked (lastActive?_eq_none_iff.1 hnone)
  next hnone =>
    obtain ⟨r, hr, rfl⟩ := Option.map_eq_some_iff.1 hj
    obtain ⟨hmem, hactive, hc⟩ := firstActive?_spec hr
    exact .creating hmem hactive hc fun s hs => by simpa using List.find?_eq_none.1 hnone s hs

/-- A job stores a closing mark or an open record that has been fetched. -/
theorem record_of_mem_jobs {previous : List Snapshot} {live : List CaseRecord} {j : Job}
    (hj : j ∈ (of previous live).jobs) :
    j.record.isMarked ∨ j.record ∈ live ∧ j.record.isActive := by
  have hcalls : CallsFor previous live j.number j :=
    callsFor_of_mem_jobsOf (List.mem_filter.2 ⟨hj, decide_eq_true rfl⟩)
  generalize j.number = c at hcalls
  cases hcalls with
  | closing => exact .inl (by simp [Job.closing, CaseRecord.isMarked, CaseRecord.mark])
  | updating _ fetched active => exact .inr ⟨fetched, active⟩
  | creating fetched active => exact .inr ⟨fetched, active⟩

/-- The changes of a case are announced each in its own kind. -/
theorem nodup_events_classify (previous current : CaseRecord) (number : String) :
    ((classify previous current).map fun d => d.event number).Nodup := by
  have hsub : ((classify previous current).map FieldChange.kind).Sublist
      ([.comment] ++ [.priority] ++ [FieldChange.kind (.escalation current.escalated)]) := by
    simp only [classify, List.map_append]
    refine List.Sublist.append (.append ?_ ?_) ?_
    · repeat' split
      all_goals simp [FieldChange.kind]
    · split <;> simp [FieldChange.kind]
    · split <;> simp
  have hkinds : ((classify previous current).map FieldChange.kind).Nodup := by
    refine hsub.nodup ?_
    cases current.escalated <;> decide
  rw [List.Nodup, List.pairwise_map] at hkinds ⊢
  exact hkinds.imp fun hne heq => hne (congrArg Event.kind heq)

theorem nodup_events_of_mem_jobs {previous : List Snapshot} {live : List CaseRecord} {j : Job}
    (hj : j ∈ (of previous live).jobs) : j.events.Nodup := by
  have hcalls : CallsFor previous live j.number j :=
    callsFor_of_mem_jobsOf (List.mem_filter.2 ⟨hj, decide_eq_true rfl⟩)
  generalize j.number = c at hcalls
  cases hcalls with
  | closing => exact List.pairwise_singleton _ _
  | updating => exact nodup_events_classify _ _ _
  | creating => exact .nil

/-- Only a closure announces that its case is closed. -/
theorem event_ne_closed (d : FieldChange) (number c : String) : d.event number ≠ .closed c := by
  intro h
  have hkind := congrArg Event.kind h
  cases d with
  | escalation escalated => cases escalated <;> cases hkind
  | _ => cases hkind

theorem closed_notMem_updating (u : PlannedUpdate) (c : String) :
    .closed c ∉ (Job.updating u).events := by
  intro hmem
  obtain ⟨d, -, hd⟩ := List.mem_map.1 hmem
  exact event_ne_closed d _ _ hd

/-- **A job that is done leaves none**, if the open records of the case agree on its time of update. -/
theorem job?_of_done {live : List CaseRecord} {number : String} {s : Option Snapshot} {j : Job}
    (agree : ∀ r ∈ live, ∀ a ∈ live, r.isActive → a.isActive → r.number = a.number →
      r.updated = a.updated)
    (h : job? live number s = some j) (g : Guid) : job? live number (some ⟨j.record, g⟩) = none := by
  cases s with
  | some a =>
    cases hr : lastActive? live number with
    | some r =>
      simp only [job?, hr] at h
      split at h
      · cases h
      · cases h
        simp [job?, hr, Job.updating]
    | none =>
      simp only [job?, hr] at h
      split at h
      · cases h
      · cases h
        simp [job?, hr, Job.closing, CaseRecord.mark, Snapshot.isMarked, CaseRecord.isMarked]
  | none =>
    obtain ⟨r, hr, rfl⟩ := Option.map_eq_some_iff.1 h
    obtain ⟨hmem, hactive, hnumber⟩ := firstActive?_spec hr
    cases hlast : lastActive? live number with
    | none => exact absurd hnumber (lastActive?_eq_none_iff.1 hlast r hmem hactive)
    | some a =>
      obtain ⟨hmem', hactive', hnumber'⟩ := lastActive?_spec hlast
      have hsame := agree a hmem' r hmem hactive' hactive (hnumber'.trans hnumber.symm)
      simp [job?, hlast, Job.creating, hsame]

end Plan

end CaseHerald
