import CaseHerald.Proofs.Crew
import CaseHerald.Proofs.Perform

/-!
# Exactly once, in a race

Several watchers run a cycle over the same fetched records and one store. Their plans differ, since one
may list after another has written. `Racing` holds for every case with a job at every moment of such a
race: either nobody has written, or one watcher was the first and alone announces. It follows that
together they announce what one watcher alone would announce, each case from one mouth.
-/
namespace CaseHerald.Watch

open Store (Memory Query)

variable {ι : Type}

/-- What has been announced about a case. -/
def announcedOf (c : String) (log : List (ι × Exchange)) : List (ι × Event) :=
  (announced log).filter fun x => decide (x.2.caseNumber = c)

theorem announcedOf_append (c : String) (log more : List (ι × Exchange)) :
    announcedOf c (log ++ more) = announcedOf c log ++ announcedOf c more := by
  simp [announcedOf]

/-! ## One step of a watcher that does not ask or announce -/

section Step

variable {live : List CaseRecord} {c : String} {jobs : List Job}

/-- A watcher over these records, before its cycle or in it, with these jobs once it has listed. -/
inductive Stands (live : List CaseRecord) (jobs : List Job) : Stage → Prop
  | ready : Stands live jobs .ready
  | fetched : Stands live jobs (.fetched live)
  | due : Stands live jobs (.due jobs)

/-- An exchange in which no records other than these are fetched, nothing fails and nothing is
deleted. -/
structure Exchange.Smooth (live : List CaseRecord) (x : Exchange) : Prop where
  fetches : ∀ l, x.fetched? = some l → l = live
  succeeds : x.succeeds
  keeps : x.deleted? = none

instance (live : List CaseRecord) (x : Exchange) : Decidable (x.Smooth live) :=
  decidable_of_iff
    ((x.fetched? = none ∨ x.fetched? = some live) ∧ x.succeeds ∧ x.deleted? = none) <| by
    refine ⟨fun ⟨hfetched, hsucceeds, hkeeps⟩ => ⟨fun l hl => ?_, hsucceeds, hkeeps⟩,
      fun h => ⟨?_, h.succeeds, h.keeps⟩⟩
    · rcases hfetched with h | h <;> rw [h] at hl <;> cases hl
      rfl
    · cases hl : x.fetched? with
      | none => exact .inl rfl
      | some l => exact .inr (congrArg some (h.fetches l hl))

/-- A watcher that stands still leaves the case alone, or makes the first write of its jobs. -/
theorem Stands.move {st st' : Stage} {i : ι} {x : Exchange} {s t : Scene}
    (h : Stands live jobs st) (hmove : Moves c st x st') (hmeets : Meets s x t)
    (hx : x.Smooth live) (hfiled : s.store.Filed) :
    (s.Agree c t ∧ announcedOf c [(i, x)] = [] ∧
      (Stands live jobs st' ∨ Stands live (Plan.job? live c (s.store.snapshot? c)).toList st')) ∨
    ∃ j rest g, jobs = j :: rest ∧ j.number = c ∧ announcedOf c [(i, x)] = [] ∧ s.Fresh g ∧
      t.store = s.store.write g j.record ∧
      (j.events = [] ∧ st' = .due rest ∨
        j.events ≠ [] ∧ st' = .asking j.record.updated g j.events rest) := by
  cases hmove with
  | fetch rests =>
    obtain rfl := hmeets.same fun _ h => by cases h
    rw [hx.fetches _ rfl]
    exact .inl ⟨.refl c _, rfl, .inl .fetched⟩
  | noFetch => cases hx.succeeds
  | list =>
    obtain ⟨rfl, rfl⟩ := hmeets.list
    cases h
    rw [Plan.jobsOf_of, Memory.find?_values hfiled]
    exact .inl ⟨.refl c _, rfl, .inr .due⟩
  | fault => cases hx.succeeds
  | @keep j rest g case silent =>
    obtain ⟨hfresh, rfl⟩ := hmeets.write
    cases h
    exact .inr ⟨j, rest, g, rfl, case, rfl, hfresh, rfl, .inl ⟨silent, rfl⟩⟩
  | @claim j rest g case loud =>
    obtain ⟨hfresh, rfl⟩ := hmeets.write
    cases h
    exact .inr ⟨j, rest, g, rfl, case, rfl, hfresh, rfl, .inr ⟨loud, rfl⟩⟩
  | first => cases h
  | second => cases h
  | announce => cases h
  | delete => cases hx.keeps
  | apart apart =>
    refine .inl ⟨apart.agree hmeets, ?_, .inl h⟩
    rw [announcedOf, announced_singleton]
    cases he : x.event? with
    | none => rfl
    | some e => simp [apart.caseNumber_ne he]

end Step

/-! ## The invariant -/

/-- A watcher whose write was the first, and what it has still to announce. -/
inductive Leads (live : List CaseRecord) (j : Job) (g : Guid) : Stage → List Event → Prop
  | asking (loud : j.events ≠ []) :
      Leads live j g (.asking j.record.updated g j.events []) j.events
  | telling {e : Event} {es : List Event} : Leads live j g (.telling (e :: es) []) (e :: es)
  | ended {st : Stage} (stands : Stands live [] st) : Leads live j g st []

/-- A watcher that has not written, or whose write was not the first. -/
inductive Trails (live : List CaseRecord) (j : Job) (g : Guid) : Stage → Prop
  | waits {st : Stage} (stands : Stands live [j] st) : Trails live j g st
  | asking {h : Guid} (loud : j.events ≠ []) (other : h ≠ g) :
      Trails live j g (.asking j.record.updated h j.events [])
  | ended {st : Stage} (stands : Stands live [] st) : Trails live j g st

/-- How far a race has come with a case that has a job: the scene, the stages of the watchers, and what
they have announced about it. -/
inductive Racing (first : Memory) (live : List CaseRecord) (c : String) (j : Job) :
    Scene → (ι → Stage) → List (ι × Event) → Prop
  /-- nobody has written -/
  | open {s : Scene} {stages : ι → Stage} (kept : s.store.snapshot? c = first.snapshot? c)
      (unclaimed : j.events ≠ [] → s.store.marker? c j.record.updated = none)
      (waits : ∀ i, Stands live [j] (stages i)) : Racing first live c j s stages []
  /-- a watcher was the first to write -/
  | claimed {s : Scene} {stages : ι → Stage} {told left : List Event} (i : ι) (g : Guid)
      (kept : s.store.record? c = some j.record)
      (claim : j.events ≠ [] → ∃ m, s.store.marker? c j.record.updated = some m ∧ m.guid = g)
      (split : told ++ left = j.events) (leads : Leads live j g (stages i) left)
      (trails : ∀ k, k ≠ i → Trails live j g (stages k)) :
      Racing first live c j s stages (told.map (Prod.mk i))

section Step

variable {first : Memory} {live : List CaseRecord} {c : String} {j : Job}

theorem leads_tell (g : Guid) (es : List Event) : Leads live j g (.tell es []) es := by
  cases es with
  | nil => exact .ended .due
  | cons e es => exact .telling

/-- Once the job is done, whoever lists has none. -/
theorem job?_of_record? (hlive : Consistent live) (hjob : Plan.job? live c (first.snapshot? c) = some j)
    {s : Memory} (hs : s.record? c = some j.record) : Plan.job? live c (s.snapshot? c) = none := by
  obtain ⟨⟨r, g⟩, ha, rfl⟩ := Option.map_eq_some_iff.1 hs
  rw [ha]
  exact Plan.job?_of_done hlive hjob g

theorem record?_of_agree {s t : Scene} (h : s.Agree c t) : t.store.record? c = s.store.record? c :=
  congrArg _ h.snapshot?_eq

/-- A write of the job by another leaves the first writer the first. -/
theorem claim_write {s : Memory} {r : CaseRecord} {u : Instant} {g h : Guid}
    (hs : ∃ m, s.marker? c u = some m ∧ m.guid = g) :
    ∃ m, (s.write h r).marker? c u = some m ∧ m.guid = g := by
  obtain ⟨m, hm, hg⟩ := hs
  refine ⟨m, ?_, hg⟩
  rw [Memory.marker?_write, hm, Option.getD_some, ite_self]

theorem announcedOf_announce {e : Event} (he : e.caseNumber = c) (i : ι)
    (reply : Except NotifyFailure Unit) : announcedOf c [(i, ⟨.announce e, reply⟩)] = [(i, e)] := by
  simp [announcedOf, announced_singleton, Exchange.event?, he]

/-- A step of the first writer. -/
theorem Leads.step {s t : Scene} {i : ι} {g : Guid} {left : List Event} {x : Exchange}
    {st st' : Stage} (h : Leads live j g st left) (hevents : ∀ e ∈ left, e.caseNumber = c)
    (hnone : Plan.job? live c (s.store.snapshot? c) = none)
    (claim : j.events ≠ [] → ∃ m, s.store.marker? c j.record.updated = some m ∧ m.guid = g)
    (hfiled : s.store.Filed) (hmove : Moves c st x st') (hmeets : Meets s x t)
    (hx : x.Smooth live) :
    s.Agree c t ∧ ∃ told left', left = told ++ left' ∧ Leads live j g st' left' ∧
      announcedOf c [(i, x)] = told.map (Prod.mk i) := by
  cases h with
  | asking loud =>
    cases hmove with
    | fetch rests => exact rests.elim
    | noFetch rests => exact rests.elim
    | fault => cases hx.succeeds
    | first =>
      obtain ⟨-, rfl⟩ := hmeets.firstWriter
      exact ⟨.refl c _, [], _, rfl, leads_tell _ _, rfl⟩
    | second other =>
      obtain ⟨rfl, rfl⟩ := hmeets.firstWriter
      obtain ⟨m, hm, hg⟩ := claim loud
      exact absurd hg (other m hm)
  | @telling e es =>
    cases hmove with
    | fetch rests => exact rests.elim
    | noFetch rests => exact rests.elim
    | fault => cases hx.succeeds
    | announce =>
      obtain rfl := hmeets.same fun _ h => by cases h
      have he : e.caseNumber = c := hevents e List.mem_cons_self
      exact ⟨.refl c _, [e], es, rfl, leads_tell _ _, announcedOf_announce he _ _⟩
  | ended stands =>
    rcases stands.move hmove hmeets hx hfiled with ⟨hagree, htold, hst⟩ | ⟨j, rest, g, hjobs, -⟩
    · rw [hnone] at hst
      exact ⟨hagree, [], [], rfl, .ended (hst.elim id id), htold⟩
    · cases hjobs

/-- A step of another watcher. -/
theorem Trails.step {s t : Scene} {i : ι} {g : Guid} {x : Exchange} {st st' : Stage}
    (h : Trails live j g st) (hnone : Plan.job? live c (s.store.snapshot? c) = none)
    (kept : s.store.record? c = some j.record)
    (claim : j.events ≠ [] → ∃ m, s.store.marker? c j.record.updated = some m ∧ m.guid = g)
    (hfiled : s.store.Filed) (hmove : Moves c st x st') (hmeets : Meets s x t)
    (hx : x.Smooth live) :
    Trails live j g st' ∧ announcedOf c [(i, x)] = [] ∧ t.store.record? c = some j.record ∧
      (j.events ≠ [] → ∃ m, t.store.marker? c j.record.updated = some m ∧ m.guid = g) := by
  have hagree : s.Agree c t → t.store.record? c = some j.record ∧
      (j.events ≠ [] → ∃ m, t.store.marker? c j.record.updated = some m ∧ m.guid = g) := by
    intro hagree
    refine ⟨(record?_of_agree hagree).trans kept, fun hloud => ?_⟩
    rw [hagree.marker?_eq]
    exact claim hloud
  cases h with
  | waits stands =>
    rcases stands.move hmove hmeets hx hfiled with ⟨hsame, htold, hst⟩ | hwrite
    · rw [hnone] at hst
      exact ⟨hst.elim .waits .ended, htold, hagree hsame⟩
    · obtain ⟨j', rest, h, hjobs, hnumber, htold, hfresh, hstore, hst⟩ := hwrite
      cases hjobs
      refine ⟨?_, htold, ?_, fun hloud => ?_⟩
      · rcases hst with ⟨-, rfl⟩ | ⟨hloud, rfl⟩
        · exact .ended .due
        · obtain ⟨m, hm, rfl⟩ := claim hloud
          exact .asking hloud (hfresh.notMarked c _ m hm).symm
      · rw [hstore, Memory.record?_write]
        exact if_pos hnumber
      · rw [hstore]
        exact claim_write (claim hloud)
  | asking loud other =>
    cases hmove with
    | fetch rests => exact rests.elim
    | noFetch rests => exact rests.elim
    | fault => cases hx.succeeds
    | first =>
      obtain ⟨hm, rfl⟩ := hmeets.firstWriter
      obtain ⟨m, hm', hg⟩ := claim loud
      rw [← hm] at hm'
      cases hm'
      exact absurd hg other
    | second =>
      obtain ⟨-, rfl⟩ := hmeets.firstWriter
      exact ⟨.ended .due, rfl, hagree (.refl c _)⟩
  | ended stands =>
    rcases stands.move hmove hmeets hx hfiled with ⟨hsame, htold, hst⟩ | ⟨j, rest, g, hjobs, -⟩
    · rw [hnone] at hst
      exact ⟨.ended (hst.elim id id), htold, hagree hsame⟩
    · cases hjobs

/-- **A step of a race keeps the invariant.** -/
theorem Racing.step [DecidableEq ι] {s t : Scene} {stages : ι → Stage} {told : List (ι × Event)} {i : ι}
    {x : Exchange} {st : Stage} (h : Racing first live c j s stages told) (hlive : Consistent live)
    (hjob : Plan.job? live c (first.snapshot? c) = some j)
    (hevents : ∀ e ∈ j.events, e.caseNumber = c) (hfiled : s.store.Filed)
    (hmove : Moves c (stages i) x st) (hmeets : Meets s x t) (hx : x.Smooth live) :
    Racing first live c j t (Function.update stages i st) (told ++ announcedOf c [(i, x)]) := by
  cases h with
  | «open» kept unclaimed waits =>
    rcases (waits i).move hmove hmeets hx hfiled with ⟨hagree, htold, hst⟩ | hwrite
    · rw [htold, List.append_nil]
      refine .open (hagree.snapshot?_eq.trans kept) ?_ ?_
      · exact fun hloud => (hagree.marker?_eq _).trans (unclaimed hloud)
      · rw [kept, hjob] at hst
        exact forall_update (hst.elim id id) fun k _ => waits k
    · obtain ⟨j', rest, g, hjobs, hnumber, htold, -, hstore, hst⟩ := hwrite
      cases hjobs
      rw [htold]
      change Racing first live c j t _ (([] : List Event).map (Prod.mk i))
      have hrecord : t.store.record? c = some j.record := by
        rw [hstore, Memory.record?_write]
        exact if_pos hnumber
      have hclaim (hloud : j.events ≠ []) :
          ∃ m, t.store.marker? c j.record.updated = some m ∧ m.guid = g := by
        rw [hstore, Memory.marker?_write, unclaimed hloud]
        exact ⟨⟨g, j.record⟩, if_pos ⟨hnumber, rfl⟩, rfl⟩
      have htrails (k : ι) (hk : k ≠ i) : Trails live j g (Function.update stages i st k) := by
        rw [Function.update_of_ne hk]
        exact .waits (waits k)
      rcases hst with ⟨hsilent, rfl⟩ | ⟨hloud, rfl⟩
      · refine .claimed i g hrecord hclaim hsilent.symm ?_ htrails
        rw [Function.update_self]
        exact .ended .due
      · refine .claimed i g hrecord hclaim (List.nil_append _) ?_ htrails
        rw [Function.update_self]
        exact .asking hloud
  | @claimed told left k g kept claim split leads trails =>
    have hnone := job?_of_record? hlive hjob kept
    by_cases hi : i = k
    · subst hi
      have hleft (e : Event) (he : e ∈ left) : e.caseNumber = c :=
        hevents e (split ▸ List.mem_append_right _ he)
      obtain ⟨hagree, more, left', rfl, hleads, htold⟩ :=
        leads.step (i := i) hleft hnone claim hfiled hmove hmeets hx
      rw [htold, ← List.map_append]
      refine .claimed i g ((record?_of_agree hagree).trans kept) (fun hloud => ?_)
        (by rw [List.append_assoc, split]) ?_ fun k hk => ?_
      · rw [hagree.marker?_eq]
        exact claim hloud
      · rw [Function.update_self]
        exact hleads
      · rw [Function.update_of_ne hk]
        exact trails k hk
    · obtain ⟨htrails, htold, hrecord, hclaim⟩ :=
        (trails i hi).step (i := i) hnone kept claim hfiled hmove hmeets hx
      rw [htold, List.append_nil]
      refine .claimed k g hrecord hclaim split ?_ fun l hl => ?_
      · rw [Function.update_of_ne (Ne.symm hi)]
        exact leads
      · exact forall_update (p := fun l st => l ≠ k → Trails live j g st) (fun _ => htrails)
          (fun l _ => trails l) l hl

end Step

/-! ## Races -/

/-- The record of a case after a plan: that of its job, if it has one. -/
def after (p : Plan) (c : String) (r : Option CaseRecord) : Option CaseRecord :=
  (p.jobsOf c).head?.elim r fun j => some j.record

/-- A race of watchers, each with one cycle over the same records, from a scene where no version that
is to be announced has been claimed. -/
structure Race [DecidableEq ι] (first : Scene) (live : List CaseRecord) (watchers : ι → Watcher)
    (log : List (ι × Exchange)) (last : Crew ι (Except Failure Summary × Watcher)) : Prop where
  filed : first.store.Filed
  consistent : Consistent live
  closures : ∀ s ∈ (Plan.of first.store.snapshots.values live).closures,
    first.store.marker? s.number .closingMark = none
  updates : ∀ u ∈ (Plan.of first.store.snapshots.values live).updates,
    first.store.marker? u.current.number u.current.updated = none
  run : Crew.Run ⟨first, fun i => cycle (watchers i)⟩ log last
  ended : last.Ended
  smooth : ∀ x ∈ log, x.2.Smooth live

namespace Race

variable [DecidableEq ι] {first : Scene} {live : List CaseRecord} {watchers : ι → Watcher}
  {log : List (ι × Exchange)} {last : Crew ι (Except Failure Summary × Watcher)}

/-- The jobs of the plan that a watcher would have if it were alone. -/
theorem jobsOf_eq (race : Race first live watchers log last) (c : String) :
    (Plan.of first.store.snapshots.values live).jobsOf c =
      (Plan.job? live c (first.store.snapshot? c)).toList := by
  rw [Plan.jobsOf_of, Memory.find?_values race.filed]

theorem mem_jobsOf (race : Race first live watchers log last) {c : String} {j : Job}
    (hj : Plan.job? live c (first.store.snapshot? c) = some j) :
    j ∈ (Plan.of first.store.snapshots.values live).jobsOf c := by
  rw [race.jobsOf_eq, hj]
  exact List.mem_singleton_self j

/-- Nobody has claimed a version that is to be announced. -/
theorem unclaimed (race : Race first live watchers log last) {c : String} {j : Job}
    (hj : Plan.job? live c (first.store.snapshot? c) = some j) (loud : j.events ≠ []) :
    first.store.marker? c j.record.updated = none := by
  obtain ⟨hmem, hc⟩ := List.mem_filter.1 (race.mem_jobsOf hj)
  have hnumber : j.number = c := by simpa using hc
  rw [← hnumber]
  exact forall_unclaimed race.closures race.updates j hmem loud

/-- A case with a job is announced by one watcher, and stored as the job says. -/
theorem of_job [Nonempty ι] (race : Race first live watchers log last) {c : String} {j : Job}
    (hj : Plan.job? live c (first.store.snapshot? c) = some j) :
    (∃ i, announcedOf c log = j.events.map (Prod.mk i)) ∧
      last.scene.store.record? c = some j.record := by
  have hevents (e : Event) (he : e ∈ j.events) : e.caseNumber = c :=
    Plan.caseNumber_of_mem_jobsOf (race.mem_jobsOf hj) he
  obtain ⟨stages, ⟨-, hracing⟩, hfollows⟩ := race.run.stages
    (fun s stages front => s.store.Filed ∧
      Racing first.store live c j s stages (announcedOf c front))
    (fun i => follows_cycle (watchers i) Stage.rests_ready)
    ⟨race.filed, .open rfl (race.unclaimed hj) fun _ => .ready⟩
    (fun hlog ⟨hfiled, h⟩ hmove hmeets => by
      have hx := race.smooth _ (hlog ▸ List.mem_append_right _ List.mem_cons_self)
      rw [announcedOf_append]
      exact ⟨hmeets.filed hfiled, h.step race.consistent hj hevents hfiled hmove hmeets hx⟩)
  have hended (i : ι) : stages i = .due [] := (race.ended.stage hfollows i).elim fun _ h => h
  generalize announcedOf c log = told at hracing
  cases hracing with
  | «open» kept unclaimed waits =>
    obtain ⟨i⟩ := ‹Nonempty ι›
    have hwaits := waits i
    rw [hended] at hwaits
    cases hwaits
  | @claimed told left i g kept claim split leads trails =>
    rw [hended] at leads
    cases leads with
    | ended =>
      rw [List.append_nil] at split
      exact ⟨⟨i, split ▸ rfl⟩, kept⟩

/-- A case without a job is not announced, and stored as before. -/
theorem of_no_job (race : Race first live watchers log last) {c : String}
    (hj : Plan.job? live c (first.store.snapshot? c) = none) :
    announcedOf c log = [] ∧ last.scene.store.record? c = first.store.record? c := by
  obtain ⟨stages, ⟨-, hkept, -, htold⟩, -⟩ := race.run.stages
    (fun s stages front => s.store.Filed ∧ s.store.snapshot? c = first.store.snapshot? c ∧
      (∀ i, Stands live [] (stages i)) ∧ announcedOf c front = [])
    (fun i => follows_cycle (watchers i) Stage.rests_ready)
    ⟨race.filed, rfl, fun _ => .ready, rfl⟩
    (fun hlog ⟨hfiled, hkept, hstands, htold⟩ hmove hmeets => by
      have hx := race.smooth _ (hlog ▸ List.mem_append_right _ List.mem_cons_self)
      rw [announcedOf_append, htold]
      rcases (hstands _).move hmove hmeets hx hfiled with ⟨hagree, hnone, hst⟩ | hwrite
      · rw [hkept, hj] at hst
        exact ⟨hmeets.filed hfiled, hagree.snapshot?_eq.trans hkept,
          forall_update (hst.elim id id) fun k _ => hstands k, hnone⟩
      · obtain ⟨j, rest, g, hjobs, -⟩ := hwrite
        cases hjobs)
  exact ⟨htold, congrArg _ hkept⟩

/-- **Exactly once.** However the watchers' steps fall, together they announce what the plan of one
calls for, each case by one watcher; and the store ends up with the same records. -/
theorem announces_plan_once [Nonempty ι] (race : Race first live watchers log last) :
    ((announced log).map Prod.snd).Perm (Plan.of first.store.snapshots.values live).events ∧
      (∀ c, ∃ i, ∀ x ∈ announced log, x.2.caseNumber = c → x.1 = i) ∧
      ∀ c, last.scene.store.record? c =
        after (Plan.of first.store.snapshots.values live) c (first.store.record? c) := by
  refine ⟨?_, fun c => ?_, fun c => ?_⟩
  · rw [List.perm_iff_count]
    intro e
    have hplan := (Plan.of first.store.snapshots.values live).filter_events e.caseNumber
    have hlog : ((announced log).map Prod.snd).filter (fun d => decide (d.caseNumber = e.caseNumber)) =
        (announcedOf e.caseNumber log).map Prod.snd := List.filter_map
    rw [← List.count_filter (p := fun d => decide (d.caseNumber = e.caseNumber)) (by simp), hlog,
      ← List.count_filter (l := (Plan.of _ _).events)
        (p := fun d => decide (d.caseNumber = e.caseNumber)) (by simp), hplan, race.jobsOf_eq]
    cases hj : Plan.job? live e.caseNumber (first.store.snapshot? e.caseNumber) with
    | none => simp [(race.of_no_job hj).1]
    | some j =>
      obtain ⟨i, htold⟩ := (race.of_job hj).1
      simp [htold, Function.comp_def]
  · have hmem (x : ι × Event) (hx : x ∈ announced log) (hc : x.2.caseNumber = c) :
        x ∈ announcedOf c log := List.mem_filter.2 ⟨hx, by simpa using hc⟩
    cases hj : Plan.job? live c (first.store.snapshot? c) with
    | none =>
      refine ⟨Classical.arbitrary ι, fun x hx hc => ?_⟩
      have hnone := hmem x hx hc
      rw [(race.of_no_job hj).1] at hnone
      cases hnone
    | some j =>
      obtain ⟨i, htold⟩ := (race.of_job hj).1
      refine ⟨i, fun x hx hc => ?_⟩
      have hsome := hmem x hx hc
      rw [htold] at hsome
      obtain ⟨e, -, rfl⟩ := List.mem_map.1 hsome
      rfl
  · rw [after, race.jobsOf_eq]
    cases hj : Plan.job? live c (first.store.snapshot? c) with
    | none => exact (race.of_no_job hj).2
    | some j => exact (race.of_job hj).2

/-- A store with two cases. -/
def twoStored : Scene :=
  ⟨(Memory.empty.write (.ofNat 100) (sample "a" 1 2)).write (.ofNat 101) (sample "b" 1 2), []⟩

/-- Case `a` is gone, case `b` has a new priority, and case `c` is new. -/
def oneOfEach : List CaseRecord := [sample "b" 2 0, sample "c" 2 2]

/-- Two watchers that list before either has written; one is the first to close, the other the first to
update. -/
def crossed : List (Bool × List CaseRecord × Guid) :=
  turnsOver (fun _ => oneOfEach)
    [true, true, false, false, true, false, true, false, true, false, true, false, true, false, false,
      true]

/-- The watchers before the race. -/
def rivals : Crew Bool (Except Failure Summary × Watcher) := ⟨twoStored, fun _ => cycle (.new false)⟩

theorem announces_plan_once_crossed :
    Race twoStored oneOfEach (fun _ : Bool => .new false) (rivals.played crossed).1
        (rivals.played crossed).2 ∧
      announced (rivals.played crossed).1 =
        [(true, .closed "a"), (false, (FieldChange.priority ⟨2⟩ ⟨0⟩).event "b")] ∧
      ((announced (rivals.played crossed).1).map Prod.snd).Perm
        (Plan.of twoStored.store.snapshots.values oneOfEach).events := by
  have race : Race twoStored oneOfEach (fun _ : Bool => .new false) (rivals.played crossed).1
      (rivals.played crossed).2 :=
    { filed := (Memory.filed_empty.write _ _).write _ _
      consistent := by decide +kernel
      closures := by decide +kernel
      updates := by decide +kernel
      run := Crew.run_played (by decide +kernel)
      ended := fun i => by cases i <;> exact ⟨_, rfl⟩
      smooth := by decide +kernel }
  exact ⟨race, by decide +kernel, race.announces_plan_once.1⟩

end Race

end CaseHerald.Watch
