import CaseHerald.Proofs.Crew

/-!
# Acting on an old fetch

A cycle fetches before it lists, so what it has fetched may be older than what it lists. Every write
and every announcement stems from the watcher's last fetch (`Sourced`). A snapshot therefore goes back
in time exactly if the fetch of the writer is older than the fetch behind the snapshot, and an open
case is announced as closed only by a watcher that fetched before the case was open.
-/
namespace CaseHerald.Watch

open Store (Memory)

variable {ι : Type}

/-! ## One source -/

section Source

variable {source : Nat → List CaseRecord} {c : String}

/-- Whether the case is open in the source at a time. -/
def OpenAt (source : Nat → List CaseRecord) (c : String) (n : Nat) : Prop :=
  ∃ r ∈ source n, r.isActive ∧ r.number = c

/-- Whether the case is open in the source from one time to another without interruption. -/
def OpenFrom (source : Nat → List CaseRecord) (c : String) (m n : Nat) : Prop :=
  ∀ k, m ≤ k → k ≤ n → OpenAt source c k

/-- A source in which the time of update of a case never decreases while it is open. -/
def Steady (source : Nat → List CaseRecord) : Prop :=
  ∀ c m n, m ≤ n → OpenFrom source c m n → ∀ r ∈ source m, ∀ a ∈ source n,
    r.isActive → a.isActive → r.number = c → a.number = c → r.updated ≤ a.updated

/-- Of two records of an open case, the one that is updated earlier is the older. -/
theorem Steady.lt_iff (steady : Steady source) {m n : Nat} {r a : CaseRecord} (hr : r ∈ source m)
    (ha : a ∈ source n) (hractive : r.isActive) (haactive : a.isActive) (hrc : r.number = c)
    (hac : a.number = c) (hopen : OpenFrom source c (min m n) (max m n)) :
    r.updated < a.updated ↔ m < n ∧ r.updated ≠ a.updated := by
  constructor
  · intro hlt
    refine ⟨Nat.lt_of_not_le fun hle => ?_, fun heq => Instant.lt_irrefl _ (heq ▸ hlt)⟩
    rw [Nat.min_eq_right hle, Nat.max_eq_left hle] at hopen
    have hback := steady c n m hle hopen a ha r hr haactive hractive hac hrc
    exact Instant.le_iff_not_lt.1 hback hlt
  · rintro ⟨hlt, hne⟩
    have hmn : m ≤ n := Nat.le_of_lt hlt
    rw [Nat.min_eq_left hmn, Nat.max_eq_right hmn] at hopen
    have hle := steady c m n hmn hopen r hr a ha hractive haactive hrc hac
    rcases Instant.lt_trichotomy r.updated a.updated with h | h | h
    · exact h
    · exact absurd h hne
    · exact absurd h (Instant.le_iff_not_lt.1 hle)

end Source

/-! ## Where writes and announcements stem from -/

section Fetches

variable {source : Nat → List CaseRecord} {clock : Nat → Nat} {log more : List (ι × Exchange)} {i : ι}

/-- Whether every fetch brings what the source holds at the time of its step. -/
def FetchesFrom (source : Nat → List CaseRecord) (clock : Nat → Nat) (log : List (ι × Exchange)) :
    Prop :=
  ∀ x ∈ log.zipIdx, x.1.2.fetched? = none ∨ x.1.2.fetched? = some (source (clock x.2))

instance (source : Nat → List CaseRecord) (clock : Nat → Nat) (log : List (ι × Exchange)) :
    Decidable (FetchesFrom source clock log) :=
  inferInstanceAs (Decidable (∀ x ∈ log.zipIdx, _))

/-- Whether the last fetch of a watcher is the given step of a log. -/
def LastFetch (log : List (ι × Exchange)) (i : ι) (k : Nat) : Prop :=
  ∃ front live back, log = front ++ (i, ⟨.fetch, .ok live⟩) :: back ∧ front.length = k ∧
    ∀ x ∈ back, x.1 = i → x.2.fetched? = none

theorem LastFetch.lt {k : Nat} (h : LastFetch log i k) : k < log.length := by
  obtain ⟨front, live, back, rfl, rfl, -⟩ := h
  simp

theorem FetchesFrom.eq (h : FetchesFrom source clock log) {front back : List (ι × Exchange)}
    {x : ι × Exchange} (hlog : log = front ++ x :: back) {live : List CaseRecord}
    (hl : x.2.fetched? = some live) : live = source (clock front.length) := by
  have hmem : (x, front.length) ∈ log.zipIdx := by
    rw [hlog, List.zipIdx_append, List.zipIdx_cons]
    exact List.mem_append_right _ (by simp)
  rcases h _ hmem with hnone | hsome
  · rw [hl] at hnone
    cases hnone
  · rw [hl] at hsome
    exact Option.some.inj hsome

/-- A step that is no fetch of the watcher leaves its last fetch the last. -/
theorem LastFetch.append {k : Nat} (h : LastFetch log i k) {x : ι × Exchange}
    (hx : x.1 = i → x.2.fetched? = none) : LastFetch (log ++ [x]) i k := by
  obtain ⟨front, live, back, rfl, hk, hback⟩ := h
  refine ⟨front, live, back ++ [x], by simp, hk, fun y hy hi => ?_⟩
  rcases List.mem_append.1 hy with hy | hy
  · exact hback y hy hi
  · rw [List.mem_singleton.1 hy] at hi ⊢
    exact hx hi

end Fetches

/-! ## The stages of a watcher and its last fetch -/

section Stages

variable {live : List CaseRecord} {c : String}

/-- A job that the fetched records call for: a closure if the case is not among them, or one of them. -/
def Job.StemsFrom (live : List CaseRecord) (c : String) (j : Job) : Prop :=
  j.record.isMarked ∧ (∀ r ∈ live, r.isActive → r.number ≠ c) ∨
    j.record ∈ live ∧ j.record.isActive ∧ .closed c ∉ j.events

/-- A stage whose jobs and announcements are those that the fetched records call for. -/
def Stage.StemsFrom (live : List CaseRecord) (c : String) : Stage → Prop
  | ready => True
  | fetched l => l = live
  | due jobs => ∀ j ∈ jobs, Job.StemsFrom live c j
  | asking _ _ es rest => (.closed c ∈ es → ∀ r ∈ live, r.isActive → r.number ≠ c) ∧
      ∀ j ∈ rest, Job.StemsFrom live c j
  | telling es rest => (.closed c ∈ es → ∀ r ∈ live, r.isActive → r.number ≠ c) ∧
      ∀ j ∈ rest, Job.StemsFrom live c j

theorem stemsFrom_tell {es : List Event} {rest : List Job}
    (h : .closed c ∈ es → ∀ r ∈ live, r.isActive → r.number ≠ c)
    (hrest : ∀ j ∈ rest, Job.StemsFrom live c j) : (Stage.tell es rest).StemsFrom live c := by
  cases es with
  | nil => exact hrest
  | cons e es => exact ⟨h, hrest⟩

theorem stemsFrom_of_mem_jobsOf {previous : List Snapshot} {j : Job}
    (hj : j ∈ (Plan.of previous live).jobsOf c) : Job.StemsFrom live c j := by
  cases Plan.callsFor_of_mem_jobsOf hj with
  | closing stored ofCase unmarked gone =>
    exact .inl ⟨by simp [Job.closing, CaseRecord.isMarked, CaseRecord.mark], gone⟩
  | updating stored fetched active => exact .inr ⟨fetched, active, Plan.closed_notMem_updating _ c⟩
  | creating fetched active => exact .inr ⟨fetched, active, List.not_mem_nil⟩

/-- A move that is not a fetch keeps to what has been fetched. -/
theorem Moves.stemsFrom {st st' : Stage} {x : Exchange} (hmove : Moves c st x st')
    (hx : x.fetched? = none) (h : st.StemsFrom live c) : st'.StemsFrom live c := by
  cases hmove with
  | fetch => cases hx
  | noFetch => exact fun j hj => nomatch hj
  | list =>
    cases h
    exact fun j hj => stemsFrom_of_mem_jobsOf hj
  | fault => exact fun j hj => nomatch hj
  | keep => exact fun j hj => h j (List.mem_cons_of_mem _ hj)
  | claim =>
    refine ⟨fun hclosed => ?_, fun j hj => h j (List.mem_cons_of_mem _ hj)⟩
    rcases h _ List.mem_cons_self with hgone | hnot
    · exact hgone.2
    · exact absurd hclosed hnot.2.2
  | first => exact stemsFrom_tell h.1 h.2
  | second => exact h.2
  | announce => exact stemsFrom_tell (fun hclosed => h.1 (List.mem_cons_of_mem _ hclosed)) h.2
  | delete => exact h
  | apart => exact h

end Stages

/-! ## Runs -/

section Run

variable [DecidableEq ι] {source : Nat → List CaseRecord} {clock : Nat → Nat} {origin : String → Nat}
  {first : Scene} {c : String} {log : List (ι × Exchange)}

/-- The time of the fetch that a snapshot stems from: that of its writer's last fetch before the write,
or the time of its origin if it was there from the first. -/
inductive Behind (clock : Nat → Nat) (origin : String → Nat) (first : Scene) (c : String)
    (log : List (ι × Exchange)) (a : Snapshot) : Nat → Prop
  | kept (stored : first.store.snapshot? c = some a) : Behind clock origin first c log a (origin c)
  | written {front back : List (ι × Exchange)} {i : ι} {k : Nat}
      (wrote : log = front ++ (i, ⟨.store (.write a.record), .ok a.guid⟩) :: back)
      (fetched : LastFetch front i k) : Behind clock origin first c log a (clock k)

omit [DecidableEq ι] in
theorem Behind.append {a : Snapshot} {n : Nat} (h : Behind clock origin first c log a n)
    (x : ι × Exchange) : Behind clock origin first c (log ++ [x]) a n := by
  cases h with
  | kept stored => exact .kept stored
  | written wrote fetched => exact .written (by rw [wrote, List.append_assoc, List.cons_append]) fetched

/-- Every stage stems from the last fetch of its watcher, and every unmarked snapshot from the fetch
behind it. -/
structure Sourced (source : Nat → List CaseRecord) (clock : Nat → Nat) (origin : String → Nat)
    (first : Scene) (c : String) (s : Scene) (stages : ι → Stage) (log : List (ι × Exchange)) :
    Prop where
  stems : ∀ i, stages i = .due [] ∨
    ∃ k, LastFetch log i k ∧ (stages i).StemsFrom (source (clock k)) c
  kept : ∀ a, s.store.snapshot? c = some a → ¬a.isMarked →
    ∃ n, Behind clock origin first c log a n ∧ a.record ∈ source n ∧ a.record.isActive ∧
      a.record.number = c

omit [DecidableEq ι] in
/-- A watcher that has nothing left to do does nothing unless it fetches. -/
theorem Moves.due_nil {st : Stage} {x : Exchange} (hmove : Moves c (.due []) x st)
    (hx : x.fetched? = none) : st = .due [] := by
  cases hmove with
  | fetch => cases hx
  | _ => rfl

/-- **A step keeps to its sources.** -/
theorem Sourced.step {s t : Scene} {stages : ι → Stage} {i : ι} {x : Exchange} {st : Stage}
    {full back : List (ι × Exchange)} (h : Sourced source clock origin first c s stages log)
    (hfetches : FetchesFrom source clock full) (hfull : full = log ++ (i, x) :: back)
    (hmove : Moves c (stages i) x st) (hmeets : Meets s x t) :
    Sourced source clock origin first c t (Function.update stages i st) (log ++ [(i, x)]) where
  stems := by
    refine forall_update (p := fun k st => st = .due [] ∨
      ∃ n, LastFetch (log ++ [(i, x)]) k n ∧ st.StemsFrom (source (clock n)) c) ?_ fun k hk => ?_
    · cases hx : x.fetched? with
      | some live =>
        have hlive := hfetches.eq hfull hx
        obtain rfl := Exchange.eq_of_fetched? hx
        refine .inr ⟨log.length, ⟨log, live, [], rfl, rfl, fun _ hy => nomatch hy⟩, ?_⟩
        rw [hmove.of_fetch]
        exact hlive
      | none =>
        rcases h.stems i with hdone | ⟨k, hlast, hstems⟩
        · rw [hdone] at hmove
          exact .inl (hmove.due_nil hx)
        · exact .inr ⟨k, hlast.append fun _ => hx, hmove.stemsFrom hx hstems⟩
    · refine (h.stems k).imp_right fun ⟨n, hlast, hstems⟩ => ⟨n, hlast.append ?_, hstems⟩
      exact fun hi => absurd hi.symm hk
  kept := by
    intro a ha hunmarked
    rcases hmove.snapshot? hmeets with hsame | hnone | ⟨j, rest, g, hst, hnumber, hx, hnew⟩
    · obtain ⟨n, hbehind, hrecord⟩ := h.kept a (hsame ▸ ha) hunmarked
      exact ⟨n, hbehind.append _, hrecord⟩
    · rw [hnone] at ha
      cases ha
    · rw [hnew] at ha
      cases ha
      rcases h.stems i with hdone | ⟨k, hlast, hstems⟩
      · rw [hst] at hdone
        cases hdone
      · rw [hst] at hstems
        rcases hstems j List.mem_cons_self with hmarked | hlive
        · exact absurd hmarked.1 hunmarked
        · exact ⟨clock k, .written (by rw [hx]) hlast, hlive.1, hlive.2.1, hnumber⟩

/-- A run of watchers whose fetches all see one source, from a scene whose unmarked snapshots were
fetched from it. -/
structure OneSource (source : Nat → List CaseRecord) (clock : Nat → Nat) (origin : String → Nat)
    (first : Scene) (turns : ι → List Turn) (watchers : ι → Watcher) (log : List (ι × Exchange))
    (last : Crew ι Watcher) : Prop where
  steady : Steady source
  forward : ∀ m n, m ≤ n → clock m ≤ clock n
  fetches : FetchesFrom source clock log
  kept : ∀ c a, first.store.snapshot? c = some a → ¬a.isMarked →
    a.record ∈ source (origin c) ∧ a.record.isActive ∧ a.record.number = c
  run : (party first turns watchers).Run log last

namespace OneSource

variable {turns : ι → List Turn} {watchers : ι → Watcher} {last : Crew ι Watcher}

/-- The crew and the stages before an exchange. -/
theorem before (h : OneSource source clock origin first turns watchers log last)
    {front back : List (ι × Exchange)} {i : ι} {x : Exchange} (hlog : log = front ++ (i, x) :: back) :
    ∃ mid t stages st, (party first turns watchers).Run front mid ∧
      Sourced source clock origin first c mid.scene stages front ∧ Moves c (stages i) x st ∧
      Meets mid.scene x t := by
  refine h.run.stages_split hlog (Sourced source clock origin first c)
    (fun i => follows_takeTurns (turns i) (watchers i)) ⟨fun _ => .inl rfl, ?_⟩
    fun hfull hsourced => hsourced.step h.fetches hfull
  exact fun a ha hunmarked => ⟨origin c, .kept ha, h.kept c a ha hunmarked⟩

/-- **What an old fetch does.** Every write is a mark of a case that was not open at its watcher's last
fetch, or of a record of that fetch; in an open case such a record is older than the unmarked snapshot
that it replaces exactly if the fetch is older than the one behind the snapshot, and the times of update
differ. A case is announced as closed only by a watcher at whose last fetch it was not open: if it has
been open since some time, that fetch was before. -/
theorem goes_back_iff (h : OneSource source clock origin first turns watchers log last) :
    (∀ front i r g back, log = front ++ (i, ⟨.store (.write r), .ok g⟩) :: back →
      ∃ mid k, (party first turns watchers).Run front mid ∧ LastFetch front i k ∧
        (r.isMarked ∧ ¬OpenAt source r.number (clock k) ∨
          r ∈ source (clock k) ∧ r.isActive ∧
            ∀ a, mid.scene.store.snapshot? r.number = some a → ¬a.isMarked →
              ∃ n, Behind clock origin first r.number front a n ∧
                (OpenFrom source r.number (min (clock k) n) (max (clock k) n) →
                  (r.updated < a.record.updated ↔
                    clock k < n ∧ r.updated ≠ a.record.updated)))) ∧
      ∀ front i c reply back, log = front ++ (i, ⟨.announce (.closed c), reply⟩) :: back →
        ∃ k, LastFetch front i k ∧ ¬OpenAt source c (clock k) ∧
          ∀ n, OpenFrom source c n (clock front.length) → clock k < n := by
  constructor
  · intro front i r g back hlog
    obtain ⟨mid, t, stages, st, hrun, hsourced, hmove, -⟩ := h.before (c := r.number) hlog
    obtain ⟨j, rest, hst, rfl⟩ := hmove.of_write rfl
    rcases hsourced.stems i with hdone | ⟨k, hlast, hstems⟩
    · rw [hst] at hdone
      cases hdone
    · refine ⟨mid, k, hrun, hlast, ?_⟩
      rw [hst] at hstems
      rcases hstems j List.mem_cons_self with ⟨hmarked, hgone⟩ | ⟨hmem, hactive, -⟩
      · exact .inl ⟨hmarked, fun ⟨r, hr, hactive, hnumber⟩ => hgone r hr hactive hnumber⟩
      · refine .inr ⟨hmem, hactive, fun a ha hunmarked => ?_⟩
        obtain ⟨n, hbehind, hmem', hactive', hnumber⟩ := hsourced.kept a ha hunmarked
        exact ⟨n, hbehind, h.steady.lt_iff hmem hmem' hactive hactive' rfl hnumber⟩
  · intro front i c reply back hlog
    obtain ⟨mid, t, stages, st, hrun, hsourced, hmove, -⟩ := h.before (c := c) hlog
    obtain ⟨es, rest, hst⟩ := hmove.of_announce rfl
    rcases hsourced.stems i with hdone | ⟨k, hlast, hstems⟩
    · rw [hst] at hdone
      cases hdone
    · rw [hst] at hstems
      have hclosed : ¬OpenAt source c (clock k) := fun ⟨r, hr, hactive, hnumber⟩ =>
        hstems.1 List.mem_cons_self r hr hactive hnumber
      refine ⟨k, hlast, hclosed, fun n hopen => Nat.lt_of_not_le fun hle => hclosed ?_⟩
      exact hopen _ hle (h.forward _ _ (Nat.le_of_lt hlast.lt))

end OneSource

end Run

/-! ## A watcher that is overtaken -/

/-- A source in which case `a` is updated, and case `b` is opened and stays open. -/
def moving : Nat → List CaseRecord
  | 0 => [sample "a" 1 2]
  | _ => [sample "a" 2 2, sample "b" 2 2]

theorem steady_moving : Steady moving := by
  intro c m n hle _ r hr a ha _ _ hrc hac
  have hnumber : r.number = a.number := hrc.trans hac.symm
  cases m with
  | zero =>
    obtain rfl := List.mem_singleton.1 hr
    cases n with
    | zero =>
      obtain rfl := List.mem_singleton.1 ha
      exact Instant.le_refl _
    | succ n =>
      simp only [moving, List.mem_cons, List.not_mem_nil, or_false] at ha
      rcases ha with rfl | rfl
      · decide
      · exact absurd hnumber (by decide)
  | succ m =>
    cases n with
    | zero => exact absurd hle (by omega)
    | succ n =>
      simp only [moving, List.mem_cons, List.not_mem_nil, or_false] at hr ha
      rcases hr with rfl | rfl <;> rcases ha with rfl | rfl <;> exact Instant.le_refl _

theorem openFrom_moving (n : Nat) : OpenFrom moving "b" 1 n := by
  intro k hk _
  cases k with
  | zero => omega
  | succ k => exact ⟨sample "b" 2 2, by simp [moving], rfl, rfl⟩

/-- The source moves at the fourth step. -/
def tick (k : Nat) : Nat := if k < 4 then 0 else 1

/-- One watcher with one cycle, and one with two. -/
def chase : Crew Bool Watcher :=
  party ⟨Memory.empty, []⟩ (fun slow => if slow then [.cycle] else [.cycle, .cycle])
    fun _ => .new false

/-- One fetches first; the other runs both its cycles before the first lists. -/
def overtaken : List (Bool × List CaseRecord × Guid) :=
  turnsOver (fun k => moving (tick k))
    [true, false, false, false, false, false, false, false, true, true, true, true, true]

theorem oneSource_overtaken :
    OneSource moving tick (fun _ => 0) ⟨Memory.empty, []⟩
      (fun slow => if slow then [.cycle] else [.cycle, .cycle]) (fun _ => .new false)
      (chase.played overtaken).1 (chase.played overtaken).2 where
  steady := steady_moving
  forward m n h := by
    unfold tick
    split <;> split <;> omega
  fetches := by decide +kernel
  kept c a ha := by cases ha
  run := Crew.run_played (by decide +kernel)

/-- The closing announcement stems from a fetch before case `b` was open. -/
theorem goes_back_iff_overtaken :
    ∃ k, LastFetch (chase.played (overtaken.take 11)).1 true k ∧ ¬OpenAt moving "b" (tick k) ∧
      tick k < 1 := by
  obtain ⟨k, hlast, hgone, hbefore⟩ :=
    oneSource_overtaken.goes_back_iff.2 (chase.played (overtaken.take 11)).1 true "b" (.ok ())
      [(true, ⟨.store (.write (sample "a" 1 2)), .ok (.ofNat 13)⟩)] rfl
  exact ⟨k, hlast, hgone, hbefore 1 (openFrom_moving _)⟩

/-- **An old fetch undoes a newer state**: a watcher that fetched before the source moved stores the old
record of case `a` over the new one, and announces case `b` as closed, which is open ever since it was
first stored. -/
theorem undone_overtaken :
    OneSource moving tick (fun _ => 0) ⟨Memory.empty, []⟩
        (fun slow => if slow then [.cycle] else [.cycle, .cycle]) (fun _ => .new false)
        (chase.played overtaken).1 (chase.played overtaken).2 ∧
      (∀ x ∈ (chase.played overtaken).1, x.2.deleted? = none) ∧
      (chase.played overtaken).1 = (chase.played (overtaken.take 12)).1 ++
        [(true, ⟨.store (.write (sample "a" 1 2)), .ok (.ofNat 13)⟩)] ∧
      (chase.played (overtaken.take 12)).2.scene.store.record? "a" = some (sample "a" 2 2) ∧
      (sample "a" 1 2).updated < (sample "a" 2 2).updated ∧
      announced (chase.played overtaken).1 = [(true, .closed "b")] ∧
      (chase.played (overtaken.take 7)).2.scene.store.record? "b" = none ∧ tick 7 = 1 ∧
      ∀ n, OpenFrom moving "b" 1 n :=
  ⟨oneSource_overtaken, by decide +kernel, rfl, by decide +kernel, by decide, by decide +kernel,
    by decide +kernel, rfl, openFrom_moving⟩

end CaseHerald.Watch
