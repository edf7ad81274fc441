import CaseHerald.Proofs.Recovery
import CaseHerald.Proofs.Serial

/-!
# Watchers of a source at rest

When every fetch brings the same cases and nothing fails, the first cycle of a run does all there is to
do, and no cycle after it has a job (`Settled`). The cases that are no longer open wait in the queue of
every watcher that has made a cycle (`Covers`), so the next flush of such a watcher leaves only open
cases (`Clean`). Every later act keeps this (`Keeps`), in whatever order the watchers take their turns,
and so all runs come to the same cases and the same announcements (`Serial.converges`).
-/
namespace CaseHerald.Watch

open Plan (isLive)
open Store (Memory)
open scoped List

variable {live : List CaseRecord}

/-- Exchanges in which nothing fails and every fetch brings the same cases. -/
structure Undisturbed (live : List CaseRecord) (log : List Exchange) : Prop where
  succeed : ∀ x ∈ log, x.succeeds
  same : ∀ x ∈ log, ∀ l, x.fetched? = some l → l = live

theorem Undisturbed.subset {log part : List Exchange} (h : Undisturbed live log)
    (hpart : part ⊆ log) : Undisturbed live part := by
  constructor
  · intro x hx
    exact h.succeed x (hpart hx)
  · intro x hx
    exact h.same x (hpart hx)

/-! ## Settled teams -/

section Team

variable {ι : Type}

/-- Watchers in whose queues only cases wait that are not open. -/
structure Tidy (live : List CaseRecord) (team : Team ι) : Prop where
  filed : team.scene.store.Filed
  queued : ∀ i, ∀ c ∈ (team.watchers i).queue, ¬isLive live c

/-- Watchers whose cycles have no job to do. -/
structure Settled (live : List CaseRecord) (team : Team ι) : Prop extends Tidy live team where
  idle : (Plan.of team.scene.store.snapshots.values live).jobs = []

/-- Whether every stored case that is not open waits in the queue of the watcher. -/
def Covers (live : List CaseRecord) (team : Team ι) (i : ι) : Prop :=
  ∀ c, (team.scene.store.snapshot? c).isSome → ¬isLive live c → c ∈ (team.watchers i).queue

/-- Whether only open cases are stored. -/
def Clean (live : List CaseRecord) (team : Team ι) : Prop :=
  ∀ c, (team.scene.store.snapshot? c).isSome → isLive live c

/-- **Every open case is stored** when no job is left. -/
theorem Settled.isSome_snapshot? {team : Team ι} (h : Settled live team) {c : String}
    (hc : isLive live c) : (team.scene.store.snapshot? c).isSome := by
  have hjob := (jobs_eq_nil_iff h.filed).1 h.idle c
  cases ha : team.scene.store.snapshot? c with
  | some a => rfl
  | none =>
    rw [ha, Plan.job?, Option.map_eq_none_iff, Plan.firstActive?_eq_none_iff,
      ← Plan.lastActive?_eq_none_iff] at hjob
    rw [Plan.isLive_eq, hjob] at hc
    cases hc

/-- What later acts keep of a settled team: nothing is announced, and a snapshot stays, or it is deleted
and its case is not open. -/
structure Keeps (live : List CaseRecord) (before : Team ι) (log : List Exchange) (after : Team ι) :
    Prop where
  settled : Settled live after
  silent : log.filterMap Exchange.event? = []
  stored : ∀ c, after.scene.store.snapshot? c = before.scene.store.snapshot? c ∨
    ¬isLive live c ∧ after.scene.store.snapshot? c = none
  covers : ∀ i, Covers live before i → Covers live after i

namespace Keeps

variable {a b c : Team ι} {log more : List Exchange}

theorem refl (h : Settled live a) : Keeps live a [] a :=
  ⟨h, rfl, fun _ => .inl rfl, fun _ h => h⟩

theorem trans (h : Keeps live a log b) (h' : Keeps live b more c) : Keeps live a (log ++ more) c := by
  refine ⟨h'.settled, ?_, fun d => ?_, fun i hi => h'.covers i (h.covers i hi)⟩
  · rw [List.filterMap_append, h.silent, h'.silent, List.append_nil]
  · rcases h'.stored d with heq | hgone
    · rw [heq]
      exact h.stored d
    · exact .inr hgone

theorem snapshot?_eq (h : Keeps live a log b) (clean : Clean live a) (d : String) :
    b.scene.store.snapshot? d = a.scene.store.snapshot? d := by
  rcases h.stored d with heq | ⟨hgone, hnone⟩
  · exact heq
  · have hnot : ¬(a.scene.store.snapshot? d).isSome := fun hstored => hgone (clean d hstored)
    rw [hnone, Option.not_isSome_iff_eq_none.1 hnot]

theorem clean (h : Keeps live a log b) (clean : Clean live a) : Clean live b := by
  intro d hd
  rw [h.snapshot?_eq clean] at hd
  exact clean d hd

end Keeps

/-! ## One act -/

variable [DecidableEq ι] {team : Team ι} {i : ι} {log : List Exchange} {w : Watcher} {t : Scene}

theorem Tidy.update (tidy : Tidy live team) (filed : t.store.Filed)
    (queued : ∀ c ∈ w.queue, ¬isLive live c) :
    Tidy live ⟨t, Function.update team.watchers i w⟩ := by
  refine ⟨filed, ?_⟩
  rw [Function.forall_update_iff _ fun _ (v : Watcher) => ∀ c ∈ v.queue, ¬isLive live c]
  exact ⟨queued, fun j _ => tidy.queued j⟩

/-- **A cycle leaves no job**, and the stored cases that are not open wait in the queue of its watcher. -/
theorem Tidy.settles (tidy : Tidy live team) (consistent : Consistent live)
    {r : Except Failure Summary} (runs : Runs (cycle (team.watchers i)) team.scene log (r, w) t)
    (undisturbed : Undisturbed live log) :
    Settled live ⟨t, Function.update team.watchers i w⟩ ∧
      Covers live ⟨t, Function.update team.watchers i w⟩ i ∧
      Written team.scene.store (Plan.of team.scene.store.snapshots.values live).jobs t.store ∧
      log.filterMap Exchange.event? = (Plan.of team.scene.store.snapshots.values live).jobs.flatMap
        (told team.scene.store) ∧
      (team.watchers i).queue ⊆ w.queue := by
  obtain ⟨summary, report, heq, hwritten, hannounced, hdeletions⟩ :=
    runs.cycled.of_succeeds undisturbed.succeed undisturbed.same
  obtain ⟨rfl, rfl⟩ := Prod.mk.inj heq
  have hjobs : (Plan.of team.scene.store.snapshots.values live).jobs =
      (Plan.of team.scene.store.snapshots.values live).jobs ++ [] := (List.append_nil _).symm
  have hqueue (c : String) : c ∈ ((team.watchers i).after report).queue ↔
      c ∈ (team.watchers i).queue ∨
        c ∈ (Plan.of team.scene.store.snapshots.values live).removals := by
    rw [Watcher.after, mem_foldl_enqueue, hdeletions]
  have hfiled : t.store.Filed := hwritten.filed tidy.filed
  refine ⟨⟨tidy.update hfiled fun c hc => ?_, jobs_eq_rest tidy.filed consistent hjobs hwritten⟩, ?_,
    hwritten, hannounced, fun c hc => (hqueue c).2 (.inl hc)⟩
  · rcases (hqueue c).1 hc with hold | hnew
    · exact tidy.queued i c hold
    · exact ((Plan.mem_removals _ _ _).1 hnew).2
  · intro c hstored hgone
    have hremoved : c ∈ (Plan.of t.store.snapshots.values live).removals := by
      rw [Plan.mem_removals, Memory.isStored_values hfiled]
      exact ⟨hstored, hgone⟩
    rw [mem_removals_rest tidy.filed hjobs hwritten] at hremoved
    have hwaits := (hqueue c).2 (.inr hremoved)
    simpa using hwaits

namespace Settled

/-- A later cycle writes and announces nothing. -/
theorem keeps_cycle (h : Settled live team) (consistent : Consistent live)
    {r : Except Failure Summary} (runs : Runs (cycle (team.watchers i)) team.scene log (r, w) t)
    (undisturbed : Undisturbed live log) :
    Keeps live team log ⟨t, Function.update team.watchers i w⟩ := by
  obtain ⟨hsettled, hcovers, hwritten, hannounced, hqueue⟩ :=
    h.toTidy.settles consistent runs undisturbed
  rw [h.idle] at hwritten hannounced
  have hsame : t.store = team.scene.store := hwritten.eq_of_nil
  refine ⟨hsettled, hannounced, fun c => .inl (by rw [hsame]), fun j hj c hstored hgone => ?_⟩
  rw [hsame] at hstored
  have hwaits := hj c hstored hgone
  by_cases hji : j = i
  · subst hji
    simpa using hqueue hwaits
  · simpa [Function.update_of_ne hji] using hwaits

/-- A later flush takes away cases that are not open, and all of them if all wait for it. -/
theorem keeps_flush (h : Settled live team) {r : Except Failure Nat}
    (runs : Runs (flush (team.watchers i)) team.scene log (r, w) t)
    (undisturbed : Undisturbed live log) :
    Keeps live team log ⟨t, Function.update team.watchers i w⟩ ∧
      (Covers live team i → Clean live ⟨t, Function.update team.watchers i w⟩) := by
  obtain ⟨⟨count, heq⟩, hstore, hsilent⟩ := runs.flushed.of_succeeds undisturbed.succeed
  obtain ⟨rfl, rfl⟩ := Prod.mk.inj heq
  have hfiled : t.store.Filed := hstore ▸ h.filed.foldl_delete _
  have hfind (c : String) : t.store.snapshot? c =
      if c ∈ (team.watchers i).queue then none else team.scene.store.snapshot? c := by
    rw [hstore, Memory.snapshot?_foldl_delete]
  have hclean (hi : Covers live team i) :
      Clean live ⟨t, Function.update team.watchers i { team.watchers i with queue := [] }⟩ := by
    intro c hstored
    rw [hfind] at hstored
    split at hstored
    · cases hstored
    next hout =>
      by_contra hgone
      exact hout (hi c hstored hgone)
  refine ⟨⟨⟨h.toTidy.update hfiled (List.forall_mem_nil _), ?_⟩, hsilent, fun c => ?_,
    fun j hj c hstored hgone => ?_⟩, hclean⟩
  · rw [jobs_eq_nil_iff hfiled]
    intro c
    have hjob := (jobs_eq_nil_iff h.filed).1 h.idle c
    rw [hfind]
    split
    next hin =>
      have hgone := h.queued i c hin
      rw [Plan.isLive_eq] at hgone
      rw [Plan.job?, Option.map_eq_none_iff, Plan.firstActive?_eq_none_iff,
        ← Plan.lastActive?_eq_none_iff]
      simpa using hgone
    · exact hjob
  · rw [hfind]
    split
    next hin => exact .inr ⟨h.queued i c hin, rfl⟩
    · exact .inl rfl
  · by_cases hji : j = i
    · subst hji
      exact absurd (hclean hj c hstored) hgone
    · rw [hfind] at hstored
      split at hstored
      · cases hstored
      · simpa [Function.update_of_ne hji] using hj c hstored hgone

/-- **Nothing happens in a settled team** but deletions of cases that are not open. -/
theorem keeps {last : Team ι} {acts : List (Act ι)} (h : Settled live team)
    (consistent : Consistent live) (serial : Serial team acts last)
    (undisturbed : Undisturbed live (logOf acts)) : Keeps live team (logOf acts) last := by
  induction serial with
  | start => exact .refl h
  | cycle _ i runs ih =>
    rw [logOf_append, logOf_singleton] at undisturbed ⊢
    have hkept := ih (undisturbed.subset (List.subset_append_left _ _))
    exact hkept.trans
      (hkept.settled.keeps_cycle consistent runs (undisturbed.subset (List.subset_append_right _ _)))
  | flush _ i runs ih =>
    rw [logOf_append, logOf_singleton] at undisturbed ⊢
    have hkept := ih (undisturbed.subset (List.subset_append_left _ _))
    exact hkept.trans
      (hkept.settled.keeps_flush runs (undisturbed.subset (List.subset_append_right _ _))).1

end Settled

/-! ## Whole runs -/

/-- A turn before another one, in a longer schedule. -/
theorem of_pair_sublist {α : Type} {schedule : List α} {x y z : α}
    (h : [x, y] <+ schedule ++ [z]) : [x, y] <+ schedule ∨ x ∈ schedule ∧ y = z := by
  obtain ⟨l, k, heq, hl, hk⟩ := List.sublist_append_iff.1 h
  rcases List.sublist_singleton.1 hk with rfl | rfl
  · rw [List.append_nil] at heq
    exact .inl (heq ▸ hl)
  · have hsplit : [x] ++ [y] = l ++ [z] := heq
    obtain ⟨rfl, hy⟩ := List.append_inj' hsplit rfl
    exact .inr ⟨List.singleton_sublist.1 hl, List.singleton_inj.1 hy⟩

/-- How far a run has come. -/
inductive Phase (live : List CaseRecord) (first : Team ι) (acts : List (Act ι)) (last : Team ι) : Prop
  /-- There has been no cycle. -/
  | waiting (none : ∀ i, (i, .cycle) ∉ scheduleOf acts)
      (same : last.scene.store = first.scene.store) (empty : ∀ i, (last.watchers i).queue = [])
      (silent : (logOf acts).filterMap Exchange.event? = [])
  /-- There has been a cycle. -/
  | settled (settled : Settled live last)
      (announced : (logOf acts).filterMap Exchange.event? =
        (Plan.of first.scene.store.snapshots.values live).events)
      (covers : ∀ i, (i, .cycle) ∈ scheduleOf acts → Covers live last i)
      (clean : ∀ i, [(i, .cycle), (i, .flush)] <+ scheduleOf acts → Clean live last)

namespace Phase

variable {first mid : Team ι} {acts : List (Act ι)}

/-- The first cycle announces the plan, and later ones nothing. -/
theorem cycle (h : Phase live first acts mid) (filed : first.scene.store.Filed)
    (consistent : Consistent live)
    (unclaimed : ∀ j ∈ (Plan.of first.scene.store.snapshots.values live).jobs,
      Unclaimed first.scene.store j) {r : Except Failure Summary}
    (runs : Runs (Watch.cycle (mid.watchers i)) mid.scene log (r, w) t)
    (undisturbed : Undisturbed live log) :
    Phase live first (acts ++ [⟨i, .cycle, log⟩]) ⟨t, Function.update mid.watchers i w⟩ := by
  cases h with
  | waiting none same empty silent =>
    have tidy : Tidy live mid := by
      refine ⟨same ▸ filed, fun j c hc => ?_⟩
      rw [empty j] at hc
      cases hc
    obtain ⟨hsettled, hcovers, -, hannounced, -⟩ := tidy.settles consistent runs undisturbed
    rw [same, flatMap_told_eq unclaimed] at hannounced
    refine .settled hsettled ?_ (fun j hj => ?_) fun j hj => ?_
    · rw [logOf_append, logOf_singleton, List.filterMap_append, silent, hannounced, List.nil_append]
    · have hji : j = i := by simpa [none j] using hj
      exact hji ▸ hcovers
    · rw [scheduleOf_append, scheduleOf_singleton] at hj
      rcases of_pair_sublist hj with hold | ⟨hold, -⟩
      · exact absurd (hold.subset List.mem_cons_self) (none j)
      · exact absurd hold (none j)
  | settled settled announced covers clean =>
    have hkept := settled.keeps_cycle consistent runs undisturbed
    obtain ⟨-, hcovers, -⟩ := settled.toTidy.settles consistent runs undisturbed
    refine .settled hkept.settled ?_ (fun j hj => ?_) fun j hj => ?_
    · rw [logOf_append, logOf_singleton, List.filterMap_append, hkept.silent, announced,
        List.append_nil]
    · rw [scheduleOf_append, scheduleOf_singleton] at hj
      rcases List.mem_append.1 hj with hold | hnew
      · exact hkept.covers j (covers j hold)
      · cases List.mem_singleton.1 hnew
        exact hcovers
    · rw [scheduleOf_append, scheduleOf_singleton] at hj
      rcases of_pair_sublist hj with hold | ⟨-, heq⟩
      · exact hkept.clean (clean j hold)
      · cases heq

/-- A flush of a watcher that has made a cycle leaves only open cases. -/
theorem flush (h : Phase live first acts mid) {r : Except Failure Nat}
    (runs : Runs (Watch.flush (mid.watchers i)) mid.scene log (r, w) t)
    (undisturbed : Undisturbed live log) :
    Phase live first (acts ++ [⟨i, .flush, log⟩]) ⟨t, Function.update mid.watchers i w⟩ := by
  cases h with
  | waiting none same empty silent =>
    obtain ⟨⟨count, heq⟩, hstore, hsilent⟩ := runs.flushed.of_succeeds undisturbed.succeed
    obtain ⟨rfl, rfl⟩ := Prod.mk.inj heq
    rw [empty i] at hstore
    refine .waiting (fun j => by simpa using none j) (hstore.trans same) ?_ ?_
    · rw [Function.forall_update_iff _ fun _ (v : Watcher) => v.queue = []]
      exact ⟨rfl, fun j _ => empty j⟩
    · rw [logOf_append, logOf_singleton, List.filterMap_append, silent, hsilent, List.append_nil]
  | settled settled announced covers clean =>
    obtain ⟨hkept, hclean⟩ := settled.keeps_flush runs undisturbed
    refine .settled hkept.settled ?_ (fun j hj => ?_) fun j hj => ?_
    · rw [logOf_append, logOf_singleton, List.filterMap_append, hkept.silent, announced,
        List.append_nil]
    · exact hkept.covers j (covers j (by simpa using hj))
    · rw [scheduleOf_append, scheduleOf_singleton] at hj
      rcases of_pair_sublist hj with hold | ⟨hcycle, heq⟩
      · exact hkept.clean (clean j hold)
      · cases heq
        exact hclean (covers i hcycle)

end Phase

namespace Serial

variable {first mid last : Team ι} {acts front back : List (Act ι)}

theorem phase (h : Serial first acts last) (filed : first.scene.store.Filed)
    (empty : ∀ i, (first.watchers i).queue = []) (consistent : Consistent live)
    (unclaimed : ∀ j ∈ (Plan.of first.scene.store.snapshots.values live).jobs,
      Unclaimed first.scene.store j) (undisturbed : Undisturbed live (logOf acts)) :
    Phase live first acts last := by
  induction h with
  | start => exact .waiting (fun _ => List.not_mem_nil) rfl empty rfl
  | cycle _ i runs ih =>
    rw [logOf_append, logOf_singleton] at undisturbed
    have hphase := ih (undisturbed.subset (List.subset_append_left _ _))
    exact hphase.cycle filed consistent unclaimed runs
      (undisturbed.subset (List.subset_append_right _ _))
  | flush _ i runs ih =>
    rw [logOf_append, logOf_singleton] at undisturbed
    have hphase := ih (undisturbed.subset (List.subset_append_left _ _))
    exact hphase.flush runs (undisturbed.subset (List.subset_append_right _ _))

/-- **Watchers of a source at rest converge.** Let any watchers with empty queues take turns in any
order, each with a cycle or a flush, while every fetch brings the same cases and nothing fails, and let
the store hold no marker of what the first plan announces. Once there has been a cycle, the announcements
are those of that plan, each made once. And from the time a watcher has made a cycle and after it a
flush, the snapshots are one for each open case, and nothing that follows changes a snapshot or
announces anything. -/
theorem converges (earlier : Serial first front mid) (later : Serial mid back last)
    (filed : first.scene.store.Filed) (empty : ∀ i, (first.watchers i).queue = [])
    (consistent : Consistent live)
    (closures : ∀ a ∈ (Plan.of first.scene.store.snapshots.values live).closures,
      first.scene.store.marker? a.number .closingMark = none)
    (updates : ∀ u ∈ (Plan.of first.scene.store.snapshots.values live).updates,
      first.scene.store.marker? u.current.number u.current.updated = none)
    (undisturbed : Undisturbed live (logOf (front ++ back)))
    (cycled : ∃ i, (i, .cycle) ∈ scheduleOf (front ++ back)) :
    (logOf (front ++ back)).filterMap Exchange.event? =
        (Plan.of first.scene.store.snapshots.values live).events ∧
      (Plan.of first.scene.store.snapshots.values live).events.Nodup ∧
      ((∃ i, [(i, .cycle), (i, .flush)] <+ scheduleOf front) →
        (mid.scene.store.snapshots.values.map Snapshot.number).Nodup ∧
        (∀ c, c ∈ mid.scene.store.snapshots.values.map Snapshot.number ↔ isLive live c) ∧
        (∀ c, last.scene.store.snapshot? c = mid.scene.store.snapshot? c) ∧
        (logOf back).filterMap Exchange.event? = []) := by
  have unclaimed := forall_unclaimed closures updates
  refine ⟨?_, ?_, fun ⟨i, hi⟩ => ?_⟩
  · cases (earlier.append later).phase filed empty consistent unclaimed undisturbed with
    | waiting none => exact absurd cycled.choose_spec (none _)
    | settled _ announced => exact announced
  · rw [← flatMap_told_eq unclaimed]
    exact nodup_flatMap_told _ _ _
  · rw [logOf_append] at undisturbed
    have hphase := earlier.phase filed empty consistent unclaimed
      (undisturbed.subset (List.subset_append_left _ _))
    cases hphase with
    | waiting none => exact absurd (hi.subset List.mem_cons_self) (none i)
    | settled settled announced covers clean =>
      have hclean := clean i hi
      have hkept := settled.keeps consistent later (undisturbed.subset (List.subset_append_right _ _))
      refine ⟨Memory.nodup_numbers settled.filed, fun c => ?_, hkept.snapshot?_eq hclean,
        hkept.silent⟩
      have hstored : c ∈ mid.scene.store.snapshots.values.map Snapshot.number ↔
          (mid.scene.store.snapshot? c).isSome := by
        rw [← Memory.isStored_values settled.filed]
        simp [Plan.isStored]
      rw [hstored]
      exact ⟨hclean c, settled.isSome_snapshot?⟩

end Serial

end Team

/-- Two watchers that start with empty queues, on a store with two cases. -/
def twoOnTwo : Team Bool := ⟨twoCases, fun _ => .new false⟩

/-- Both watchers make a cycle, and the second one a flush. -/
def settling : List (Act Bool) × Team Bool :=
  twoOnTwo.played [(true, .cycle, allMoved), (false, .cycle, allMoved), (false, .flush, allMoved)]

/-- The turns after that. -/
def idling : List (Act Bool) × Team Bool :=
  settling.2.played [(true, .cycle, allMoved), (true, .flush, allMoved), (false, .cycle, allMoved)]

theorem Serial.converges_crossed :
    (logOf (settling.1 ++ idling.1)).filterMap Exchange.event? =
        [.closed "1", (FieldChange.priority ⟨2⟩ ⟨0⟩).event "2"] ∧
      (∀ c, c ∈ settling.2.scene.store.snapshots.values.map Snapshot.number ↔ isLive allMoved c) ∧
      ∀ c, idling.2.scene.store.snapshot? c = settling.2.scene.store.snapshot? c := by
  have earlier : Serial twoOnTwo settling.1 settling.2 := serial_played (by decide +kernel)
  have later : Serial settling.2 idling.1 idling.2 := serial_played (by decide +kernel)
  have filed : twoCases.store.Filed := (Memory.filed_empty.write _ _).write _ _
  have undisturbed : Undisturbed allMoved (logOf (settling.1 ++ idling.1)) := by
    have hall : ∀ x ∈ logOf (settling.1 ++ idling.1), ∀ l ∈ x.fetched?, l = allMoved := by
      decide +kernel
    exact ⟨by decide +kernel, hall⟩
  have schedule : scheduleOf settling.1 = [(true, .cycle), (false, .cycle), (false, .flush)] := rfl
  have flushed : [(false, .cycle), (false, .flush)] <+ scheduleOf settling.1 := by
    rw [schedule]
    exact List.sublist_cons_self _ _
  have cycled : (true, .cycle) ∈ scheduleOf (settling.1 ++ idling.1) := by
    rw [scheduleOf_append, schedule]
    exact List.mem_cons_self
  obtain ⟨hannounced, -, hsettled⟩ := Serial.converges earlier later filed (fun _ => rfl)
    (by decide +kernel) (by decide +kernel) (by decide +kernel) undisturbed ⟨true, cycled⟩
  obtain ⟨-, hlive, hsame, -⟩ := hsettled ⟨false, flushed⟩
  exact ⟨hannounced.trans (by decide +kernel), hlive, hsame⟩

end CaseHerald.Watch
