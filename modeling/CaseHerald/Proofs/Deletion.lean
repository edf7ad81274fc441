import CaseHerald.Proofs.Serial

/-!
# What a flush deletes

A case waits in the queue of a watcher since a cycle in which it was not open, and was stored with a
closing mark (`Serial.queued`). Nothing looks at its snapshot again before it is deleted. So a deletion
takes a snapshot without a closing mark exactly if a cycle has meanwhile found the case open again and
stored it (`deletes_live_iff`), as in `live_deleted_reopened`.
-/
namespace CaseHerald.Watch

open Plan (isLive)
open Store (Memory)

variable {ι : Type} {c : String}

/-! ## How a case gets into a queue -/

/-- Whether a case waits for its deletion since a cycle of the watcher among the acts, in which it was
not open and after which it was stored with a closing mark. -/
inductive Queued (acts : List (Act ι)) (i : ι) (c : String) (s : Scene) : Prop
  | intro (before between : List (Act ι)) {log : List Exchange} {live : List CaseRecord}
      {mid : Scene} {r : CaseRecord} (split : acts = before ++ ⟨i, .cycle, log⟩ :: between)
      (fetched : ∃ x ∈ log, x.fetched? = some live) (gone : ¬isLive live c)
      (stored : mid.store.record? c = some r) (marked : r.isMarked)
      (since : Passes mid (logOf between) s)

theorem Queued.append {acts : List (Act ι)} {i : ι} {s t : Scene} (h : Queued acts i c s)
    {act : Act ι} (passes : Passes s act.log t) : Queued (acts ++ [act]) i c t := by
  obtain ⟨before, between, hsplit, hfetched, hgone, hstored, hmarked, hsince⟩ := h
  refine .intro before (between ++ [act]) ?_ hfetched hgone hstored hmarked ?_
  · rw [hsplit, List.append_assoc, List.cons_append]
  · rw [logOf_append]
    exact hsince.append (by simpa [logOf] using passes)

variable [DecidableEq ι] {first mid last : Team ι} {acts : List (Act ι)} {i : ι}

namespace Serial

/-- **A case that waits for its deletion was not open when it was queued.** -/
theorem queued (h : Serial first acts last) (filed : first.scene.store.Filed)
    (empty : ∀ i, (first.watchers i).queue = []) (hc : c ∈ (last.watchers i).queue) :
    Queued acts i c last.scene := by
  induction h with
  | start =>
    rw [empty i] at hc
    cases hc
  | @cycle mid acts log r w t earlier j runs ih =>
    have hold (h : c ∈ (mid.watchers i).queue) : Queued (acts ++ [⟨j, .cycle, log⟩]) i c t :=
      (ih h).append runs.passes
    by_cases hij : i = j
    · subst hij
      have hc' : c ∈ w.queue := by simpa using hc
      have hfiled := earlier.passes.filed filed
      -- only a cycle without failures queues anything
      have hcycled := runs.cycled
      generalize ht : t.store = m at hcycled
      cases hcycled with
      | noFetch => exact hold hc'
      | noList => exact hold hc'
      | stopped => exact hold hc'
      | @done live _ _ report _ _ smooth planned quiet written announced deletions =>
        rw [Watcher.after, mem_foldl_enqueue, deletions] at hc'
        rcases hc' with hc' | hc'
        · exact hold hc'
        · obtain ⟨record, hrecord, hmarked⟩ := written.isMarked_of_mem_removals hfiled hc'
          have hgone := ((Plan.mem_removals _ _ _).1 hc').2
          exact .intro acts [] rfl ⟨_, List.mem_cons_self, rfl⟩ hgone (ht ▸ hrecord) hmarked .nil
    · have hc' : c ∈ (mid.watchers i).queue := by simpa [Function.update_of_ne hij] using hc
      exact hold hc'
  | @flush mid acts log r w t earlier j runs ih =>
    have hold (h : c ∈ (mid.watchers i).queue) : Queued (acts ++ [⟨j, .flush, log⟩]) i c t :=
      (ih h).append runs.passes
    by_cases hij : i = j
    · subst hij
      have hc' : c ∈ w.queue := by simpa using hc
      exact hold (runs.flushed.queue_subset hc')
    · have hc' : c ∈ (mid.watchers i).queue := by simpa [Function.update_of_ne hij] using hc
      exact hold hc'

/-- What is written is a closing mark, or an open record that the cycle has fetched. -/
theorem of_written (h : Serial first acts last) {act : Act ι} (hact : act ∈ acts) {x : Exchange}
    (hx : x ∈ act.log) {v : CaseRecord × Guid} (hv : x.written? = some v) :
    v.1.isMarked ∨ act.turn = .cycle ∧ ∃ live, (∃ y ∈ act.log, y.fetched? = some live) ∧
      v.1 ∈ live ∧ v.1.isActive := by
  induction h with
  | start => cases hact
  | cycle _ j runs ih =>
    rcases List.mem_append.1 hact with hact | hact
    · exact ih hact
    · obtain rfl := List.mem_singleton.1 hact
      obtain ⟨live, hlive, hrecord⟩ := runs.cycled.of_written hx hv
      exact hrecord.imp_right fun h => ⟨rfl, live, hlive, h⟩
  | flush _ j runs ih =>
    rcases List.mem_append.1 hact with hact | hact
    · exact ih hact
    · obtain rfl := List.mem_singleton.1 hact
      obtain ⟨d, -, hd⟩ := runs.flushed.request_eq hx
      obtain rfl := Exchange.eq_of_written? hv
      cases hd

end Serial

/-- A flush writes nothing. -/
theorem Flushed.writesOf_eq_nil {w : Watcher} {m t : Memory} {log front : List Exchange}
    {r : Except Failure Nat × Watcher} (h : Flushed w m log r t) (hfront : front ⊆ log) :
    writesOf c front = [] := by
  refine List.filterMap_eq_nil_iff.2 fun x hx => ?_
  obtain ⟨d, -, hd⟩ := h.request_eq (hfront hx)
  cases ha : x.snapshotOf? c with
  | none => rfl
  | some a =>
    obtain ⟨rfl, -⟩ := snapshotOf?_eq_some ha
    cases hd

/-- **When a deletion takes a live snapshot.** Let watchers with empty queues take turns, and then let
one of them flush its queue. Each case that it deletes waits there since a cycle of this watcher in which
the case was not open. If the case is stored when it is deleted, its snapshot has no closing mark exactly
if the last write of the case after that cycle has none; and then a cycle after it has fetched the stored
record as open. -/
theorem deletes_live_iff {s t : Scene} {front back : List Exchange} {r : Except Failure Nat}
    {w : Watcher} {a : Snapshot} (serial : Serial first acts mid)
    (filed : first.scene.store.Filed) (empty : ∀ i, (first.watchers i).queue = [])
    (flushes : Runs (flush (mid.watchers i)) mid.scene (front ++ deletion c :: back) (r, w) t)
    (here : Passes mid.scene front s) (stored : s.store.snapshot? c = some a) :
    ∃ before between log live, acts = before ++ ⟨i, .cycle, log⟩ :: between ∧
      (∃ x ∈ log, x.fetched? = some live) ∧ ¬isLive live c ∧
      (¬a.isMarked ↔ ∃ b, (writesOf c (logOf between)).getLast? = some b ∧ ¬b.isMarked) ∧
      (¬a.isMarked → ∃ act ∈ between, act.turn = .cycle ∧
        ∃ live, (∃ x ∈ act.log, x.fetched? = some live) ∧ a.record ∈ live ∧ a.record.isActive) := by
  have hdeletion : deletion c ∈ front ++ deletion c :: back :=
    List.mem_append_right _ List.mem_cons_self
  obtain ⟨d, hqueue, hd⟩ := flushes.flushed.request_eq hdeletion
  cases hd
  obtain ⟨before, between, hsplit, hfetched, hgone, hrecord, hmarked, hsince⟩ :=
    serial.queued filed empty hqueue
  have hfront : writesOf c front = [] :=
    flushes.flushed.writesOf_eq_nil (List.subset_append_left _ _)
  have hlast : (writesOf c (logOf between)).getLast? = some a ∨
      writesOf c (logOf between) = [] ∧ a.isMarked := by
    have hwrites := (hsince.append here).getLast?_writesOf stored
    rw [writesOf_append, hfront, List.append_nil] at hwrites
    refine hwrites.imp_right ?_
    rintro ⟨hnone, hold⟩
    refine ⟨hnone, ?_⟩
    -- nothing has been written, and the closing mark is there still
    rw [Memory.record?, hold] at hrecord
    have hsame : a.record = _ := Option.some.inj hrecord
    rw [Snapshot.isMarked, hsame]
    exact hmarked
  refine ⟨before, between, _, _, hsplit, hfetched, hgone, ?_, fun hlive => ?_⟩
  · rcases hlast with hlast | ⟨hnone, hold⟩
    · rw [hlast]
      constructor
      · exact fun hlive => ⟨a, rfl, hlive⟩
      · rintro ⟨b, hb, hlive⟩
        exact Option.some.inj hb ▸ hlive
    · rw [hnone]
      constructor
      · exact fun hlive => absurd hold hlive
      · rintro ⟨b, hb, -⟩
        cases hb
  · rcases hlast with hlast | ⟨-, hold⟩
    · obtain ⟨x, hx, hwrite⟩ := List.mem_filterMap.1 (List.mem_of_getLast? hlast)
      obtain ⟨rfl, -⟩ := snapshotOf?_eq_some hwrite
      obtain ⟨act, hact, hx⟩ := List.mem_flatMap.1 hx
      have hmem : act ∈ acts := by
        rw [hsplit]
        exact List.mem_append_right _ (List.mem_cons_of_mem _ hact)
      rcases serial.of_written hmem hx (v := (a.record, a.guid)) rfl with hmark | ⟨hturn, hopen⟩
      · exact absurd hmark hlive
      · exact ⟨act, hact, hturn, hopen⟩
    · exact absurd hold hlive

/-- Two watchers that start with empty queues, on an empty store. -/
def starters : Team Bool := ⟨⟨.empty, []⟩, fun _ => .new false⟩

/-- One watcher stores a case and, when it is gone, marks it as closed. Then the other one finds it
open again. -/
def reopening : List (Act Bool) × Team Bool :=
  starters.played [(true, .cycle, [sample "1" 1 2]), (true, .cycle, []),
    (false, .cycle, [sample "1" 2 2])]

/-- The flush of the first watcher after that. -/
def tardyFlush : List Exchange × (Except Failure Nat × Watcher) × Scene :=
  (playAlone [] reopening.2.scene (flush (reopening.2.watchers true))).getD
    ([], (.ok 0, .new false), reopening.2.scene)

theorem serial_reopening : Serial starters reopening.1 reopening.2 :=
  serial_played (by decide +kernel)

theorem runs_tardyFlush :
    Runs (flush (reopening.2.watchers true)) reopening.2.scene [deletion "1"] tardyFlush.2.1
      tardyFlush.2.2 := by
  have ends : (playAlone [] reopening.2.scene (flush (reopening.2.watchers true))).isSome := by
    decide +kernel
  have hlog : tardyFlush.1 = [deletion "1"] := rfl
  rw [← hlog]
  exact runs_getD (fun _ _ _ => runs_playAlone) ends _

theorem deletes_live_iff_reopened :
    ∃ before between log live, reopening.1 = before ++ ⟨true, .cycle, log⟩ :: between ∧
      (∃ x ∈ log, x.fetched? = some live) ∧ ¬isLive live "1" ∧
      (∃ b, (writesOf "1" (logOf between)).getLast? = some b ∧ ¬b.isMarked) ∧
      ∃ act ∈ between, act.turn = .cycle ∧
        ∃ live, (∃ x ∈ act.log, x.fetched? = some live) ∧ sample "1" 2 2 ∈ live := by
  have stored : reopening.2.scene.store.snapshot? "1" = some ⟨sample "1" 2 2, .ofNat 3⟩ := by
    decide +kernel
  have unmarked : ¬(⟨sample "1" 2 2, .ofNat 3⟩ : Snapshot).isMarked := by decide +kernel
  obtain ⟨before, between, log, live, hsplit, hfetched, hgone, hlive, hopen⟩ :=
    deletes_live_iff serial_reopening Memory.filed_empty (fun _ => rfl)
      runs_tardyFlush .nil stored
  obtain ⟨act, hact, hturn, live', hfetch, hmem, -⟩ := hopen unmarked
  exact ⟨before, between, log, live, hsplit, hfetched, hgone, hlive.1 unmarked,
    act, hact, hturn, live', hfetch, hmem⟩

/-- **A flush destroys a live snapshot**: the case has been found open again since it was queued, its
snapshot has no closing mark, and the flush deletes it. -/
theorem live_deleted_reopened :
    Serial starters reopening.1 reopening.2 ∧
      Runs (flush (reopening.2.watchers true)) reopening.2.scene [deletion "1"] tardyFlush.2.1
        tardyFlush.2.2 ∧
      (reopening.2.scene.store.snapshot? "1").any (fun a => !a.isMarked) ∧
      (tardyFlush.2.2.store.snapshot? "1").isNone :=
  ⟨serial_reopening, runs_tardyFlush, by decide +kernel, by decide +kernel⟩

end CaseHerald.Watch
