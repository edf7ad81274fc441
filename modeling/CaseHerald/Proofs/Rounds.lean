import CaseHerald.Proofs.Crew
import CaseHerald.Proofs.History
import CaseHerald.Proofs.Perform

/-!
# Rounds of a watcher alone

A round is a cycle and then a flush. `Kept` is what holds of the store between the rounds: it has the
records to be kept after the fetches so far, and markers of no version but those up to the one that is
kept, so that a version still to come has not been claimed. `Rounds.tell_every_change` says from this
what every round announces.
-/
namespace CaseHerald.Watch

open Plan (firstActive? lastActive? isLive)
open Store (Memory markerKey)
open Text (octets)

variable {fetches : List (List CaseRecord)} {live : List CaseRecord} {c : String}

/-! ## What a round announces -/

/-- The changes of a stored case, if its time of update has moved. -/
def changesOf (live : List CaseRecord) (r : CaseRecord) : List Event :=
  match firstActive? live r.number with
  | some a => if a.updated = r.updated then [] else (classify r a).map fun d => d.event r.number
  | none => []

/-- What a round announces: the closing of the stored cases that are not open, and then the changes of
those that are. -/
def roundEvents (stored live : List CaseRecord) : List Event :=
  (stored.filter fun r => !isLive live r.number).map (fun r => Event.closed r.number) ++
    stored.flatMap (changesOf live)

theorem events_update? (distinct : (live.map CaseRecord.number).Nodup) (s : Snapshot) :
    ((Plan.update? live s).toList.map Job.updating).flatMap (·.events) = changesOf live s.record := by
  rw [Plan.update?, lastActive?_eq_firstActive? distinct, changesOf, Snapshot.number]
  cases ha : firstActive? live s.record.number with
  | none => rfl
  | some a =>
    by_cases hsame : a.updated = s.record.updated
    · simp [hsame]
    · simp [hsame, Job.updating, (Plan.firstActive?_spec ha).2.2]

theorem events_updates (distinct : (live.map CaseRecord.number).Nodup) (previous : List Snapshot) :
    ((previous.filterMap (Plan.update? live)).map Job.updating).flatMap (·.events) =
      previous.flatMap fun s => changesOf live s.record := by
  rw [List.filterMap_eq_flatMap_toList, List.map_flatMap, List.flatMap_assoc]
  simp only [events_update? distinct]

/-- The plan for a store without duplicates and closing marks announces what a round does. -/
theorem events_of {previous : List Snapshot} (stored : (previous.map Snapshot.number).Nodup)
    (unmarked : ∀ s ∈ previous, ¬s.isMarked) (distinct : (live.map CaseRecord.number).Nodup) :
    (Plan.of previous live).events = roundEvents (previous.map (·.record)) live := by
  have hclosures : (Plan.of previous live).closures =
      previous.filter fun s => !isLive live s.number := by
    simp only [Plan.of, firstOfEach_eq_self stored]
    exact List.filter_eq_self.2 fun s hs => by simpa using unmarked s (List.mem_of_mem_filter hs)
  have hupdates : (Plan.of previous live).updates = previous.filterMap (Plan.update? live) := by
    simp only [Plan.of, firstOfEach_eq_self stored]
  have hclosed : ((previous.filter fun s => !isLive live s.number).map Job.closing).flatMap
      (·.events) = ((previous.map (·.record)).filter fun r => !isLive live r.number).map
        fun r => Event.closed r.number := by
    rw [List.filter_map, List.map_map, List.flatMap_map, List.map_eq_flatMap]
    rfl
  have hcreated (l : List CaseRecord) : (l.map Job.creating).flatMap (·.events) = [] := by
    simp [List.flatMap_map, Job.creating]
  rw [Plan.events, Plan.jobs, List.flatMap_append, List.flatMap_append, hcreated, List.append_nil,
    hclosures, hupdates, hclosed, events_updates distinct, roundEvents, List.flatMap_map]

/-! ## The store between rounds -/

/-- What holds of a watcher and the store after some rounds. -/
structure Kept (fetches : List (List CaseRecord)) (w : Watcher) (s : Memory) : Prop where
  queue : w.queue = []
  filed : s.Filed
  labelled : s.Labelled
  tracked : ∀ c, Tracked fetches c (s.record? c)
  /-- no version is claimed after the one that is kept -/
  claimed : ∀ c u, (s.marker? c u).isSome →
    u ≠ .closingMark ∧ ∃ r, s.record? c = some r ∧ u ≤ r.updated

namespace Kept

variable {w : Watcher} {s : Memory}

theorem isSome_record? (h : Kept fetches w s) (c : String) :
    (s.record? c).isSome ↔ isLive (latest fetches) c := (h.tracked c).isSome_iff

theorem record?_of_mem (h : Kept fetches w s) {a : Snapshot} (ha : a ∈ s.snapshots.values) :
    s.record? a.number = some a.record := by
  rw [Memory.record?, (Memory.mem_values_iff h.filed).1 ha]
  rfl

theorem held (h : Kept fetches w s) {c : String} {r : CaseRecord} (hr : s.record? c = some r) :
    Held fetches c r := by
  have htracked := h.tracked c
  rwa [hr] at htracked

theorem tracks (h : Kept fetches w s) : Tracks fetches (s.snapshots.values.map (·.record)) where
  sorted := List.pairwise_map.2 (Memory.sorted_values h.filed)
  keys c := by
    rw [← h.isSome_record?, Memory.record?, Option.isSome_map, List.map_map, List.mem_map]
    constructor
    · rintro ⟨a, ha, rfl⟩
      have hkept := (Memory.mem_values_iff h.filed).1 ha
      exact Option.isSome_iff_exists.2 ⟨a, hkept⟩
    · intro hsome
      obtain ⟨a, ha⟩ := Option.isSome_iff_exists.1 hsome
      have hnumber := Memory.number_of_snapshot? h.filed ha
      exact ⟨a, (Memory.mem_values_iff h.filed).2 (hnumber.symm ▸ ha), hnumber⟩
  held r hr := by
    obtain ⟨a, ha, rfl⟩ := List.mem_map.1 hr
    exact h.held (h.record?_of_mem ha)

theorem unmarked (h : Kept fetches w s) (regular : Regular fetches) :
    ∀ a ∈ s.snapshots.values, ¬a.isMarked := by
  intro a ha
  obtain ⟨live, hlive, hmem, -⟩ := (h.held (h.record?_of_mem ha)).spec
  exact regular.unmarked live hlive _ hmem

/-- A case that is open in the next fetch is so at no earlier a time than that of its kept record. -/
theorem le_next (h : Kept fetches w s) (regular : Regular (fetches ++ [live])) {r a : CaseRecord}
    (hr : s.record? c = some r) (ha : firstActive? live c = some a) : r.updated ≤ a.updated := by
  obtain ⟨first, k, hheld⟩ := h.held hr
  obtain ⟨last, hlast, hsame⟩ := hheld.current
  exact hsame ▸ regular.latest_le hlast ha

/-- Nobody has claimed a version that the next round announces. -/
theorem unclaimed (h : Kept fetches w s) (regular : Regular (fetches ++ [live])) :
    ∀ j ∈ (Plan.of s.snapshots.values live).jobs, Unclaimed s j := by
  intro j hj hloud
  have hcalls : Plan.CallsFor s.snapshots.values live j.number j :=
    Plan.callsFor_of_mem_jobsOf (List.mem_filter.2 ⟨hj, decide_eq_true rfl⟩)
  rw [← Option.not_isSome_iff_eq_none]
  intro hsome
  obtain ⟨hunmarked, r, hr, hle⟩ := h.claimed _ _ hsome
  generalize hc : j.number = c at hcalls hr
  cases hcalls with
  | closing => exact hunmarked rfl
  | @updating a b stored fetched active ofCase sameCase moved =>
    have hkept := h.record?_of_mem stored
    rw [sameCase, hr] at hkept
    cases hkept
    have hnext : firstActive? live c = some b :=
      ofCase ▸ firstActive?_of_mem regular.distinct_last fetched active
    exact moved (Instant.le_antisymm hle (h.le_next regular hr hnext))
  | creating => exact hloud rfl

/-- What a round deletes is stored and not open any more. -/
theorem mem_queue_iff (hfiled : s.Filed) :
    c ∈ (Plan.of s.snapshots.values live).removals.foldl Watcher.enqueue [] ↔
      (s.record? c).isSome ∧ firstActive? live c = none := by
  rw [mem_foldl_enqueue, Plan.mem_removals, Plan.isStored_eq, Memory.find?_values hfiled,
    isLive_eq_firstActive?, Memory.record?, Option.isSome_map]
  simp

/-- A round renews the record of every case. -/
theorem record?_round (hfiled : s.Filed) (distinct : (live.map CaseRecord.number).Nodup) {t : Memory}
    (h : Written s (Plan.of s.snapshots.values live).jobs t) (c : String) :
    (((Plan.of s.snapshots.values live).removals.foldl Watcher.enqueue []).foldl Memory.delete
      t).record? c = renew live c (s.record? c) := by
  rw [Memory.record?_foldl_delete, h.record?_eq hfiled, renew]
  simp only [mem_queue_iff hfiled, Memory.record?, Option.isSome_map]
  cases ha : firstActive? live c with
  | none => cases hs : s.snapshot? c <;> simp [Plan.job?, ha]
  | some a =>
    cases hs : s.snapshot? c with
    | none => simp [Plan.job?, ha, Job.creating]
    | some b =>
      by_cases hsame : a.updated = b.record.updated <;>
        simp [Plan.job?, lastActive?_eq_firstActive? distinct, ha, hsame, Job.updating]

/-- The record that a round keeps is no older than the one before it. -/
theorem le_renew (h : Kept fetches w s) (regular : Regular (fetches ++ [live])) {r : CaseRecord}
    {u : Instant} (hr : s.record? c = some r) (hle : u ≤ r.updated)
    (hlive : firstActive? live c ≠ none) :
    ∃ a, renew live c (s.record? c) = some a ∧ u ≤ a.updated := by
  obtain ⟨a, ha⟩ := Option.ne_none_iff_exists'.1 hlive
  rw [renew, hr, ha]
  by_cases hsame : a.updated = r.updated
  · exact ⟨r, by simp [hsame], hle⟩
  · exact ⟨a, by simp [hsame], Instant.le_trans hle (h.le_next regular hr ha)⟩

/-- The job of a case that stays is to keep a fetched record. -/
theorem mem_of_mem_jobs (h : Kept fetches w s) {j : Job}
    (hj : j ∈ (Plan.of s.snapshots.values live).jobs)
    (hstays : ¬((s.record? j.number).isSome ∧ firstActive? live j.number = none)) :
    j.record ∈ live := by
  have hcalls : Plan.CallsFor s.snapshots.values live j.number j :=
    Plan.callsFor_of_mem_jobsOf (List.mem_filter.2 ⟨hj, decide_eq_true rfl⟩)
  generalize j.number = c at hcalls hstays
  cases hcalls with
  | @closing a stored ofCase _ gone =>
    refine absurd ⟨?_, Plan.firstActive?_eq_none_iff.2 gone⟩ hstays
    rw [← ofCase, h.record?_of_mem stored]
    rfl
  | updating _ fetched => exact fetched
  | creating fetched => exact fetched

/-- **A round keeps the invariant.** -/
theorem round (h : Kept fetches w s) (regular : Regular (fetches ++ [live])) {t : Memory}
    (hwritten : Written s (Plan.of s.snapshots.values live).jobs t) {w' : Watcher}
    (hqueue : w'.queue = []) :
    Kept (fetches ++ [live]) w'
      (((Plan.of s.snapshots.values live).removals.foldl Watcher.enqueue []).foldl Memory.delete
        t) where
  queue := hqueue
  filed := (hwritten.filed h.filed).foldl_delete _
  labelled := (hwritten.preserves (fun _ g r hs => hs.write g r) h.labelled).foldl_delete _
  tracked c := by
    rw [record?_round h.filed regular.distinct_last hwritten]
    exact (h.tracked c).append regular
  claimed c u hsome := by
    obtain ⟨hkept, hmark⟩ := Memory.of_marker?_foldl_delete hsome
    have hstays := fun h' => hkept ((mem_queue_iff h.filed).2 h')
    -- a marker that is left was there before the round, or a job of the round set it
    rcases (hwritten.marker?_isSome c u).1 hmark with hold | ⟨j, hj, rfl, rfl⟩
    · obtain ⟨hunmarked, r, hr, hle⟩ := h.claimed c u hold
      refine ⟨hunmarked, ?_⟩
      rw [record?_round h.filed regular.distinct_last hwritten]
      exact h.le_renew regular hr hle fun hnone => hstays ⟨by rw [hr]; rfl, hnone⟩
    · have hfetched := h.mem_of_mem_jobs hj hstays
      refine ⟨by simpa [CaseRecord.isMarked] using regular.unmarked_last _ hfetched, ?_⟩
      rw [Memory.record?_foldl_delete, if_neg hkept, hwritten.record?_of_mem (nodup_jobs _ _) hj]
      exact ⟨_, rfl, Instant.le_refl _⟩

end Kept

/-! ## Rounds -/

/-- What a round fetched, what it announced, and its results. -/
structure Round where
  live : List CaseRecord
  told : List Event
  cycled : Except Failure Summary
  flushed : Except Failure Nat

/-- Rounds of a new watcher that is alone with a store without snapshots and markers, in which neither
the source nor the store fails. -/
inductive Rounds (subscribes : Bool) : List Round → Watcher → Scene → Prop
  | start {s : Scene} (snapshots : s.store.snapshots = ∅) (markers : s.store.markers = ∅) :
      Rounds subscribes [] (.new subscribes) s
  | next {rounds : List Round} {w v w' : Watcher} {s t u : Scene} {log log' : List Exchange}
      {live : List CaseRecord} {cycled : Except Failure Summary} {flushed : Except Failure Nat}
      (earlier : Rounds subscribes rounds w s) (cycles : Runs (cycle w) s log (cycled, v) t)
      (flushes : Runs (flush v) t log' (flushed, w') u) (succeeds : ∀ x ∈ log ++ log', x.succeeds)
      (fetches : ∀ x ∈ log, ∀ l, x.fetched? = some l → l = live) :
      Rounds subscribes
        (rounds ++ [⟨live, (log ++ log').filterMap Exchange.event?, cycled, flushed⟩]) w' u

/-- One more round, with what its cycle fetches. -/
def playRound : List Round × Watcher × Scene → List CaseRecord →
    Option (List Round × Watcher × Scene)
  | (rounds, w, s), live =>
    (playAlone live s (cycle w)).bind fun p =>
      (playAlone live p.2.2 (flush p.2.1.2)).bind fun q =>
        if (p.1 ++ q.1).all Exchange.succeeds && p.1.all fun x => x.fetched?.all (· = live) then
          some (rounds ++
            [⟨live, (p.1 ++ q.1).filterMap Exchange.event?, p.2.1.1, q.2.1.1⟩], q.2.1.2, q.2.2)
        else none

theorem Rounds.playRound {subscribes : Bool} {rounds more : List Round} {w w' : Watcher}
    {s u : Scene} {live : List CaseRecord} (h : Rounds subscribes rounds w s)
    (hplay : Watch.playRound (rounds, w, s) live = some (more, w', u)) :
    Rounds subscribes more w' u := by
  obtain ⟨⟨log, ⟨cycled, v⟩, t⟩, hcycle, hplay⟩ := Option.bind_eq_some_iff.1 hplay
  obtain ⟨⟨log', ⟨flushed, w'⟩, u⟩, hflush, hplay⟩ := Option.bind_eq_some_iff.1 hplay
  split at hplay
  next hgood =>
    rw [Bool.and_eq_true, List.all_eq_true, List.all_eq_true] at hgood
    cases hplay
    refine h.next (runs_playAlone hcycle) (runs_playAlone hflush) hgood.1 fun x hx l hl => ?_
    simpa [hl] using hgood.2 x hx
  next => cases hplay

theorem Rounds.play {subscribes : Bool} {fetches : List (List CaseRecord)} {rounds more : List Round}
    {w w' : Watcher} {s u : Scene} (h : Rounds subscribes rounds w s)
    (hplay : fetches.foldlM Watch.playRound (rounds, w, s) = some (more, w', u)) :
    Rounds subscribes more w' u := by
  induction fetches generalizing rounds w s with
  | nil =>
    cases hplay
    exact h
  | cons live rest ih =>
    rw [List.foldlM_cons] at hplay
    obtain ⟨⟨_, _, _⟩, hone, hrest⟩ := Option.bind_eq_some_iff.1 hplay
    exact ih (h.playRound hone) hrest

/-- Rounds from an empty store, with what each fetches, and the watcher and the scene at their end. -/
def playedRounds (fetches : List (List CaseRecord)) : List Round × Watcher × Scene :=
  (fetches.foldlM playRound ([], .new false, ⟨Memory.empty, []⟩)).getD ([], .new false, ⟨.empty, []⟩)

theorem rounds_playedRounds {fetches : List (List CaseRecord)}
    (h : (fetches.foldlM playRound ([], .new false, ⟨Memory.empty, []⟩)).isSome) :
    Rounds false (playedRounds fetches).1 (playedRounds fetches).2.1 (playedRounds fetches).2.2 := by
  obtain ⟨p, hp⟩ := Option.isSome_iff_exists.1 h
  rw [playedRounds, hp]
  exact Rounds.play (.start rfl rfl) hp

/-- A round does what it should after the fetches: it succeeds, and announces what the records kept
until then call for. -/
structure Round.Exact (fetches : List (List CaseRecord)) (round : Round) : Prop where
  told : ∃ stored, Tracks fetches stored ∧ round.told = roundEvents stored round.live
  cycled : ∃ summary, round.cycled = .ok summary
  flushed : ∃ count, round.flushed = .ok count

namespace Kept

variable {w w' v : Watcher} {s t u : Scene} {log log' : List Exchange}

theorem start {subscribes : Bool} (snapshots : s.store.snapshots = ∅) (markers : s.store.markers = ∅) :
    Kept [] (.new subscribes) s.store where
  queue := rfl
  filed k a h := by rw [snapshots] at h; cases h
  labelled k h := by rw [markers] at h; cases h
  tracked c := by rw [Memory.record?, Memory.snapshot?, snapshots]; rfl
  claimed c u h := by rw [Memory.marker?, markers] at h; cases h

/-- A round keeps the invariant, and does what it should. -/
theorem next {cycled : Except Failure Summary} {flushed : Except Failure Nat}
    (h : Kept fetches w s.store) (regular : Regular (fetches ++ [live]))
    (cycles : Runs (cycle w) s log (cycled, v) t) (flushes : Runs (flush v) t log' (flushed, w') u)
    (succeeds : ∀ x ∈ log ++ log', x.succeeds)
    (hfetch : ∀ x ∈ log, ∀ l, x.fetched? = some l → l = live) :
    Kept (fetches ++ [live]) w' u.store ∧ Round.Exact fetches
      ⟨live, (log ++ log').filterMap Exchange.event?, cycled, flushed⟩ := by
  obtain ⟨summary, report, hr, hwritten, htold, hdeletions⟩ :=
    cycles.cycled.of_succeeds (fun x hx => succeeds x (List.mem_append_left _ hx)) hfetch
  cases hr
  obtain ⟨⟨count, hr⟩, hstore, hnone⟩ :=
    flushes.flushed.of_succeeds fun x hx => succeeds x (List.mem_append_right _ hx)
  cases hr
  constructor
  · rw [hstore, Watcher.after, h.queue, hdeletions]
    exact h.round regular hwritten rfl
  · refine ⟨⟨_, h.tracks, ?_⟩, ⟨summary, rfl⟩, ⟨count, rfl⟩⟩
    rw [List.filterMap_append, hnone, List.append_nil, htold,
      flatMap_told_eq (h.unclaimed regular)]
    exact events_of (Memory.nodup_numbers h.filed) (h.unmarked regular.of_append) regular.distinct_last

end Kept

/-- What holds of every element after those before it, and of one more. -/
theorem forall_take_append {α : Type} {P : List α → α → Prop} {l : List α} {a : α}
    (hl : ∀ n b, l[n]? = some b → P (l.take n) b) (ha : P l a) (n : Nat) (b : α)
    (hb : (l ++ [a])[n]? = some b) : P ((l ++ [a]).take n) b := by
  rcases Nat.lt_trichotomy n l.length with hlt | rfl | hlt
  · rw [List.getElem?_append_left hlt] at hb
    rw [List.take_append_of_le_length (Nat.le_of_lt hlt)]
    exact hl n b hb
  · rw [List.getElem?_concat_length] at hb
    cases hb
    rwa [List.take_left]
  · rw [List.getElem?_eq_none (by rw [List.length_append]; exact hlt)] at hb
    cases hb

namespace Rounds

variable {subscribes : Bool} {rounds : List Round} {w : Watcher} {s : Scene}

/-- The invariant holds after all rounds, and each round does what it should. -/
theorem kept (h : Rounds subscribes rounds w s) (regular : Regular (rounds.map Round.live)) :
    Kept (rounds.map Round.live) w s.store ∧
      ∀ n (round : Round), rounds[n]? = some round →
        round.Exact ((rounds.take n).map Round.live) := by
  induction h with
  | start snapshots markers => exact ⟨.start snapshots markers, fun n round hn => by simp at hn⟩
  | next earlier cycles flushes succeeds hfetch ih =>
    rw [List.map_append] at regular
    obtain ⟨hkept, hearlier⟩ := ih regular.of_append
    obtain ⟨hnext, hexact⟩ := hkept.next regular cycles flushes succeeds hfetch
    exact ⟨by rwa [List.map_append], forall_take_append
      (P := fun before round => Round.Exact (before.map Round.live) round) hearlier hexact⟩

/-- **What a watcher alone does.** After every round nothing waits for its deletion, the store keeps
exactly the open cases of the last fetch, each with the record of the earliest fetch of its present
period with its time of update, and markers of no other cases. Every round announces the closing of each
case kept before it that is not open any more, and then the changes of each that has moved, in the order
of the case numbers, and nothing else. -/
theorem tell_every_change (h : Rounds subscribes rounds w s)
    (regular : Regular (rounds.map Round.live)) :
    w.queue = [] ∧
      (∃ stored, Tracks (rounds.map Round.live) stored ∧
        s.store.snapshots.values.map (·.record) = stored ∧
        s.store.snapshots.keys = stored.map fun r => octets r.number) ∧
      (∀ k, s.store.markers.contains k → ∃ c u, k = markerKey c u ∧
        isLive (latest (rounds.map Round.live)) c) ∧
      ∀ n (round : Round), rounds[n]? = some round →
        round.Exact ((rounds.take n).map Round.live) := by
  obtain ⟨hkept, hexact⟩ := h.kept regular
  refine ⟨hkept.queue, ⟨_, hkept.tracks, rfl, ?_⟩, fun k hk => ?_, hexact⟩
  · rw [Memory.keys_eq hkept.filed, List.map_map]
    rfl
  · obtain ⟨c, u, rfl⟩ := hkept.labelled k hk
    obtain ⟨-, r, hr, -⟩ := hkept.claimed c u hk
    exact ⟨c, u, rfl, (hkept.isSome_record? c).1 (by rw [hr]; rfl)⟩

/-- A case is updated, goes away and comes back, and another is opened meanwhile. -/
def reopened : List (List CaseRecord) :=
  [[sample "a" 1 2], [sample "a" 2 0, sample "b" 2 2], [sample "b" 2 2],
    [sample "b" 2 2, sample "a" 1 2], [sample "a" 1 2]]

theorem tell_every_change_reopened :
    Rounds false (playedRounds reopened).1 (playedRounds reopened).2.1 (playedRounds reopened).2.2 ∧
      Regular ((playedRounds reopened).1.map Round.live) ∧
      (playedRounds reopened).1.map Round.told =
        [[], [(FieldChange.priority ⟨2⟩ ⟨0⟩).event "a"], [.closed "a"], [], [.closed "b"]] ∧
      (playedRounds reopened).2.1.queue = [] ∧
      Tracks reopened [sample "a" 1 2] := by
  have rounds : Rounds false (playedRounds reopened).1 (playedRounds reopened).2.1
      (playedRounds reopened).2.2 := rounds_playedRounds (by decide +kernel)
  have regular : Regular ((playedRounds reopened).1.map Round.live) :=
    ⟨by decide +kernel, by decide +kernel, by decide +kernel⟩
  obtain ⟨hqueue, ⟨stored, htracks, hstored, -⟩, -⟩ := rounds.tell_every_change regular
  have hkept : stored = [sample "a" 1 2] := by rw [← hstored]; decide +kernel
  refine ⟨rounds, regular, by decide +kernel, hqueue, ?_⟩
  rw [hkept] at htracks
  exact (congrArg (Tracks · _) (by decide +kernel)).mp htracks

end Rounds

end CaseHerald.Watch
