import CaseHerald.Proofs.Crew
import Mathlib.Data.List.DropRight
import Mathlib.Data.List.Nodup

/-!
# What a store answers, from its history

A `Chronicle` is everything that has been asked of a store since it was empty, with the replies. The
writes of a case after its last deletion (`writesOf`, `since`) say all that a store tells of the case:
its snapshot is the last of them, and the marker of a version is the first with this time of update.
`Meets.revise` says what one exchange does to the two views, `Chronicle.snapshot?_eq` and
`Chronicle.marker?_eq` what a whole chronicle has done, and `Chronicle.answers_from_history` what the
store answers.
-/
namespace CaseHerald.Watch

open Store (Memory Query markerKey)
open Text (octets)

variable {c : String} {log : List Exchange} {s t : Scene}

/-! ## Writes and deletions of a case -/

/-- The snapshot that an exchange leaves, if it writes the case. -/
def Exchange.snapshotOf? (c : String) (x : Exchange) : Option Snapshot :=
  x.written?.bind fun w => if w.1.number = c then some ⟨w.1, w.2⟩ else none

/-- The snapshots that the writes of the case leave, in order. -/
def writesOf (c : String) (log : List Exchange) : List Snapshot :=
  log.filterMap (·.snapshotOf? c)

/-- What comes after the last deletion of the case, or everything if there is none. -/
def since (c : String) (log : List Exchange) : List Exchange :=
  log.rtakeWhile fun x => x.deleted? ≠ some c

/-- The first write of the version after the last deletion of the case. -/
def firstOf (c : String) (u : Instant) (log : List Exchange) : Option Marker :=
  ((writesOf c (since c log)).find? fun a => a.record.updated = u).map fun a => ⟨a.guid, a.record⟩

@[simp] theorem writesOf_append (c : String) (log more : List Exchange) :
    writesOf c (log ++ more) = writesOf c log ++ writesOf c more := List.filterMap_append

theorem snapshotOf?_eq_some {x : Exchange} {a : Snapshot} (h : x.snapshotOf? c = some a) :
    x = ⟨.store (.write a.record), .ok a.guid⟩ ∧ a.number = c := by
  obtain ⟨⟨r, g⟩, hw, ha⟩ := Option.bind_eq_some_iff.1 h
  split at ha
  next hr =>
    cases ha
    exact ⟨Exchange.eq_of_written? hw, hr⟩
  next => cases ha

theorem writesOf_singleton (c : String) (x : Exchange) :
    writesOf c [x] = (x.snapshotOf? c).toList := by
  cases h : x.snapshotOf? c <;> simp [writesOf, h]

theorem since_concat (c : String) (log : List Exchange) (x : Exchange) :
    since c (log ++ [x]) = if x.deleted? = some c then [] else since c log ++ [x] := by
  unfold since
  rw [List.rtakeWhile_concat]
  by_cases h : x.deleted? = some c <;> simp [h]

theorem since_append_of_kept (c : String) (front : List Exchange) {back : List Exchange}
    (h : ∀ x ∈ back, x.deleted? ≠ some c) : since c (front ++ back) = since c front ++ back := by
  induction back using List.reverseRecOn with
  | nil => simp
  | append_singleton back x ih =>
    rw [← List.append_assoc, since_concat, if_neg (h x (by simp)), ih fun y hy => h y (by simp [hy]),
      List.append_assoc]

theorem since_append_of_deleted (c : String) (front : List Exchange) {back : List Exchange}
    {x : Exchange} (hx : x ∈ back) (h : x.deleted? = some c) :
    since c (front ++ back) = since c back := by
  induction back using List.reverseRecOn with
  | nil => cases hx
  | append_singleton back y ih =>
    rw [← List.append_assoc, since_concat, since_concat]
    by_cases hy : y.deleted? = some c
    · rw [if_pos hy, if_pos hy]
    · rw [if_neg hy, if_neg hy]
      rcases List.mem_append.1 hx with hx | hx
      · rw [ih hx]
      · exact absurd (List.mem_singleton.1 hx ▸ h) hy

/-! ## One exchange -/

/-- What an exchange does to the snapshot and the markers of a case: it deletes the case, or writes it,
or leaves its snapshot alone. Then it may only remove markers, by deleting a case whose number goes on
with a NUL character. -/
theorem Meets.revise {x : Exchange} (h : Meets s x t) (c : String) :
    x.deleted? = some c ∧ x.snapshotOf? c = none ∧ t.store.snapshot? c = none ∧
        (∀ u, t.store.marker? c u = none) ∨
      (∃ a, x.deleted? = none ∧ x.snapshotOf? c = some a ∧ t.store.snapshot? c = some a ∧
        ∀ u, t.store.marker? c u =
          if a.record.updated = u then some ((s.store.marker? c u).getD ⟨a.guid, a.record⟩)
          else s.store.marker? c u) ∨
      x.deleted? ≠ some c ∧ x.snapshotOf? c = none ∧
        t.store.snapshot? c = s.store.snapshot? c ∧
        ∀ u, t.store.marker? c u = s.store.marker? c u ∨
          '\x00' ∈ c.toList ∧ t.store.marker? c u = none := by
  obtain ⟨q, reply⟩ := x
  have hstill (hx : (Exchange.mk q reply).deleted? = none)
      (hw : (Exchange.mk q reply).written? = none)
      (hs : t.store.snapshot? c = s.store.snapshot? c)
      (hm : t.store.marker? c = s.store.marker? c) :
      (Exchange.mk q reply).deleted? ≠ some c ∧ (Exchange.mk q reply).snapshotOf? c = none ∧
        t.store.snapshot? c = s.store.snapshot? c ∧
        ∀ u, t.store.marker? c u = s.store.marker? c u ∨
          '\x00' ∈ c.toList ∧ t.store.marker? c u = none :=
    ⟨by simp [hx], by simp [Exchange.snapshotOf?, hw], hs, fun u => .inl (congrFun hm u)⟩
  cases q with
  | store q =>
    cases reply with
    | error f =>
      exact .inr (.inr (hstill (by cases q <;> rfl) (by cases q <;> rfl) (by rw [h.error])
        (by rw [h.error])))
    | ok a =>
      cases q with
      | write r =>
        obtain ⟨-, rfl⟩ := Meets.write (g := a) h
        by_cases hr : r.number = c
        · refine .inr (.inl ⟨⟨r, a⟩, rfl, ?_, ?_, fun u => ?_⟩)
          · simp [Exchange.snapshotOf?, Exchange.written?, hr]
          · exact (Memory.snapshot?_write _ _ r c).trans (if_pos hr)
          · refine (Memory.marker?_write _ _ r c u).trans ?_
            simp [hr]
        · refine .inr (.inr ⟨by simp [Exchange.deleted?], ?_, ?_, fun u => .inl ?_⟩)
          · simp [Exchange.snapshotOf?, Exchange.written?, hr]
          · exact (Memory.snapshot?_write _ _ r c).trans (if_neg hr)
          · exact (Memory.marker?_write _ _ r c u).trans (if_neg fun h => hr h.1)
      | delete d =>
        obtain rfl := h.delete
        by_cases hd : d = c
        · subst hd
          refine .inl ⟨rfl, rfl, ?_, fun u => Memory.marker?_delete_self _ _ _⟩
          rw [Memory.snapshot?_delete, if_pos rfl]
        · refine .inr (.inr ⟨by simpa [Exchange.deleted?] using hd, rfl, ?_, fun u => ?_⟩)
          · rw [Memory.snapshot?_delete, if_neg hd]
          · rw [Memory.marker?_delete]
            split
            next hmarker =>
              refine .inr ⟨Decidable.not_not.1 fun hc => hd ?_, rfl⟩
              exact hmarker.resolve_right (Store.not_prolongs hc)
            next => exact .inl rfl
      | _ =>
        -- no other answer touches snapshots or markers
        cases h with
        | step g _ answer => cases answer; exact .inr (.inr (hstill rfl rfl rfl rfl))
        | other apart => exact absurd rfl (apart _)
  | _ => exact .inr (.inr (hstill rfl rfl (by rw [h.same fun _ h => by cases h])
      (by rw [h.same fun _ h => by cases h])))

/-- A snapshot is that of the last write of its case, or has been there all the time. -/
theorem Passes.getLast?_writesOf {a : Snapshot} (h : Passes s log t)
    (ha : t.store.snapshot? c = some a) :
    (writesOf c log).getLast? = some a ∨ writesOf c log = [] ∧ s.store.snapshot? c = some a := by
  induction h with
  | nil => exact .inr ⟨rfl, ha⟩
  | @snoc s t log x _ meets ih =>
    rw [writesOf_append, writesOf_singleton]
    rcases meets.revise c with ⟨-, -, hs, -⟩ | ⟨b, -, hb, hs, -⟩ | ⟨-, hw, hs, -⟩
    · rw [hs] at ha
      cases ha
    · rw [hs] at ha
      cases ha
      rw [hb, Option.toList_some, List.getLast?_concat]
      exact .inl rfl
    · rw [hw, Option.toList_none, List.append_nil]
      exact ih (hs ▸ ha)

/-! ## Chronicles -/

/-- Everything that has been asked of a store since it was empty, with the replies, and the scene after
it. Meanwhile writing may be forbidden and allowed again. -/
inductive Chronicle : List Exchange → Scene → Prop
  | start : Chronicle [] ⟨Memory.empty, []⟩
  | next {log : List Exchange} {s t : Scene} {x : Exchange} (earlier : Chronicle log s)
      (meets : Meets s x t) : Chronicle (log ++ [x]) t
  | switch {log : List Exchange} {s : Scene} (writable : Bool) (earlier : Chronicle log s) :
      Chronicle log ⟨{ s.store with writable }, s.minted⟩

/-- The tokens of the writes, in order. -/
def tokensOf (log : List Exchange) : List Guid := log.filterMap fun x => x.written?.map Prod.snd

@[simp] theorem tokensOf_append (log more : List Exchange) :
    tokensOf (log ++ more) = tokensOf log ++ tokensOf more := List.filterMap_append

theorem guid_mem_tokensOf {a : Snapshot} (h : a ∈ writesOf c log) : a.guid ∈ tokensOf log := by
  obtain ⟨x, hx, ha⟩ := List.mem_filterMap.1 h
  obtain ⟨rfl, -⟩ := snapshotOf?_eq_some ha
  exact List.mem_filterMap.2 ⟨_, hx, rfl⟩

theorem guid_mem_tokensOf_since {a : Snapshot} (h : a ∈ writesOf c (since c log)) :
    a.guid ∈ tokensOf log := by
  obtain ⟨x, hx, ha⟩ := List.mem_filterMap.1 (guid_mem_tokensOf h)
  exact List.mem_filterMap.2 ⟨x, (List.rtakeWhile_suffix _ _).subset hx, ha⟩

namespace Chronicle

theorem filed (h : Chronicle log s) : s.store.Filed := by
  induction h with
  | start => exact Memory.filed_empty
  | next _ meets ih => exact meets.filed ih
  | switch _ _ ih => exact ih

theorem labelled (h : Chronicle log s) : s.store.Labelled := by
  induction h with
  | start => exact fun k hk => by cases hk
  | next _ meets ih => exact meets.labelled ih
  | switch _ _ ih => exact ih

/-- **The snapshot of a case is that of its last write after its last deletion.** -/
theorem snapshot?_eq (h : Chronicle log s) (c : String) :
    s.store.snapshot? c = (writesOf c (since c log)).getLast? := by
  induction h with
  | start => rfl
  | switch _ _ ih => exact ih
  | @next log s t x _ meets ih =>
    rw [since_concat]
    rcases meets.revise c with ⟨hx, -, hs, -⟩ | ⟨a, hx, ha, hs, -⟩ | ⟨hx, hw, hs, -⟩
    · rw [hs, if_pos hx]
      rfl
    · rw [hs, hx, if_neg (by simp), writesOf_append, writesOf_singleton, ha, Option.toList_some,
        List.getLast?_concat]
    · rw [hs, ih, if_neg hx, writesOf_append, writesOf_singleton, hw, Option.toList_none,
        List.append_nil]

/-- Whether no case with a NUL character in its number is written. -/
def Plain (log : List Exchange) : Prop :=
  ∀ x ∈ log, ∀ w ∈ x.written?, '\x00' ∉ w.1.number.toList

theorem Plain.writesOf_eq_nil (h : Plain log) (hc : '\x00' ∈ c.toList) {more : List Exchange}
    (hmore : more ⊆ log) : writesOf c more = [] := by
  refine List.filterMap_eq_nil_iff.2 fun x hx => ?_
  rw [← Option.not_isSome_iff_eq_none, Option.isSome_iff_exists]
  rintro ⟨a, ha⟩
  obtain ⟨rfl, rfl⟩ := snapshotOf?_eq_some ha
  exact h _ (hmore hx) _ rfl hc

/-- **The marker of a version is that of its first write after the last deletion of the case.** -/
theorem marker?_eq (h : Chronicle log s) (plain : Plain log) (c : String) (u : Instant) :
    s.store.marker? c u = firstOf c u log := by
  induction h with
  | start => rfl
  | switch _ _ ih => exact ih plain
  | @next log s t x _ meets ih =>
    have hs := ih fun y hy => plain y (List.mem_append_left _ hy)
    unfold firstOf
    rw [since_concat]
    rcases meets.revise c with ⟨hx, -, -, hm⟩ | ⟨a, hx, ha, -, hm⟩ | ⟨hx, hw, -, hm⟩
    · rw [hm, if_pos hx]
      rfl
    · rw [if_neg (by simp [hx]), writesOf_append, writesOf_singleton, ha, hm, hs, firstOf,
        List.find?_append]
      cases hfirst : (writesOf c (since c log)).find? fun a => a.record.updated = u with
      | none => by_cases hu : a.record.updated = u <;> simp [hu]
      | some b => simp
    · rw [if_neg hx, writesOf_append, writesOf_singleton, hw, Option.toList_none, List.append_nil]
      rcases hm u with hm | ⟨hc, hm⟩
      · rw [hm, hs]
        rfl
      · have hnone : writesOf c (since c log) = [] := plain.writesOf_eq_nil hc fun y hy =>
          List.mem_append_left _ ((List.rtakeWhile_suffix _ _).subset hy)
        rw [hm, hnone]
        rfl

/-- Every token is given out once. -/
theorem nodup_tokensOf (h : Chronicle log s) :
    (tokensOf log).Nodup ∧ ∀ g ∈ tokensOf log, g ∈ s.minted := by
  induction h with
  | start => exact ⟨.nil, fun g hg => nomatch hg⟩
  | switch _ _ ih => exact ih
  | @next log s t x _ meets ih =>
    obtain ⟨hnodup, hminted⟩ := ih
    have hold (g : Guid) (hg : g ∈ tokensOf log) : g ∈ t.minted := meets.minted (hminted g hg)
    rw [tokensOf_append]
    cases hw : x.written? with
    | none =>
      have hnone : tokensOf [x] = [] := by simp [tokensOf, hw]
      rw [hnone, List.append_nil]
      exact ⟨hnodup, hold⟩
    | some w =>
      have hone : tokensOf [x] = [w.2] := by simp [tokensOf, hw]
      obtain rfl := Exchange.eq_of_written? hw
      obtain ⟨hfresh, rfl⟩ := meets.write
      rw [hone]
      refine ⟨List.nodup_append.2 ⟨hnodup, List.nodup_singleton _, ?_⟩, fun g hg => ?_⟩
      · rintro g hg _ hg' rfl
        exact hfresh.notMinted (List.mem_singleton.1 hg' ▸ hminted g hg)
      · rcases List.mem_append.1 hg with hg | hg
        · exact hold g hg
        · rw [List.mem_singleton.1 hg]
          exact List.mem_cons_self

/-- **A write is the first of its version** exactly if no earlier one is of the version since the last
deletion of the case, and the case has not been deleted after it. -/
theorem firstOf_iff (h : Chronicle log s) {front back : List Exchange} {r : CaseRecord} {g : Guid}
    (hlog : log = front ++ ⟨.store (.write r), .ok g⟩ :: back) :
    (firstOf r.number r.updated log).map (·.guid) = some g ↔
      (∀ x ∈ back, x.deleted? ≠ some r.number) ∧
        ∀ a ∈ writesOf r.number (since r.number front), a.record.updated ≠ r.updated := by
  have htokens : tokensOf log = tokensOf front ++ g :: tokensOf back := by
    rw [hlog, tokensOf_append]
    rfl
  have hnodup := h.nodup_tokensOf.1
  rw [htokens, List.nodup_append] at hnodup
  obtain ⟨-, hback, hfront⟩ := hnodup
  -- whatever write is found with another token is not this one
  have hother {l : List Snapshot} {a : Snapshot}
      (ha : l.find? (fun a => a.record.updated = r.updated) = some a) (hl : a ∈ l → a.guid ≠ g) :
      ¬((l.find? fun a => a.record.updated = r.updated).map fun a =>
        (⟨a.guid, a.record⟩ : Marker)).map (·.guid) = some g := by
    rw [ha]
    simpa using hl (List.mem_of_find?_eq_some ha)
  unfold firstOf
  by_cases hkept : ∀ x ∈ back, x.deleted? ≠ some r.number
  · have hsince : writesOf r.number (since r.number log) =
        writesOf r.number (since r.number front) ++ ⟨r, g⟩ :: writesOf r.number back := by
      have hafter : ∀ x ∈ (⟨.store (.write r), .ok g⟩ : Exchange) :: back,
          x.deleted? ≠ some r.number := by
        intro x hx
        rcases List.mem_cons.1 hx with rfl | hx
        · simp [Exchange.deleted?]
        · exact hkept x hx
      rw [hlog, since_append_of_kept _ _ hafter, writesOf_append]
      simp [writesOf, Exchange.snapshotOf?, Exchange.written?]
    rw [hsince, List.find?_append]
    cases hfirst : (writesOf r.number (since r.number front)).find?
        fun a => a.record.updated = r.updated with
    | none =>
      have hnone := List.find?_eq_none.1 hfirst
      exact iff_of_true (by simp) ⟨hkept, fun a ha => by simpa using hnone a ha⟩
    | some a =>
      refine iff_of_false ?_ fun hnone => hnone.2 a (List.mem_of_find?_eq_some hfirst) ?_
      · rw [Option.some_or, ← hfirst]
        refine hother hfirst fun ha heq => ?_
        exact hfront _ (guid_mem_tokensOf_since ha) _ List.mem_cons_self heq
      · simpa using List.find?_some hfirst
  · refine iff_of_false ?_ fun h => hkept h.1
    obtain ⟨x, hx, hdeleted⟩ : ∃ x ∈ back, x.deleted? = some r.number := by simpa using hkept
    rw [hlog, since_append_of_deleted _ _ (List.mem_cons_of_mem _ hx) hdeleted]
    have hsince : since r.number ((⟨.store (.write r), .ok g⟩ : Exchange) :: back) =
        since r.number back := since_append_of_deleted _ [_] hx hdeleted
    rw [hsince]
    cases hfirst : (writesOf r.number (since r.number back)).find?
        fun a => a.record.updated = r.updated with
    | none => simp
    | some a =>
      rw [← hfirst]
      refine hother hfirst fun ha heq => ?_
      exact (List.nodup_cons.1 hback).1 (heq ▸ guid_mem_tokensOf_since ha)

/-- Exchanges that the store goes on with. -/
theorem append {more : List Exchange} (h : Chronicle log s) (passes : Passes s more t) :
    Chronicle (log ++ more) t := by
  induction passes with
  | nil => rwa [List.append_nil]
  | snoc _ meets ih =>
    rw [← List.append_assoc]
    exact ih.next meets

theorem mem_values_iff (h : Chronicle log s) (a : Snapshot) :
    a ∈ s.store.snapshots.values ↔ (writesOf a.number (since a.number log)).getLast? = some a := by
  rw [Memory.mem_values_iff h.filed, h.snapshot?_eq]

/-- A marker is kept only while the snapshot of its case is. -/
theorem isSome_snapshot?_of_marker? (h : Chronicle log s) (plain : Plain log) {u : Instant}
    (hm : (s.store.marker? c u).isSome) : (s.store.snapshot? c).isSome := by
  rw [h.marker?_eq plain, firstOf, Option.isSome_map, List.find?_isSome] at hm
  obtain ⟨a, ha, -⟩ := hm
  rw [h.snapshot?_eq, List.getLast?_isSome]
  exact List.ne_nil_of_mem ha

/-- **What a store answers.** It lists, in the byte order of the numbers, one snapshot for each case
whose last write or deletion was a write, and that is the snapshot of this write. As the first writer of
a version it names the earliest write of it after the last deletion of the case. So a write finds its
own token there exactly while its case is not deleted, and only if no earlier write of the version would
be found; a marker is kept only as long as the snapshot of its case is, and what fails changes nothing. -/
theorem answers_from_history (h : Chronicle log s) (plain : Plain log) :
    (∃ stored : List Snapshot, (∀ g, s.store.answer g .list = (.ok stored, s.store)) ∧
      stored.Pairwise (fun a b => octets a.number < octets b.number) ∧
      ∀ a, a ∈ stored ↔ (writesOf a.number (since a.number log)).getLast? = some a) ∧
    (∀ g c u, s.store.answer g (.firstWriter c u) = (.ok (firstOf c u log), s.store)) ∧
    (∀ front r g back, log = front ++ ⟨.store (.write r), .ok g⟩ :: back →
      ((firstOf r.number r.updated log).map (·.guid) = some g ↔
        (∀ x ∈ back, x.deleted? ≠ some r.number) ∧
          ∀ a ∈ writesOf r.number (since r.number front), a.record.updated ≠ r.updated)) ∧
    (∀ k, s.store.markers.contains k →
      ∃ c u, k = markerKey c u ∧ (s.store.snapshot? c).isSome) ∧
    ∀ g q f m, s.store.answer g q = (.error f, m) → m = s.store := by
  refine ⟨⟨s.store.snapshots.values, fun g => rfl, Memory.sorted_values h.filed, h.mem_values_iff⟩,
    fun g c u => ?_, fun front r g back => h.firstOf_iff, fun k hk => ?_, fun g q f m =>
    Memory.eq_of_answer_error⟩
  · rw [← h.marker?_eq plain]
    rfl
  · obtain ⟨c, u, rfl⟩ := h.labelled k hk
    exact ⟨c, u, rfl, h.isSome_snapshot?_of_marker? plain hk⟩

/-- Asks one request after the other. -/
def askAll : List Request → Proc interface Unit
  | [] => .done ()
  | q :: rest => .ask q fun _ => askAll rest

/-- Two callers: both write case 1 at second 1, one deletes it, and then the other writes it once more.
Meanwhile the first writes case 2. -/
def callers : Crew Bool Unit where
  scene := ⟨Memory.empty, []⟩
  programs
    | true => askAll [.store (.write (sample "1" 1 2)), .store (.delete "1"),
        .store (.write (sample "2" 1 0)), .store (.firstWriter "1" (instantAt 1))]
    | false => askAll [.store (.write (sample "1" 1 3)), .store (.write (sample "1" 1 4)),
        .store .list]

/-- The order in which the callers have their turns. -/
def callersTurns : List (Bool × List CaseRecord × Guid) :=
  turnsOver (fun _ => []) [true, false, true, false, true, true, false]

/-- What the callers have asked for, and the scene after it. -/
def callersRun : List (Bool × Exchange) × Crew Bool Unit := callers.played callersTurns

theorem answers_from_history_rewritten :
    Chronicle (callersRun.1.map Prod.snd) callersRun.2.scene ∧
      Plain (callersRun.1.map Prod.snd) ∧
      (∃ stored : List Snapshot,
        (∀ g, callersRun.2.scene.store.answer g .list = (.ok stored, callersRun.2.scene.store)) ∧
        ⟨sample "1" 1 4, .ofNat 4⟩ ∈ stored ∧ ⟨sample "2" 1 0, .ofNat 5⟩ ∈ stored ∧
        ⟨sample "1" 1 3, .ofNat 2⟩ ∉ stored) ∧
      ∀ g, callersRun.2.scene.store.answer g (.firstWriter "1" (instantAt 1)) =
        (.ok (some ⟨.ofNat 4, sample "1" 1 4⟩), callersRun.2.scene.store) := by
  have run : Crew.Run callers callersRun.1 callersRun.2 := Crew.run_played (by decide +kernel)
  have chronicle : Chronicle (callersRun.1.map Prod.snd) callersRun.2.scene :=
    Chronicle.start.append run.passes
  have plain : Plain (callersRun.1.map Prod.snd) := by unfold Plain; decide +kernel
  have first : firstOf "1" (instantAt 1) (callersRun.1.map Prod.snd) =
      some ⟨.ofNat 4, sample "1" 1 4⟩ := by decide +kernel
  obtain ⟨⟨stored, hlist, -, hmem⟩, hfirst, -⟩ := chronicle.answers_from_history plain
  refine ⟨chronicle, plain, ⟨stored, hlist, ?_, ?_, ?_⟩, fun g => first ▸ hfirst g _ _⟩
  · exact (hmem _).2 (by decide +kernel)
  · exact (hmem _).2 (by decide +kernel)
  · exact fun h => absurd ((hmem _).1 h) (by decide +kernel)

end Chronicle

end CaseHerald.Watch
