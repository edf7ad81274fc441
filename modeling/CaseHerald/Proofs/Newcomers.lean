import CaseHerald.Proofs.Deletion
import CaseHerald.Proofs.History
import CaseHerald.Proofs.Recovery
import CaseHerald.Proofs.Results

/-!
# Which new cases are subscribed to

A cycle hands the cases that it has created over for subscription once its plan is carried out to the
end (`HandsOver`). A cycle that fails after it has stored some of them hands none over, and the cycles
after it find these cases in the store, so that they do not create them again: such a case is handed
over only when it has been deleted and is found open once more (`subscribed_iff`, `never_subscribed_cut`).
-/
namespace CaseHerald.Watch

open Plan (isLive firstActive?)
open Store (Memory)

variable {c : String} {w : Watcher} {s t : Scene} {log : List Exchange}

/-! ## Handing over -/

/-- Subscriptions to some cases, one after the other. -/
inductive Subscriptions : List CaseRecord → Scene → List Exchange → Scene → Prop
  | nil {s : Scene} : Subscriptions [] s [] s
  | cons {r : CaseRecord} {rest : List CaseRecord} {s t u : Scene} {front back : List Exchange}
      {outcome : Except Failure Subscribed}
      (subscribes : Runs (autoSubscribe r).outcome s front outcome t)
      (others : Subscriptions rest t back u) : Subscriptions (r :: rest) s (front ++ back) u

/-- A run of a cycle and the records that it hands over for subscription: those that it has created, if
its plan is carried out to the end and the watcher subscribes to new cases. -/
inductive HandsOver (w : Watcher) (s : Scene) :
    List Exchange → List CaseRecord → Except Failure Summary × Watcher → Scene → Prop
  | failed {log : List Exchange} {f : Failure} {t : Scene}
      (polls : Runs poll.outcome s log (.error f) t) : HandsOver w s log [] (.error f, w) t
  | silent {log : List Exchange} {live : Nat} {report : Report} {summary : Summary} {t : Scene}
      (silent : w.subscribes = false) (polls : Runs poll.outcome s log (.ok (live, report)) t) :
      HandsOver w s log [] (.ok summary, w.after report) t
  | subscribing {front back : List Exchange} {live : Nat} {report : Report} {summary : Summary}
      {t u : Scene} (subscribing : w.subscribes = true)
      (polls : Runs poll.outcome s front (.ok (live, report)) t)
      (subscriptions : Subscriptions report.created t back u) :
      HandsOver w s (front ++ back) report.created (.ok summary, w.after report) u

theorem Runs.subscriptions {created : List CaseRecord} {counts summary : Summary}
    (h : Runs (subscribeAll counts created) s log summary t) : Subscriptions created s log t := by
  induction created generalizing counts s log with
  | nil =>
    cases h with
    | done => exact .nil
  | cons r rest ih =>
    rw [subscribeAll, List.foldlM_cons] at h
    obtain ⟨front, back, counts', u, rfl, hone, hrest⟩ := Runs.bind h
    obtain ⟨front, none, outcome, u', rfl, hsubscribe, hdone⟩ := Runs.bind hone
    cases hdone with
    | done =>
      rw [List.append_nil]
      exact .cons hsubscribe (ih hrest)

/-- **Every run of a cycle hands over some records.** -/
theorem Runs.handsOver {r : Except Failure Summary × Watcher} (h : Runs (cycle w) s log r t) :
    ∃ handed, HandsOver w s log handed r t := by
  obtain ⟨front, back, outcome, u, rfl, hpoll, hrest⟩ := Runs.bind h
  cases outcome with
  | error f =>
    cases hrest with
    | done =>
      rw [List.append_nil]
      exact ⟨[], .failed hpoll⟩
  | ok a =>
    obtain ⟨live, report⟩ := a
    cases hw : w.subscribes with
    | true =>
      simp only [hw, if_true] at hrest
      obtain ⟨back, none, summary, v, rfl, hsubscribe, hdone⟩ := Runs.bind hrest
      cases hdone with
      | done =>
        rw [List.append_nil]
        exact ⟨report.created, .subscribing hw hpoll hsubscribe.subscriptions⟩
    | false =>
      simp only [hw, Bool.false_eq_true, if_false] at hrest
      cases hrest with
      | done =>
        rw [List.append_nil]
        exact ⟨[], .silent hw hpoll⟩

/-- What a cycle reports as created are the creations of its plan. -/
theorem Runs.created_of_poll {n : Nat} {report : Report}
    (h : Runs poll.outcome s log (.ok (n, report)) t) :
    ∃ live rest, log = ⟨.fetch, .ok live⟩ :: ⟨.store .list, .ok s.store.snapshots.values⟩ :: rest ∧
      report.created = (Plan.of s.store.snapshots.values live).creations := by
  obtain ⟨reply, log, u, rfl, hmeets, hlist⟩ := Runs.of_ask h
  obtain rfl := hmeets.same fun _ h => by cases h
  cases reply with
  | error f => cases hlist
  | ok live =>
    obtain ⟨reply, log, u, rfl, hmeets, hreconcile⟩ := Runs.of_ask hlist
    cases reply with
    | error f => cases hreconcile
    | ok previous =>
      obtain ⟨rfl, rfl⟩ := hmeets.list
      have hyields : (reconcile u.store.snapshots.values live >>= fun report =>
          (pure (live.length, report) : Step (Nat × Report))).Yields fun a =>
            a.2.created = (Plan.of u.store.snapshots.values live).creations :=
        (yields_carryOut _).bind fun report hreport => Attempt.yields_pure hreport
      exact ⟨live, log, rfl, hreconcile.yields hyields _ rfl⟩

namespace HandsOver

variable {handed : List CaseRecord} {r : Except Failure Summary} {w' : Watcher}

/-- A watcher hands nothing over, if it does not subscribe or its cycle fails, and else the creations of
its plan. -/
theorem cases_handed (h : HandsOver w s log handed (r, w') t) :
    (handed = [] ∧ ¬(r.isOk ∧ w.subscribes)) ∨
      (r.isOk ∧ w.subscribes) ∧ ∃ live rest,
        log = ⟨.fetch, .ok live⟩ :: ⟨.store .list, .ok s.store.snapshots.values⟩ :: rest ∧
          handed = (Plan.of s.store.snapshots.values live).creations := by
  cases h with
  | failed polls =>
    left
    simp [Except.isOk, Except.toBool]
  | silent silent polls =>
    left
    simp [silent]
  | @subscribing front back live report summary u _ subscribing polls subscriptions =>
    right
    obtain ⟨live, rest, rfl, hcreated⟩ := polls.created_of_poll
    exact ⟨⟨rfl, subscribing⟩, live, rest ++ back, rfl, hcreated⟩

theorem subscribes_eq (h : HandsOver w s log handed (r, w') t) : w'.subscribes = w.subscribes := by
  cases h <;> rfl

end HandsOver

theorem Flushed.subscribes_eq {w' : Watcher} {m k : Memory} {r : Except Failure Nat}
    (h : Flushed w m log (r, w') k) : w'.subscribes = w.subscribes := by
  cases h <;> rfl

/-- A cycle stores a case that is new by its first open record. -/
theorem Cycled.firstActive?_of_write {m k : Memory} {r : Except Failure Summary × Watcher}
    {a : Snapshot} (h : Cycled w m log r k) (filed : m.Filed) (new : m.snapshot? c = none)
    (ha : a ∈ writesOf c log) :
    ∃ live rest, log = ⟨.fetch, .ok live⟩ :: rest ∧ firstActive? live c = some a.record := by
  obtain ⟨x, hx, hwrite⟩ := List.mem_filterMap.1 ha
  obtain ⟨rfl, hnumber⟩ := snapshotOf?_eq_some hwrite
  have hplan {live : List CaseRecord}
      (h : (Request.store (.write a.record)).OfPlan (Plan.of m.snapshots.values live)) :
      firstActive? live c = some a.record := by
    generalize hq : Request.store (.write a.record) = q at h
    cases h with
    | @write j planned =>
      have hrecord : a.record = j.record := by
        injection hq with hq
        injection hq
      have hj : j ∈ (Plan.of m.snapshots.values live).jobsOf c := by
        refine List.mem_filter.2 ⟨planned, ?_⟩
        rw [Job.number, ← hrecord]
        exact decide_eq_true hnumber
      rw [Plan.jobsOf_of, Memory.find?_values filed, new, Option.mem_toList] at hj
      obtain ⟨first, hfirst, rfl⟩ := Option.map_eq_some_iff.1 hj
      rw [hfirst, hrecord]
      rfl
    | ask => cases hq
    | announce => cases hq
  cases h with
  | noFetch => cases List.mem_singleton.1 hx
  | noList =>
    simp only [List.mem_cons, List.not_mem_nil, or_false] at hx
    rcases hx with hx | hx <;> cases hx
  | @stopped live front q f _ smooth planned stops =>
    refine ⟨live, _, rfl, ?_⟩
    simp only [List.mem_cons, List.mem_append, List.not_mem_nil, or_false] at hx
    rcases hx with hx | hx | hx | hx
    · cases hx
    · cases hx
    · exact hplan (planned _ hx)
    · cases hx
  | @done live front back report summary _ smooth planned quiet written announced deletions =>
    refine ⟨live, _, rfl, ?_⟩
    simp only [List.mem_cons, List.mem_append] at hx
    rcases hx with hx | hx | hx | hx
    · cases hx
    · cases hx
    · exact hplan (planned _ hx)
    · cases quiet _ hx

/-- A plan creates a case exactly if it is not stored and is found open. -/
theorem Plan.exists_mem_creations_iff {m : Memory} (filed : m.Filed) {live : List CaseRecord} :
    (∃ r ∈ (Plan.of m.snapshots.values live).creations, r.number = c) ↔
      m.snapshot? c = none ∧ isLive live c := by
  have hcreations := Plan.filter_creations_of m.snapshots.values live c
  rw [Memory.isStored_values filed] at hcreations
  have hmem : (∃ r ∈ (Plan.of m.snapshots.values live).creations, r.number = c) ↔
      (Plan.of m.snapshots.values live).creations.filter (fun r => decide (r.number = c)) ≠ [] := by
    simp [List.filter_eq_nil_iff]
  rw [hmem, hcreations, isLive_eq_firstActive?]
  cases m.snapshot? c <;> cases firstActive? live c <;> simp

/-! ## Cases that are no longer stored -/

theorem request_of_deleted? {x : Exchange} (h : x.deleted? = some c) :
    x.request = .store (.delete c) := by
  obtain ⟨q, reply⟩ := x
  cases q with
  | store q =>
    cases q with
    | delete d =>
      cases reply with
      | ok a => cases h; rfl
      | error f => cases h
    | _ => cases h
  | _ => cases h

/-- Whether a case has been deleted and not been written since. -/
def Gone (c : String) (log : List Exchange) : Prop :=
  (∃ x ∈ log, x.deleted? = some c) ∧ writesOf c (since c log) = []

/-- **A case is not stored** exactly if it is gone, or was not stored before and has not been written. -/
theorem Passes.snapshot?_eq_none_iff (h : Passes s log t) (c : String) :
    t.store.snapshot? c = none ↔
      Gone c log ∨ s.store.snapshot? c = none ∧ writesOf c log = [] := by
  induction h with
  | nil => simp [Gone, writesOf]
  | @snoc t u log x _ meets ih =>
    have hany : (∃ y ∈ log ++ [x], y.deleted? = some c) ↔
        (∃ y ∈ log, y.deleted? = some c) ∨ x.deleted? = some c := by
      simp [or_and_right, exists_or]
    rw [Gone, hany, since_concat, writesOf_append, writesOf_singleton]
    rcases meets.revise c with ⟨hx, hw, hs, -⟩ | ⟨a, hx, hw, hs, -⟩ | ⟨hx, hw, hs, -⟩
    · simp [hs, hx, writesOf]
    · simp [hs, hx, hw, writesOf_singleton]
    · rw [if_neg hx, writesOf_append, writesOf_singleton, hw, Option.toList_none, List.append_nil,
        List.append_nil, hs, ih, Gone]
      simp only [hx, or_false]

/-! ## Watchers that take turns -/

/-- A whole cycle or flush of a watcher, the records that it hands over, and whether it succeeds. -/
structure Shift (ι : Type) extends Act ι where
  handed : List CaseRecord
  succeeded : Bool

/-- Whether the shift begins with a fetch that finds the case open. -/
def Shift.Finds {ι : Type} (c : String) (shift : Shift ι) : Prop :=
  ∃ live rest, shift.log = ⟨.fetch, .ok live⟩ :: rest ∧ isLive live c

/-- The exchanges of some shifts, in order. -/
def exchanges {ι : Type} (shifts : List (Shift ι)) : List Exchange := shifts.flatMap (·.log)

@[simp] theorem exchanges_append {ι : Type} (shifts more : List (Shift ι)) :
    exchanges (shifts ++ more) = exchanges shifts ++ exchanges more := List.flatMap_append

@[simp] theorem exchanges_singleton {ι : Type} (shift : Shift ι) : exchanges [shift] = shift.log :=
  List.append_nil _

variable {ι : Type} [DecidableEq ι]

/-- One shift of a watcher. -/
inductive Takes (team : Team ι) : Shift ι → Team ι → Prop
  | cycle {log : List Exchange} {handed : List CaseRecord} {r : Except Failure Summary} {w : Watcher}
      {t : Scene} (i : ι) (runs : Runs (cycle (team.watchers i)) team.scene log (r, w) t)
      (hands : HandsOver (team.watchers i) team.scene log handed (r, w) t) :
      Takes team ⟨⟨i, .cycle, log⟩, handed, r.isOk⟩ ⟨t, Function.update team.watchers i w⟩
  | flush {log : List Exchange} {r : Except Failure Nat} {w : Watcher} {t : Scene} (i : ι)
      (runs : Runs (flush (team.watchers i)) team.scene log (r, w) t) :
      Takes team ⟨⟨i, .flush, log⟩, [], r.isOk⟩ ⟨t, Function.update team.watchers i w⟩

/-- Shifts of some watchers, one after the other. -/
inductive Shifts : Team ι → List (Shift ι) → Team ι → Prop
  | start {team : Team ι} : Shifts team [] team
  | snoc {first mid last : Team ι} {shifts : List (Shift ι)} {shift : Shift ι}
      (earlier : Shifts first shifts mid) (takes : Takes mid shift last) :
      Shifts first (shifts ++ [shift]) last

variable {team next first last : Team ι} {shift : Shift ι} {shifts front back : List (Shift ι)}

/-- Shifts are acts of the watchers, of which it is told what they hand over. -/
theorem serial_iff_shifts {acts : List (Act ι)} :
    Serial first acts last ↔ ∃ shifts, shifts.map Shift.toAct = acts ∧ Shifts first shifts last := by
  constructor
  · intro h
    induction h with
    | start => exact ⟨[], rfl, .start⟩
    | cycle _ i runs ih =>
      obtain ⟨shifts, rfl, hshifts⟩ := ih
      obtain ⟨handed, hands⟩ := runs.handsOver
      exact ⟨shifts ++ [_], List.map_append, hshifts.snoc (.cycle i runs hands)⟩
    | flush _ i runs ih =>
      obtain ⟨shifts, rfl, hshifts⟩ := ih
      exact ⟨shifts ++ [_], List.map_append, hshifts.snoc (.flush i runs)⟩
  · rintro ⟨shifts, rfl, h⟩
    induction h with
    | start => exact .start
    | snoc _ takes ih =>
      rw [List.map_append]
      cases takes with
      | cycle i runs hands => exact ih.cycle i runs
      | flush i runs => exact ih.flush i runs

namespace Takes

theorem passes (h : Takes team shift next) : Passes team.scene shift.log next.scene := by
  cases h with
  | cycle i runs hands => exact runs.passes
  | flush i runs => exact runs.passes

/-- No shift changes whether a watcher subscribes. -/
theorem subscribes_eq (h : Takes team shift next) (i : ι) :
    (next.watchers i).subscribes = (team.watchers i).subscribes := by
  have hupdate (j : ι) {w : Watcher} (hw : w.subscribes = (team.watchers j).subscribes) :
      (Function.update team.watchers j w i).subscribes = (team.watchers i).subscribes := by
    by_cases hij : i = j
    · subst hij
      simpa using hw
    · simp [Function.update_of_ne hij]
  cases h with
  | cycle j runs hands => exact hupdate j hands.subscribes_eq
  | flush j runs =>
    refine hupdate j ?_
    exact runs.flushed.subscribes_eq

/-- **What a shift hands over.** It is about a case exactly if it is a successful cycle of a watcher that
subscribes, the case is not stored before it, and is found open. -/
theorem handed_iff (h : Takes team shift next) (filed : team.scene.store.Filed) (c : String) :
    (∃ r ∈ shift.handed, r.number = c) ↔
      shift.succeeded ∧ (team.watchers shift.who).subscribes ∧
        team.scene.store.snapshot? c = none ∧ shift.Finds c := by
  cases h with
  | cycle i runs hands =>
    rcases hands.cases_handed with ⟨rfl, hnot⟩ | ⟨⟨hok, hsubscribes⟩, live, rest, rfl, rfl⟩
    · constructor
      · rintro ⟨r, hr, -⟩
        cases hr
      · rintro ⟨hok, hsubscribes, -⟩
        exact absurd ⟨hok, hsubscribes⟩ hnot
    · rw [Plan.exists_mem_creations_iff filed]
      constructor
      · rintro ⟨hnew, hlive⟩
        exact ⟨hok, hsubscribes, hnew, live, _, rfl, hlive⟩
      · rintro ⟨-, -, hnew, live', rest', hlog, hlive⟩
        cases hlog
        exact ⟨hnew, hlive⟩
  | flush i runs =>
    constructor
    · rintro ⟨r, hr, -⟩
      cases hr
    · rintro ⟨-, -, -, live, rest, rfl, -⟩
      obtain ⟨d, -, hd⟩ := runs.flushed.request_eq List.mem_cons_self
      cases hd

/-- A case that is stored anew is handed over once, if the cycle succeeds. -/
theorem handed_of_new (h : Takes team shift next) (filed : team.scene.store.Filed)
    (subscribes : (team.watchers shift.who).subscribes) {a : Snapshot}
    (new : team.scene.store.snapshot? c = none) (written : a ∈ writesOf c shift.log) :
    if shift.succeeded then shift.handed.filter (fun r => decide (r.number = c)) = [a.record]
    else shift.handed = [] := by
  cases h with
  | @cycle log handed r w t i runs hands =>
    obtain ⟨live, rest, rfl, hfirst⟩ := runs.cycled.firstActive?_of_write filed new written
    rcases hands.cases_handed with ⟨rfl, hnot⟩ | ⟨⟨hok, -⟩, live', rest', hlog, rfl⟩
    · rw [if_neg fun hok => hnot ⟨hok, subscribes⟩]
    · cases hlog
      rw [if_pos hok, Plan.filter_creations_of, Memory.isStored_values filed, new, hfirst]
      rfl
  | flush i runs =>
    have hnone := runs.flushed.writesOf_eq_nil (c := c) (List.Subset.refl _)
    simp only [hnone] at written
    cases written

/-- A case that a shift writes is stored after it. -/
theorem snapshot?_of_written (h : Takes team shift next) {a : Snapshot}
    (written : a ∈ writesOf c shift.log) : next.scene.store.snapshot? c ≠ none := by
  rw [Ne, h.passes.snapshot?_eq_none_iff]
  rintro (⟨⟨x, hx, hdeleted⟩, -⟩ | ⟨-, hnone⟩)
  · cases h with
    | cycle i runs hands =>
      have hq := runs.asks (asks_cycle _) x hx
      exact hq.ne_delete c (request_of_deleted? hdeleted)
    | flush i runs =>
      have hnone := runs.flushed.writesOf_eq_nil (c := c) (List.Subset.refl _)
      simp only [hnone] at written
      cases written
  · rw [hnone] at written
    cases written

end Takes

namespace Shifts

theorem passes (h : Shifts first shifts last) :
    Passes first.scene (exchanges shifts) last.scene := by
  induction h with
  | start => exact .nil
  | snoc _ takes ih =>
    rw [exchanges_append, exchanges_singleton]
    exact ih.append takes.passes

theorem subscribes_eq (h : Shifts first shifts last) (i : ι) :
    (last.watchers i).subscribes = (first.watchers i).subscribes := by
  induction h with
  | start => rfl
  | snoc _ takes ih => rw [takes.subscribes_eq, ih]

/-- The team before one of some shifts. -/
theorem split (h : Shifts first (front ++ shift :: back) last) :
    ∃ mid next, Shifts first front mid ∧ Takes mid shift next := by
  generalize hall : front ++ shift :: back = shifts at h
  induction h generalizing back with
  | start => simp at hall
  | @snoc mid last shifts other earlier takes ih =>
    rcases List.eq_nil_or_concat back with rfl | ⟨back, y, rfl⟩
    · obtain ⟨rfl, hone⟩ := List.append_inj' hall rfl
      cases hone
      exact ⟨mid, last, earlier, takes⟩
    · rw [List.concat_eq_append, ← List.cons_append, ← List.append_assoc] at hall
      exact ih (List.append_inj' hall rfl).1

/-- **Who is handed a case that is stored at the start**: a shift after which it is gone. -/
theorem handed_iff_of_stored (h : Shifts first (front ++ shift :: back) last)
    (filed : first.scene.store.Filed) (stored : first.scene.store.snapshot? c ≠ none) :
    (∃ r ∈ shift.handed, r.number = c) ↔
      shift.succeeded ∧ (first.watchers shift.who).subscribes ∧ Gone c (exchanges front) ∧
        shift.Finds c := by
  obtain ⟨mid, next, hfront, takes⟩ := h.split
  rw [takes.handed_iff (hfront.passes.filed filed), hfront.subscribes_eq,
    hfront.passes.snapshot?_eq_none_iff]
  simp [stored]

end Shifts

/-- **Which new cases are subscribed to.** Let watchers take turns from a store on, and let one that
subscribes to new cases store a case that is not stored. If its cycle succeeds, it hands over the case in
this cycle, once and as stored; if it fails, it hands over nothing. A later shift hands the case over
exactly if it is a successful cycle of a watcher that subscribes, begins with the case gone, that is
deleted and not written since, and finds it open. -/
theorem subscribed_iff {more : List (Shift ι)} {a : Snapshot} (filed : team.scene.store.Filed)
    (takes : Takes team shift next) (subscribes : (team.watchers shift.who).subscribes)
    (new : team.scene.store.snapshot? c = none) (written : a ∈ writesOf c shift.log)
    (later : Shifts next more last) :
    (if shift.succeeded then shift.handed.filter (fun r => decide (r.number = c)) = [a.record]
      else shift.handed = []) ∧
    ∀ front other back, more = front ++ other :: back →
      ((∃ r ∈ other.handed, r.number = c) ↔
        other.succeeded ∧ (team.watchers other.who).subscribes ∧ Gone c (exchanges front) ∧
          other.Finds c) := by
  refine ⟨takes.handed_of_new filed subscribes new written, fun front other back hmore => ?_⟩
  rw [hmore] at later
  rw [← takes.subscribes_eq other.who]
  exact later.handed_iff_of_stored (takes.passes.filed filed) (takes.snapshot?_of_written written)

/-! ## A cycle that fails halfway -/

/-- An empty store, and one watcher, which subscribes to new cases. -/
def subscriber : Team Unit := ⟨⟨.empty, []⟩, fun _ => .new true⟩

/-- Two open cases. -/
def twoOpen : List CaseRecord := [sample "1" 1 2, sample "2" 1 2]

/-- A cycle whose write of the second case fails. -/
def halfPlay : Play :=
  (playCut twoOpen (.backend "down") 3 subscriber.scene (cycle (.new true))).getD
    ([], (.error (.store (.backend "down")), .new true), subscriber.scene)

/-- The next cycle of the watcher, in which nothing fails. -/
def restPlay : Play :=
  (playAlone twoOpen halfPlay.2.2 (cycle halfPlay.2.1.2)).getD ([], halfPlay.2.1, halfPlay.2.2)

/-- The shift that fails halfway. -/
def halfShift : Shift Unit := ⟨⟨(), .cycle, halfPlay.1⟩, [], false⟩

/-- The shift after it. -/
def restShift : Shift Unit := ⟨⟨(), .cycle, restPlay.1⟩, [sample "2" 1 2], true⟩

/-- The store and the watcher between the two shifts. -/
def halfway : Team Unit := ⟨halfPlay.2.2, Function.update subscriber.watchers () halfPlay.2.1.2⟩

/-- The store and the watcher after them. -/
def caughtUp : Team Unit := ⟨restPlay.2.2, Function.update halfway.watchers () restPlay.2.1.2⟩

theorem takes_halfShift : Takes subscriber halfShift halfway := by
  have ends : (playCut twoOpen (.backend "down") 3 subscriber.scene (cycle (.new true))).isSome := by
    decide +kernel
  have runs : Runs (cycle (subscriber.watchers ())) subscriber.scene halfPlay.1 halfPlay.2.1
      halfPlay.2.2 := runs_getD (fun _ _ _ => runs_playCut) ends _
  have failed : halfPlay.2.1.1.isOk = false := by decide +kernel
  obtain ⟨handed, hands⟩ := runs.handsOver
  rcases hands.cases_handed (r := halfPlay.2.1.1) with ⟨rfl, -⟩ | ⟨⟨hok, -⟩, -⟩
  · have h := Takes.cycle (r := halfPlay.2.1.1) (w := halfPlay.2.1.2) () runs hands
    rwa [failed] at h
  · exact absurd hok (by simp [failed])

theorem takes_restShift : Takes halfway restShift caughtUp := by
  have ends : (playAlone twoOpen halfPlay.2.2 (cycle halfPlay.2.1.2)).isSome := by decide +kernel
  have runs : Runs (cycle (halfway.watchers ())) halfway.scene restPlay.1 restPlay.2.1 restPlay.2.2 :=
    runs_getD (fun _ _ _ => runs_playAlone) ends _
  have succeeded : restPlay.2.1.1.isOk = true := by decide +kernel
  have subscribes : (halfway.watchers ()).subscribes = true := by decide +kernel
  have fetched : restPlay.1.head? = some ⟨.fetch, .ok twoOpen⟩ := rfl
  have planned : (Plan.of halfway.scene.store.snapshots.values twoOpen).creations =
      [sample "2" 1 2] := by decide +kernel
  obtain ⟨handed, hands⟩ := runs.handsOver
  rcases hands.cases_handed (r := restPlay.2.1.1) with ⟨rfl, hnot⟩ | ⟨-, live, rest, hlog, rfl⟩
  · exact absurd ⟨succeeded, subscribes⟩ hnot
  · rw [hlog] at fetched
    cases fetched
    have h := Takes.cycle (r := restPlay.2.1.1) (w := restPlay.2.1.2) () runs hands
    rwa [succeeded, planned] at h

theorem subscribed_iff_cut : ¬halfShift.succeeded ∧ halfShift.handed = [] ∧
    restShift.succeeded ∧ ¬∃ r ∈ restShift.handed, r.number = "1" := by
  have written : ⟨sample "1" 1 2, .ofNat 1⟩ ∈ writesOf "1" halfShift.log := by decide +kernel
  obtain ⟨hhalf, hrest⟩ := subscribed_iff Memory.filed_empty takes_halfShift rfl rfl written
    (Shifts.start.snoc takes_restShift)
  refine ⟨Bool.false_ne_true, hhalf, rfl, fun handed => ?_⟩
  obtain ⟨-, -, ⟨⟨x, hx, -⟩, -⟩, -⟩ := (hrest [] restShift [] rfl).1 handed
  cases hx

/-- **A new case that misses its subscription**: its cycle fails after it has been stored, the next cycle
succeeds and finds it open, but hands over only the other case. As long as the case is not deleted, no
later cycle hands it over either. -/
theorem never_subscribed_cut :
    Shifts subscriber [halfShift, restShift] caughtUp ∧
      (subscriber.scene.store.snapshot? "1" = none ∧
        writesOf "1" halfShift.log = [⟨sample "1" 1 2, .ofNat 1⟩]) ∧
      (¬halfShift.succeeded ∧ halfShift.handed = []) ∧
      (restShift.succeeded ∧ restShift.Finds "1" ∧ restShift.handed = [sample "2" 1 2]) ∧
      ∀ more last, Shifts caughtUp more last →
        (∀ x ∈ exchanges more, x.deleted? ≠ some "1") →
          ∀ shift ∈ more, ∀ r ∈ shift.handed, r.number ≠ "1" := by
  have finds : restShift.Finds "1" := ⟨twoOpen, restPlay.1.tail, rfl, by decide⟩
  refine ⟨(Shifts.start.snoc takes_halfShift).snoc takes_restShift, ⟨rfl, by decide +kernel⟩,
    ⟨Bool.false_ne_true, rfl⟩, ⟨rfl, finds, rfl⟩, ?_⟩
  intro more last hshifts kept shift hshift r hr hnumber
  have filed : caughtUp.scene.store.Filed :=
    takes_restShift.passes.filed (takes_halfShift.passes.filed Memory.filed_empty)
  have stored : caughtUp.scene.store.snapshot? "1" ≠ none := by decide +kernel
  obtain ⟨front, back, rfl⟩ := List.append_of_mem hshift
  obtain ⟨-, -, ⟨⟨x, hx, hdeleted⟩, -⟩, -⟩ :=
    (hshifts.handed_iff_of_stored filed stored).1 ⟨r, hr, hnumber⟩
  refine kept x ?_ hdeleted
  rw [exchanges_append]
  exact List.mem_append_left _ hx

end CaseHerald.Watch
