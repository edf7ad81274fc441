import CaseHerald.Proofs.Discipline
import CaseHerald.Proofs.Independence
import CaseHerald.Proofs.Reports

/-!
# What the counts account for

The counts of a watcher are taken from the results of its cycles and flushes. `tally` counts the same
`Item`s in the exchanges, where everything shows that has been done. Each stint adds to the counts what it
has done, except that a cycle or a flush that fails part-way adds nothing of what it has announced, created
or deleted by then (`Stint.Runs.balance`). Over a run it follows that the counts account for what has been
done just if nothing has been done in a stint that is cut short.

## Main definitions

* `Watch.Item`, `Watch.tally` : what is counted, in the exchanges.
* `Watch.Metrics.counted` : what is counted, in the counts of a watcher.
* `Watch.Accounts` : what the counts at the end of a run come to.
-/
namespace CaseHerald.Watch

/-! ## What is counted -/

/-- Something that is counted. -/
inductive Item
  | cycles
  /-- cycles that fail on a malformed record -/
  | malformed
  | events
  | created
  | deletions
  deriving DecidableEq

namespace Exchange

/-- The cases that the store is listed to hold. -/
def listed? : Exchange → Option (List String)
  | ⟨.store .list, .ok snapshots⟩ => some (snapshots.map Snapshot.number)
  | _ => none

/-- Whether the exchange is a fetch. -/
def isFetch (x : Exchange) : Bool :=
  match x.request with
  | .fetch => true
  | _ => false

/-- The failure of a fetch. -/
def unfetched? : Exchange → Option SourceFailure
  | ⟨.fetch, .error f⟩ => some f
  | _ => none

/-- Whether the exchange is one of the item. Every cycle begins with a fetch, and a case is created by a
write of a case that has not been listed. -/
def shows (listed : List String) (i : Item) (x : Exchange) : Bool :=
  match i with
  | .cycles => x.isFetch
  | .malformed => x.unfetched?.any fun f => (Failure.source f).isMalformed
  | .events => x.event?.isSome
  | .created => x.written?.any fun w => decide (w.1.number ∉ listed)
  | .deletions => x.deleted?.isSome

end Exchange

/-- The cases that the store is listed to hold. -/
def listing (log : List Exchange) : List String := (log.filterMap Exchange.listed?).flatten

/-- How often the item is in the log. -/
def tally (log : List Exchange) (i : Item) : Nat := log.countP (Exchange.shows (listing log) i)

/-- How often the item has been counted. -/
def Metrics.counted (metrics : Metrics) : Item → Nat
  | .cycles => metrics.cycles + metrics.deferred
  | .malformed => metrics.malformed
  | .events => metrics.events
  | .created => metrics.created
  | .deletions => metrics.deletions

/-! ## What requests do not show -/

section Shows

variable {x : Exchange} {listed : List String}

theorem Request.OfClock.shows (h : x.request.OfClock) (i : Item) : x.shows listed i = false := by
  obtain ⟨q, reply⟩ := x
  cases q <;> first | exact h.elim | (cases i <;> rfl)

theorem Request.IsQuiet.shows (h : x.request.IsQuiet) (i : Item) : x.shows listed i = false := by
  obtain ⟨q, reply⟩ := x
  cases h <;> cases i <;> rfl

theorem Request.IsQuiet.listed? (h : x.request.IsQuiet) : x.listed? = none := by
  obtain ⟨q, reply⟩ := x
  cases h <;> rfl

theorem Request.OfPlan.shows {p : Plan} (h : x.request.OfPlan p) {i : Item} (events : i ≠ .events)
    (created : i ≠ .created) : x.shows listed i = false := by
  obtain ⟨q, reply⟩ := x
  cases h <;> cases i <;> first | rfl | contradiction

theorem Request.OfPlan.listed? {p : Plan} (h : x.request.OfPlan p) : x.listed? = none := by
  obtain ⟨q, reply⟩ := x
  cases h <;> rfl

theorem Request.DeletesOneOf.shows {numbers : List String} (h : x.request.DeletesOneOf numbers)
    {i : Item} (deletions : i ≠ .deletions) : x.shows listed i = false := by
  obtain ⟨q, reply⟩ := x
  obtain ⟨c, -, rfl⟩ := h
  cases i <;> first | rfl | contradiction

end Shows

/-! ## Cycles -/

section Count

variable {listed : List String} {log : List Exchange}

theorem countP_events : log.countP (Exchange.shows listed .events) =
    (log.filterMap Exchange.event?).length := by
  rw [List.length_filterMap_eq_countP]
  refine List.countP_congr fun x _ => Iff.of_eq (congrArg (· = true) ?_)
  obtain ⟨q, reply⟩ := x
  cases q <;> rfl

theorem countP_created : log.countP (Exchange.shows listed .created) =
    ((records log).filter fun r => decide (r.number ∉ listed)).length := by
  rw [← List.countP_eq_length_filter, records, List.countP_filterMap]
  refine List.countP_congr fun x _ => Iff.of_eq (congrArg (· = true) ?_)
  obtain ⟨q, reply⟩ := x
  cases q with
  | store q => cases q <;> cases reply <;> rfl
  | _ => rfl

theorem countP_eq_zero {i : Item} (h : ∀ x ∈ log, x.shows listed i = false) :
    log.countP (Exchange.shows listed i) = 0 :=
  List.countP_eq_zero.2 fun x hx => by simp [h x hx]

end Count

theorem listing_polled {live : List CaseRecord} {previous : List Snapshot} {log : List Exchange}
    (h : ∀ x ∈ log, x.listed? = none) :
    listing (⟨.fetch, .ok live⟩ :: ⟨.store .list, .ok previous⟩ :: log) =
      previous.map Snapshot.number := by
  have hnone : log.filterMap Exchange.listed? = [] := List.filterMap_eq_nil_iff.2 h
  simp [listing, List.filterMap_cons, Exchange.listed?, hnone]

/-- What a poll shows, when requests follow that leave the cases alone. -/
theorem tally_polled {live : List CaseRecord} {previous : List Snapshot} {p : Plan}
    {log back : List Exchange} (planned : ∀ x ∈ log, x.request.OfPlan p)
    (quiet : ∀ x ∈ back, x.request.IsQuiet) (i : Item) :
    tally (⟨.fetch, .ok live⟩ :: ⟨.store .list, .ok previous⟩ :: (log ++ back)) i =
      log.countP (Exchange.shows (previous.map Snapshot.number) i) + if i = .cycles then 1 else 0 := by
  have hlisted : ∀ x ∈ log ++ back, x.listed? = none := by
    intro x hx
    rcases List.mem_append.1 hx with hx | hx
    · exact (planned x hx).listed?
    · exact (quiet x hx).listed?
  rw [tally, listing_polled hlisted, List.countP_cons, List.countP_cons, List.countP_append,
    countP_eq_zero fun x hx => (quiet x hx).shows i]
  cases i <;> rfl

theorem tally_polled_of_ne {live : List CaseRecord} {previous : List Snapshot} {p : Plan}
    {log back : List Exchange} (planned : ∀ x ∈ log, x.request.OfPlan p)
    (quiet : ∀ x ∈ back, x.request.IsQuiet) {i : Item} (events : i ≠ .events) (created : i ≠ .created) :
    tally (⟨.fetch, .ok live⟩ :: ⟨.store .list, .ok previous⟩ :: (log ++ back)) i =
      if i = .cycles then 1 else 0 := by
  rw [tally_polled planned quiet, countP_eq_zero fun x hx => (planned x hx).shows events created,
    Nat.zero_add]

/-- What a cycle shows of its result. -/
inductive Booked (log : List Exchange) : Except Failure Summary → Prop
  | whole {s : Summary} (cycles : tally log .cycles = 1) (malformed : tally log .malformed = 0)
      (events : tally log .events = s.events) (created : tally log .created = s.created)
      (deletions : tally log .deletions = 0) : Booked log (.ok s)
  | cut {f : Failure} (cycles : tally log .cycles = 1)
      (malformed : tally log .malformed = if f.isMalformed then 1 else 0)
      (deletions : tally log .deletions = 0) : Booked log (.error f)

theorem Polled.booked_error {log : List Exchange} {f : Failure} (h : Polled log (.error f)) :
    Booked log (.error f) := by
  generalize hr : (.error f : Except Failure (Nat × Report)) = r at h
  cases h with
  | @noFetch e =>
    cases hr
    refine .cut rfl ?_ rfl
    cases he : (Failure.source e).isMalformed <;> simp [tally, Exchange.shows, Exchange.unfetched?, he]
  | noList =>
    cases hr
    exact .cut rfl rfl rfl
  | @reconciled live previous log r planned performed =>
    cases performed with
    | whole => cases hr
    | cut =>
      cases hr
      have htally {i : Item} (events : i ≠ .events) (created : i ≠ .created) :
          tally (⟨.fetch, .ok live⟩ :: ⟨.store .list, .ok previous⟩ :: log) i =
            if i = .cycles then 1 else 0 := by
        simpa only [List.append_nil] using
          tally_polled_of_ne planned (List.forall_mem_nil _) events created
      exact .cut (htally (by decide) (by decide)) (htally (by decide) (by decide))
        (htally (by decide) (by decide))

theorem Polled.booked_ok {log back : List Exchange} {n : Nat} {report : Report} {s : Summary}
    (h : Polled log (.ok (n, report))) (quiet : ∀ x ∈ back, x.request.IsQuiet)
    (counts : s.reconciled = (countsOf n report).reconciled) : Booked (log ++ back) (.ok s) := by
  generalize hr : (.ok (n, report) : Except Failure (Nat × Report)) = r at h
  cases h with
  | noFetch | noList => cases hr
  | @reconciled live previous log r planned performed created =>
    cases performed with
    | cut => cases hr
    | @whole after events written =>
      cases hr
      have htally {i : Item} (events : i ≠ .events) (created : i ≠ .created) :
          tally (⟨.fetch, .ok live⟩ :: ⟨.store .list, .ok previous⟩ :: (log ++ back)) i =
            if i = .cycles then 1 else 0 := tally_polled_of_ne planned quiet events created
      have hevents : tally (⟨.fetch, .ok live⟩ :: ⟨.store .list, .ok previous⟩ :: (log ++ back))
          .events = s.events := by
        calc
          _ = (log.filterMap Exchange.event?).length := by
            rw [tally_polled planned quiet, countP_events]
            rfl
          _ = report.events.length := by rw [events, List.nil_append]
          _ = s.events := (congrArg Summary.events counts).symm
      have hcreated : tally (⟨.fetch, .ok live⟩ :: ⟨.store .list, .ok previous⟩ :: (log ++ back))
          .created = s.created := by
        calc
          _ = ((records log).filter fun r => decide (r.number ∉ previous.map Snapshot.number)).length := by
            rw [tally_polled planned quiet, countP_created]
            rfl
          _ = report.created.length := by
            rw [written, Plan.records_notMem_listed, created report rfl]
          _ = s.created := (congrArg Summary.created counts).symm
      exact .whole (htally (by decide) (by decide)) (htally (by decide) (by decide)) hevents hcreated
        (htally (by decide) (by decide))

/-- **What a cycle shows is what it reports**, whatever the replies, except that a failing cycle reports
nothing of its announcements and creations. -/
theorem Timed.booked {w w' : Watcher} {result : Except Failure Summary} {m last : Moment}
    {log : List Stamp} (h : Timed (cycle w) m log (result, w') last) :
    Booked (log.map Stamp.exchange) result := by
  rw [cycle_eq] at h
  obtain ⟨front, back, outcome, m₁, rfl, hpoll, hrest⟩ := Timed.bind h
  have hpolled := hpoll.of_poll
  cases outcome with
  | error f =>
    cases hrest with
    | done =>
      rw [List.append_nil]
      exact hpolled.booked_error
  | ok found =>
    obtain ⟨n, report⟩ := found
    obtain ⟨back, tail, summary, m₂, rfl, hcounted, hdone⟩ := Timed.bind hrest
    cases hdone with
    | done =>
      rw [List.append_nil, List.map_append]
      exact hpolled.booked_ok
        (List.forall_mem_map.2 (hcounted.asks (asks_counted w (countsOf n report) report.created)))
        (hcounted.yields (yields_counted w (countsOf n report) report.created))

/-! ## Flushes -/

/-- Deletions are counted as they are made. -/
theorem tells_deleteAll (count : Nat) (numbers : List String) :
    (deleteAll count numbers).Tells Exchange.mk fun log r =>
      ∀ n, r = .ok (.ok n) → n = count + log.countP (Exchange.shows [] .deletions) := by
  induction numbers generalizing count with
  | nil =>
    intro n hn
    cases hn
    rfl
  | cons number rest ih =>
    intro reply
    cases reply with
    | ok a =>
      refine (ih (count + 1)).mono fun log r hlog n hn => ?_
      rw [hlog n hn, List.countP_cons_of_pos rfl]
      omega
    | error e => exact fun n hn => by cases hn

theorem Timed.tally_flush {w w' : Watcher} {result : Except Failure Nat} {m last : Moment}
    {log : List Stamp} (h : Timed (flush w) m log (result, w') last) :
    (∀ n, result = .ok n → tally (log.map Stamp.exchange) .deletions = n) ∧
      ∀ i, i ≠ .deletions → tally (log.map Stamp.exchange) i = 0 := by
  have hasks : ∀ x ∈ log.map Stamp.exchange, x.request.DeletesOneOf w.queue :=
    List.forall_mem_map.2 (h.asks (asks_flush w))
  refine ⟨fun n hn => ?_, fun i hi => countP_eq_zero fun x hx => (hasks x hx).shows hi⟩
  obtain ⟨front, back, outcome, m₁, rfl, hdelete, hrest⟩ := Timed.bind h
  have hcount := hdelete.tells (tells_deleteAll 0 w.queue)
  cases outcome with
  | ok count =>
    cases hrest with
    | done =>
      cases hn
      rw [List.append_nil, hcount _ rfl, Nat.zero_add]
      rfl
  | error e =>
    cases hrest with
    | done => cases hn

/-! ## Stints -/

/-- Whether the cycle fails on a malformed record. -/
def isMalformed : Except Failure Summary → Bool
  | .ok _ => false
  | .error f => f.isMalformed

/-- Whether the item is an effect on others. Of these nothing is counted of a stint that is cut short. -/
def Item.isEffect : Item → Bool
  | .cycles | .malformed => false
  | .events | .created | .deletions => true

namespace Stint

variable {s : Stint}

/-- The exchanges of the stint. -/
def exchanges (s : Stint) : List Exchange := s.log.map Stamp.exchange

/-- How often the item is done in the stint. -/
def done (s : Stint) (i : Item) : Nat := tally s.exchanges i

/-- The result of the cycle, if the stint is one. -/
def result? (s : Stint) : Option (Except Failure Summary) :=
  match s.work with
  | .cycle _ result _ => some result
  | _ => none

/-- Whether the stint is a flush that fails. -/
def FailsFlush (s : Stint) : Prop := ∃ before f after, s.work = .flush before (.error f) after

/-- Whether the stint is a cycle or a flush that fails. -/
def isCut (s : Stint) : Bool :=
  match s.work with
  | .cycle _ (.error _) _ | .flush _ (.error _) _ => true
  | _ => false

/-- How often the item is done in the stint without being counted. -/
def dropped (s : Stint) (i : Item) : Nat := if s.isCut && i.isEffect then s.done i else 0

theorem Runs.done_of_isIdle (h : s.Runs) (idle : s.IsIdle) (i : Item) : s.done i = 0 := by
  obtain ⟨work, log, start, stop⟩ := s
  have hclock : ∀ x ∈ log.map Stamp.exchange, x.request.OfClock := by
    refine List.forall_mem_map.2 ?_
    cases work with
    | look | pause | sleep => exact Timed.asks h (Proc.asks_request trivial)
    | cycle | flush => exact idle.elim
  exact countP_eq_zero fun x hx => (hclock x hx).shows i

/-- **A stint adds to the counts what it does**, except for what is dropped. -/
theorem Runs.balance (h : s.Runs) (metrics : Metrics) (i : Item) :
    (s.count metrics).counted i + s.dropped i = metrics.counted i + s.done i := by
  obtain ⟨work, log, start, stop⟩ := s
  cases work with
  | look | pause | sleep =>
    have hnone := h.done_of_isIdle (by exact trivial) i
    simp [hnone, dropped, isCut, count]
  | cycle before result after =>
    cases Timed.booked h with
    | whole cycles malformed events created deletions =>
      cases i <;> simp +arith [count, dropped, isCut, done, exchanges, Metrics.addCycle, Metrics.counted, *]
    | cut cycles malformed deletions =>
      cases i <;> simp +arith [count, dropped, isCut, done, exchanges, Metrics.addCycle, Metrics.counted,
        Item.isEffect, *]
  | flush before result after =>
    obtain ⟨deletions, others⟩ := Timed.tally_flush h
    cases result with
    | ok n =>
      cases i <;> simp [count, dropped, isCut, done, exchanges, Metrics.addFlush, Metrics.counted, others,
        deletions n rfl]
    | error f =>
      cases i <;> simp [count, dropped, isCut, done, exchanges, Metrics.addFlush, Metrics.counted,
        Item.isEffect, others]

/-- Nothing is dropped of a stint just if it is not cut short or has done nothing before that. -/
theorem Runs.dropped_eq_zero_iff (h : s.Runs) : (∀ i, s.dropped i = 0) ↔
    (s.Fails → s.done .events = 0 ∧ s.done .created = 0) ∧ (s.FailsFlush → s.done .deletions = 0) := by
  constructor
  · intro hnone
    refine ⟨?_, ?_⟩
    · rintro ⟨before, f, after, hwork⟩
      have hcut : s.isCut = true := by rw [isCut, hwork]
      exact ⟨by simpa [dropped, hcut, Item.isEffect] using hnone .events,
        by simpa [dropped, hcut, Item.isEffect] using hnone .created⟩
    · rintro ⟨before, f, after, hwork⟩
      have hcut : s.isCut = true := by rw [isCut, hwork]
      simpa [dropped, hcut, Item.isEffect] using hnone .deletions
  · rintro ⟨hcycle, hflush⟩ i
    obtain ⟨work, log, start, stop⟩ := s
    cases work with
    | look | pause | sleep => rfl
    | cycle before result after =>
      cases Timed.booked h with
      | whole => rfl
      | cut cycles malformed deletions =>
        obtain ⟨hevents, hcreated⟩ := hcycle ⟨_, _, _, rfl⟩
        cases i with
        | cycles | malformed => rfl
        | events => exact hevents
        | created => exact hcreated
        | deletions => exact deletions
    | flush before result after =>
      cases result with
      | ok n => rfl
      | error f =>
        obtain ⟨-, others⟩ := Timed.tally_flush h
        cases i with
        | cycles | malformed => rfl
        | events => exact others .events nofun
        | created => exact others .created nofun
        | deletions => exact hflush ⟨_, _, _, rfl⟩

/-- The fetches of a stint show whether it is a cycle, and whether that fails on a malformed record. -/
theorem Runs.done_eq (h : s.Runs) : s.done .cycles = s.result?.toList.length ∧
    s.done .malformed = s.result?.toList.countP isMalformed := by
  obtain ⟨work, log, start, stop⟩ := s
  cases work with
  | look | pause | sleep =>
    have hnone := h.done_of_isIdle (by exact trivial)
    exact ⟨hnone .cycles, hnone .malformed⟩
  | cycle before result after =>
    cases Timed.booked h with
    | whole cycles malformed => exact ⟨cycles, malformed⟩
    | @cut f cycles malformed =>
      refine ⟨cycles, malformed.trans ?_⟩
      cases hf : f.isMalformed <;> simp [result?, isMalformed, hf]
  | flush before result after =>
    obtain ⟨-, others⟩ := Timed.tally_flush h
    exact ⟨others .cycles nofun, others .malformed nofun⟩

end Stint

/-! ## Runs -/

variable {stints : List Stint}

/-- The results of the cycles. -/
def results (stints : List Stint) : List (Except Failure Summary) := stints.filterMap Stint.result?

/-- How often the item is done in the stints. -/
def total (stints : List Stint) (i : Item) : Nat := (stints.map fun s => s.done i).sum

/-- How often the item is done in the stints without being counted. -/
def missing (stints : List Stint) (i : Item) : Nat := (stints.map fun s => s.dropped i).sum

/-- Whether the counts at the end are those at the start and what is done in the stints. -/
def Accounted (before : Metrics) (stints : List Stint) (after : Metrics) : Prop :=
  ∀ i, after.counted i = before.counted i + total stints i

/-- What the counts at the end of a run come to. -/
structure Accounts (before : Metrics) (stints : List Stint) (after : Metrics) : Prop where
  /-- every cycle is counted, be it as deferred -/
  cycles : after.cycles + after.deferred = before.cycles + before.deferred + (results stints).length
  /-- and so is every cycle that fails on a malformed record -/
  malformed : after.malformed = before.malformed + (results stints).countP isMalformed
  /-- the counts and what they miss come to what is done -/
  balance : ∀ i, after.counted i + missing stints i = before.counted i + total stints i
  /-- what is done shows in the exchanges of the run -/
  shown : ∀ i, i ≠ .created → total stints i = tally (stints.flatMap Stint.exchanges) i
  /-- nothing is missed just if no cycle that fails has announced or created anything before, and no flush
  that fails has deleted anything before -/
  accounted_iff : Accounted before stints after ↔ ∀ s ∈ stints,
    (s.Fails → s.done .events = 0 ∧ s.done .created = 0) ∧ (s.FailsFlush → s.done .deletions = 0)

/-- **A run adds to the counts what it does**, except for what is dropped. -/
theorem balance_foldl (runs : ∀ s ∈ stints, s.Runs) (before : Metrics) (i : Item) :
    (stints.foldl Stint.count before).counted i + missing stints i = before.counted i + total stints i := by
  induction stints generalizing before with
  | nil => rfl
  | cons s stints ih =>
    obtain ⟨hs, hstints⟩ := List.forall_mem_cons.1 runs
    have hstep := hs.balance before i
    have hrest := ih hstints (s.count before)
    simp only [missing, total, List.foldl_cons, List.map_cons, List.sum_cons] at hrest ⊢
    omega

theorem total_eq (runs : ∀ s ∈ stints, s.Runs) : total stints .cycles = (results stints).length ∧
    total stints .malformed = (results stints).countP isMalformed := by
  induction stints with
  | nil => exact ⟨rfl, rfl⟩
  | cons s stints ih =>
    obtain ⟨hs, hstints⟩ := List.forall_mem_cons.1 runs
    obtain ⟨hcycles, hmalformed⟩ := hs.done_eq
    obtain ⟨hlength, hcount⟩ := ih hstints
    have hresults : results (s :: stints) = s.result?.toList ++ results stints := by
      rw [results, List.filterMap_cons]
      cases s.result? <;> rfl
    rw [hresults, List.length_append, List.countP_append, ← hcycles, ← hmalformed, ← hlength, ← hcount]
    exact ⟨rfl, rfl⟩

theorem missing_eq_zero_iff {i : Item} : missing stints i = 0 ↔ ∀ s ∈ stints, s.dropped i = 0 := by
  rw [missing, List.sum_eq_zero_iff_forall_eq_nat, List.forall_mem_map]

/-- What is created depends on what each cycle has listed; everything else shows by itself. -/
theorem total_shown {i : Item} (h : i ≠ .created) :
    total stints i = tally (stints.flatMap Stint.exchanges) i := by
  have hsame (listed listed' : List String) : Exchange.shows listed i = Exchange.shows listed' i := by
    cases i with
    | created => exact absurd rfl h
    | _ => rfl
  rw [tally, List.countP_flatMap, total]
  refine congrArg List.sum (List.map_congr_left fun s _ => ?_)
  exact congrArg (fun p => List.countP p s.exchanges) (hsame _ _)

theorem accounts_of_runs (runs : ∀ s ∈ stints, s.Runs) (before : Metrics) :
    Accounts before stints (stints.foldl Stint.count before) := by
  have hbalance := balance_foldl runs before
  obtain ⟨hcycles, hmalformed⟩ := total_eq runs
  have hcounted {i : Item} (hi : i.isEffect = false) : missing stints i = 0 :=
    missing_eq_zero_iff.2 fun s _ => by simp [Stint.dropped, hi]
  refine ⟨?_, ?_, hbalance, fun i => total_shown, ?_⟩
  · have hall := hbalance .cycles
    rwa [hcounted rfl, hcycles] at hall
  · have hall := hbalance .malformed
    rwa [hcounted rfl, hmalformed] at hall
  · calc
      Accounted before stints (stints.foldl Stint.count before) ↔ ∀ i, missing stints i = 0 :=
        forall_congr' fun i => by have := hbalance i; omega
      _ ↔ ∀ s ∈ stints, ∀ i, s.dropped i = 0 := by
        simp only [missing_eq_zero_iff]
        exact ⟨fun h s hs i => h i s hs, fun h i s hs => h s hs i⟩
      _ ↔ _ := forall₂_congr fun s hs => (runs s hs).dropped_eq_zero_iff

/-- **What the counts account for.** Whatever the replies, the time that they take and the notices on the
line, the counts at the end of every run of a watcher have every cycle, and everything else that has been
done except in stints that are cut short. -/
theorem accounts_for_done (schedule : Schedule) (w w' : Watcher) (before after : Metrics)
    (m last : Moment) (log : List Stamp) :
    (∀ rounds, Timed (watch schedule rounds w before) m log (w', after) last →
      ∃ stints, Course schedule w m stints last ∧ log = stints.flatMap Stint.log ∧
        Accounts before stints after) ∧
    (∀ result, Timed (runOnce schedule w before) m log (result, w', after) last →
      ∃ stints, Once schedule w m stints last ∧ log = stints.flatMap Stint.log ∧
        Accounts before stints after) := by
  constructor
  · intro rounds h
    obtain ⟨stints, hcourse, hlog, rfl⟩ := h.counted
    exact ⟨stints, hcourse, hlog, accounts_of_runs hcourse.runs before⟩
  · intro result h
    obtain ⟨stints, honce, hlog, rfl⟩ := h.once_counted
    exact ⟨stints, honce, hlog, accounts_of_runs honce.runs before⟩

/-! ## A watcher under strain -/

open Rehearsal (World Booth)
open Store (Memory)

/-- A store that holds two cases which are open no more, while two others are open. The fourth write and
the second deletion fail. An end is called for after three cycles. -/
def strained : World :=
  { World.new (.memory ((Memory.empty.write (.ofNat 1) (sample "0" 1 2)).write (.ofNat 2)
      (sample "1" 1 2))) with
    next := 3
    faults := [⟨.write, 3, .fail (.backend "injected")⟩, ⟨.delete, 1, .fail (.backend "injected")⟩]
    booths := [("a", { Booth.new false false with script := [.ok [sample "2" 1 2, sample "3" 1 2]] })]
    line := ⟨.quiet, [(.millis 1350, .tells true)]⟩ }

/-- The run of a watcher from there. Its first cycle fails after it has announced two closures and created
a case, and its flush fails after it has deleted one. -/
def strainedWatch : List Stamp × (Watcher × Metrics) × World :=
  (World.trace "a" (watch brisk 9 (.new false) .zero) strained).getD ([], (.new false, .zero), strained)

/-- A watcher that runs once from there. -/
def strainedOnce : List Stamp × (Except Failure Summary × Watcher × Metrics) × World :=
  (World.trace "a" (runOnce brisk (.new false) .zero) strained).getD
    ([], (.error (.store (.backend "injected")), .new false, .zero), strained)

theorem timed_strainedWatch : Timed (watch brisk 9 (.new false) .zero) strained.moment strainedWatch.1
    strainedWatch.2.1 strainedWatch.2.2.moment :=
  World.timed_getD (by decide +kernel) _

theorem timed_strainedOnce : Timed (runOnce brisk (.new false) .zero) strained.moment strainedOnce.1
    strainedOnce.2.1 strainedOnce.2.2.moment :=
  World.timed_getD (by decide +kernel) _

theorem accounts_for_done_strained :
    (∃ stints, Course brisk (.new false) strained.moment stints strainedWatch.2.2.moment ∧
      strainedWatch.1 = stints.flatMap Stint.log ∧ Accounts .zero stints strainedWatch.2.1.2) ∧
    (∃ stints, Once brisk (.new false) strained.moment stints strainedOnce.2.2.moment ∧
      strainedOnce.1 = stints.flatMap Stint.log ∧ Accounts .zero stints strainedOnce.2.1.2.2) ∧
    strainedWatch.2.1.2 = ⟨2, 0, 1, 1, 0, 0, 0⟩ ∧ strainedOnce.2.1.2.2 = ⟨0, 0, 0, 1, 0, 0, 0⟩ :=
  ⟨(accounts_for_done brisk _ _ _ _ _ _ _).1 9 timed_strainedWatch,
    (accounts_for_done brisk _ _ _ _ _ _ _).2 _ timed_strainedOnce, by decide +kernel, by decide +kernel⟩

/-- The watcher announces two closures, creates two cases and deletes one. It counts neither the
announcements nor the deletion, and one of the creations. -/
theorem unaccounted_strained :
    Timed (watch brisk 9 (.new false) .zero) strained.moment strainedWatch.1 strainedWatch.2.1
      strainedWatch.2.2.moment ∧
    (∀ stints, strainedWatch.1 = stints.flatMap Stint.log →
      ¬Accounted .zero stints strainedWatch.2.1.2) ∧
    strainedWatch.1.filterMap (·.exchange.event?) = [.closed "0", .closed "1"] ∧
    (records (strainedWatch.1.map Stamp.exchange)).map CaseRecord.number = ["0", "1", "2", "3"] ∧
    strainedWatch.1.filterMap (·.exchange.deleted?) = ["0"] ∧
    strainedWatch.2.1.2.events = 0 ∧ strainedWatch.2.1.2.created = 1 ∧
    strainedWatch.2.1.2.deletions = 0 := by
  have hfacts : strainedWatch.1.filterMap (·.exchange.event?) = [.closed "0", .closed "1"] ∧
      (records (strainedWatch.1.map Stamp.exchange)).map CaseRecord.number = ["0", "1", "2", "3"] ∧
      strainedWatch.1.filterMap (·.exchange.deleted?) = ["0"] ∧
      strainedWatch.2.1.2.events = 0 ∧ strainedWatch.2.1.2.created = 1 ∧
      strainedWatch.2.1.2.deletions = 0 := by decide +kernel
  refine ⟨timed_strainedWatch, fun stints hlog haccounted => ?_, hfacts⟩
  obtain ⟨hevents, -, -, hcounted, -⟩ := hfacts
  have htotal : total stints .events = 2 := by
    calc
      total stints .events = tally (stints.flatMap Stint.exchanges) .events := total_shown (by decide)
      _ = tally (strainedWatch.1.map Stamp.exchange) .events := by
        rw [hlog, List.map_flatMap]
        rfl
      _ = (strainedWatch.1.filterMap (·.exchange.event?)).length := by
        rw [tally, countP_events, List.filterMap_map]
        rfl
      _ = 2 := by rw [hevents, List.length_cons, List.length_singleton]
  have hall := haccounted .events
  rw [htotal] at hall
  exact absurd (hcounted.symm.trans hall) (by decide)

end CaseHerald.Watch
