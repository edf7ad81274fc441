import CaseHerald.Proofs.Crew
import CaseHerald.Proofs.Handled
import CaseHerald.Proofs.Perform
import CaseHerald.Rehearsal.World
import Mathlib.Data.List.Nodup

/-!
# The queue of deletions

A cycle adds its cases to the queue behind those that wait already, each once; a flush takes from the
front of the queue what it has deleted. What has been deleted and what still waits together are always
the queue that there was, so that flushes which are repeated until one does not fail delete each case
exactly once, whatever fails in between: `flush_loses_nothing`. All of this holds of any store. That the
last store is that of a single flush takes a store whose deletions depend on its contents alone and which
a deletion that fails leaves as it was; both stores are so, whatever their faults (`erases_handler`).

## Main definitions

* `Watcher.Reached w` - `w` comes about from a new watcher by cycles and flushes, whatever the replies.
* `Deletes h s cases t` - the deletions of the cases, one after the other, all succeed.
* `Retries h view w s log w' t` - flushes up to the first one that succeeds.
-/
namespace CaseHerald.Watch

variable {σ τ : Type}

/-! ## The queue of a watcher -/

namespace Watcher

theorem nodup_enqueue {queue : List String} (h : queue.Nodup) (c : String) :
    (enqueue queue c).Nodup := by
  unfold enqueue
  split
  · exact h
  next hnew =>
    rw [← List.concat_eq_append]
    exact h.concat (by simpa using hnew)

theorem prefix_enqueue (queue : List String) (c : String) : queue <+: enqueue queue c := by
  unfold enqueue
  split
  · exact List.prefix_refl _
  · exact List.prefix_append _ _

/-- The watchers that come about from a new one by cycles and flushes, whatever the replies. -/
inductive Reached : Watcher → Prop
  | new (subscribes : Bool) : Reached (.new subscribes)
  | cycle {w w' : Watcher} (h : Reached w) {σ : Type} {handler : Proc.Handler interface σ} {s t : σ}
      {log : List Exchange} {r : Except Failure Summary}
      (run : Handled handler (cycle w) s log (r, w') t) : Reached w'
  | flush {w w' : Watcher} (h : Reached w) {σ : Type} {handler : Proc.Handler interface σ} {s t : σ}
      {log : List Exchange} {r : Except Failure Nat}
      (run : Handled handler (flush w) s log (r, w') t) : Reached w'

end Watcher

/-- Watchers that take their turns are reached. -/
theorem Watcher.Reached.takeTurns {w w' : Watcher} (h : w.Reached) {handler : Proc.Handler interface σ}
    {turns : List Turn} {s t : σ} {log : List Exchange}
    (run : Handled handler (takeTurns turns w) s log w' t) : w'.Reached := by
  induction turns generalizing w s log with
  | nil =>
    cases run.run
    exact h
  | cons turn turns ih =>
    cases turn with
    | cycle =>
      obtain ⟨_, _, r, _, -, hcycle, hrest⟩ := run.of_bind
      exact ih (h.cycle hcycle) hrest
    | flush =>
      obtain ⟨_, _, r, _, -, hflush, hrest⟩ := run.of_bind
      exact ih (h.flush hflush) hrest

/-- A cycle keeps the queue and adds to its end, each case once. -/
theorem yields_cycle_queue (w : Watcher) :
    (cycle w).Yields fun r => w.queue <+: r.2.queue ∧ (w.queue.Nodup → r.2.queue.Nodup) := by
  refine Proc.yields_bind fun r => ?_
  cases r with
  | error f => exact ⟨List.prefix_refl _, id⟩
  | ok a =>
    have hqueue : w.queue <+: (w.after a.2).queue ∧ (w.queue.Nodup → (w.after a.2).queue.Nodup) := by
      rw [Watcher.after]
      generalize w.queue = queue
      induction a.2.deletions generalizing queue with
      | nil => exact ⟨List.prefix_refl _, id⟩
      | cons c cases ih =>
        obtain ⟨hkeeps, hnodup⟩ := ih (Watcher.enqueue queue c)
        exact ⟨(Watcher.prefix_enqueue queue c).trans hkeeps,
          fun h => hnodup (Watcher.nodup_enqueue h c)⟩
    cases w.subscribes with
    | true => exact Proc.yields_bind fun summary => hqueue
    | false => exact hqueue

/-- A flush leaves the end of the queue. -/
theorem yields_flush_queue (w : Watcher) : (flush w).Yields fun r => r.2.queue <:+ w.queue := by
  have hdelete (count : Nat) (cases : List String) :
      (deleteAll count cases).Yields fun r => ∀ f left, r = .error (f, left) → left <:+ cases := by
    induction cases generalizing count with
    | nil => nofun
    | cons c cases ih =>
      refine Proc.yields_bind fun r => ?_
      cases r with
      | ok a =>
        refine Proc.Yields.mono (ih (count + 1)) fun r hr f left h => ?_
        exact (hr f left h).trans (List.suffix_cons _ _)
      | error e =>
        intro f left h
        cases h
        exact List.suffix_refl _
  refine (hdelete 0 w.queue).bind fun r hr => ?_
  cases r with
  | ok count => exact List.nil_suffix
  | error e => exact hr e.1 e.2 rfl

theorem Watcher.Reached.nodup_queue {w : Watcher} (h : w.Reached) : w.queue.Nodup := by
  induction h with
  | new => exact List.nodup_nil
  | cycle _ run ih => exact (run.yields (yields_cycle_queue _)).2 ih
  | flush _ run ih => exact ih.sublist (run.yields (yields_flush_queue _)).sublist

/-! ## One flush -/

/-- The handler deletes the cases, one after the other. -/
inductive Deletes (h : Proc.Handler interface σ) : σ → List String → σ → Prop
  | nil {s : σ} : Deletes h s [] s
  | cons {s t u : σ} {c : String} {cases : List String}
      (first : h (.store (.delete c)) s = (.ok (), t)) (others : Deletes h t cases u) :
      Deletes h s (c :: cases) u

/-- The handler deletes the cases before a place and fails to delete the one there. -/
structure Fails (h : Proc.Handler interface σ) (s : σ) (cases : List String) (place : Nat) (c : String)
    (f : StoreFailure) (t : σ) : Prop where
  case_eq : cases[place]? = some c
  fails : ∃ u, Deletes h s (cases.take place) u ∧ h (.store (.delete c)) u = (.error f, t)

/-- The exchange in which the deletion of a case fails. -/
def failedDeletion (c : String) (f : StoreFailure) : Exchange := ⟨.store (.delete c), .error f⟩

section Flush

variable {h : Proc.Handler interface σ} {s t u : σ} {cases : List String} {count place : Nat}
  {c : String} {f : StoreFailure}

theorem deletes_or_fails (h : Proc.Handler interface σ) (s : σ) (cases : List String) :
    (∃ t, Deletes h s cases t) ∨ ∃ place c f t, Fails h s cases place c f t := by
  induction cases generalizing s with
  | nil => exact .inl ⟨s, .nil⟩
  | cons c cases ih =>
    cases hc : h (.store (.delete c)) s with
    | mk reply t =>
      cases reply with
      | error f => exact .inr ⟨0, c, f, t, rfl, s, .nil, hc⟩
      | ok a =>
        rcases ih t with ⟨u, hu⟩ | ⟨place, d, f, u, hplace, v, hv, hfails⟩
        · exact .inl ⟨u, .cons hc hu⟩
        · exact .inr ⟨place + 1, d, f, u, hplace, v, .cons hc hv, hfails⟩

theorem Deletes.handled (hd : Deletes h s cases t) (count : Nat) :
    Handled h (deleteAll count cases) s (cases.map deletion) (.ok (count + cases.length)) t := by
  induction hd generalizing count with
  | nil => exact .done h _ _
  | cons first _ ih =>
    have hrest := ih (count + 1)
    rw [Nat.add_assoc, Nat.add_comm 1] at hrest
    exact .ask first hrest

theorem Fails.handled (hf : Fails h s cases place c f t) :
    Handled h (deleteAll count cases) s ((cases.take place).map deletion ++ [failedDeletion c f])
      (.error (.store f, cases.drop place)) t := by
  obtain ⟨hplace, u, hd, hfails⟩ := hf
  induction cases generalizing s place count with
  | nil => cases hplace
  | cons d cases ih =>
    cases place with
    | zero =>
      obtain rfl : d = c := by simpa using hplace
      cases hd
      exact .ask hfails (.done h _ _)
    | succ place =>
      rw [List.take_succ_cons] at hd ⊢
      cases hd with
      | cons first others => exact .ask first (ih hplace others)

/-- What a flush comes to from a state of the handler. -/
structure FlushesInOrder (h : Proc.Handler interface σ) (w : Watcher) (s : σ) : Prop where
  /-- if nothing fails, every case is deleted -/
  smooth : ∀ t, Deletes h s w.queue t →
    Handled h (flush w) s (w.queue.map deletion) (.ok w.queue.length, { w with queue := [] }) t
  /-- if a deletion fails, those before its place are made, and the queue goes on from there -/
  fault : ∀ place c f t, Fails h s w.queue place c f t →
    Handled h (flush w) s ((w.queue.take place).map deletion ++ [failedDeletion c f])
      (.error (.store f), { w with queue := w.queue.drop place }) t
  /-- there is nothing else that it could come to -/
  total : (∃ t, Deletes h s w.queue t) ∨ ∃ place c f t, Fails h s w.queue place c f t

/-- What a flush comes to by its deletions. -/
def Watcher.flushed (w : Watcher) : Except (Failure × List String) Nat → Except Failure Nat × Watcher
  | .ok count => (.ok count, { w with queue := [] })
  | .error (f, left) => (.error f, { w with queue := left })

theorem handled_flush {w : Watcher} {log : List Exchange} {r : Except (Failure × List String) Nat}
    (hd : Handled h (deleteAll 0 w.queue) s log r t) : Handled h (flush w) s log (w.flushed r) t := by
  cases r with
  | ok count => exact hd.bind_done rfl
  | error e => exact hd.bind_done rfl

theorem flushes_in_order (h : Proc.Handler interface σ) (w : Watcher) (s : σ) :
    FlushesInOrder h w s where
  smooth t hd := by
    have hall := handled_flush (hd.handled 0)
    rwa [Nat.zero_add] at hall
  fault place c f t hf := handled_flush hf.handled
  total := deletes_or_fails h s w.queue

end Flush

/-! ## Flushes that are repeated -/

/-- A handler with contents on which deletions depend, and which those that fail leave alone. -/
structure Erases (h : Proc.Handler interface σ) (view : σ → τ) (erase : String → τ → τ) : Prop where
  ok : ∀ {c s t}, h (.store (.delete c)) s = (.ok (), t) → view t = erase c (view s)
  error : ∀ {c s t f}, h (.store (.delete c)) s = (.error f, t) → view t = view s

/-- Flushes up to the first that succeeds. Between two of them whatever there is beside the contents of
the handler may change. -/
inductive Retries (h : Proc.Handler interface σ) (view : σ → τ) :
    Watcher → σ → List Exchange → Watcher → σ → Prop
  | last {w w' : Watcher} {s t : σ} {log : List Exchange} {count : Nat}
      (run : Handled h (flush w) s log (.ok count, w') t) : Retries h view w s log w' t
  | again {w mid w' : Watcher} {s s₁ s₂ t : σ} {log more : List Exchange} {f : Failure}
      (run : Handled h (flush w) s log (.error f, mid) s₁) (same : view s₂ = view s₁)
      (later : Retries h view mid s₂ more w' t) : Retries h view w s (log ++ more) w' t

section Retries

variable {h : Proc.Handler interface σ} {view : σ → τ} {erase : String → τ → τ} {s t : σ}
  {cases : List String}

theorem Deletes.view_eq (he : Erases h view erase) (hd : Deletes h s cases t) :
    view t = cases.foldl (fun m c => erase c m) (view s) := by
  induction hd with
  | nil => rfl
  | cons first _ ih => rw [ih, he.ok first, List.foldl_cons]

theorem filterMap_deleted?_deletion (cases : List String) :
    (cases.map deletion).filterMap Exchange.deleted? = cases := by
  rw [List.filterMap_map]
  exact List.filterMap_some

/-- **Flushes that are repeated until one succeeds** delete the queue in order, as a single one does. -/
theorem Retries.settled {w w' : Watcher} {log : List Exchange} (hr : Retries h view w s log w' t) :
    log.filterMap Exchange.deleted? = w.queue ∧ w' = { w with queue := [] } ∧
      ∀ {erase : String → τ → τ}, Erases h view erase →
        view t = w.queue.foldl (fun m c => erase c m) (view s) := by
  induction hr with
  | @last w w' s t log count run =>
    have hflush := flushes_in_order h w s
    rcases hflush.total with ⟨u, hd⟩ | ⟨place, c, f, u, hf⟩
    · obtain ⟨hw, rfl, rfl⟩ := (hflush.smooth u hd).unique run
      cases hw
      exact ⟨filterMap_deleted?_deletion _, rfl, fun he => hd.view_eq he⟩
    · cases ((hflush.fault place c f u hf).unique run).1
  | @again w mid w' s s₁ s₂ t log more f run same later ih =>
    have hflush := flushes_in_order h w s
    rcases hflush.total with ⟨u, hd⟩ | ⟨place, c, f, u, hf⟩
    · cases ((hflush.smooth u hd).unique run).1
    · obtain ⟨hw, rfl, rfl⟩ := (hflush.fault place c f u hf).unique run
      cases hw
      -- what has been deleted and what is left are the queue
      obtain ⟨hlog, hlast, hview⟩ := ih
      obtain ⟨-, v, hd, hfails⟩ := hf
      refine ⟨?_, hlast, fun he => ?_⟩
      · have hnone : [failedDeletion c f].filterMap Exchange.deleted? = [] := rfl
        rw [List.filterMap_append, List.filterMap_append, hnone, hlog, filterMap_deleted?_deletion,
          List.append_nil, List.take_append_drop]
      · rw [hview he, same, he.error hfails, hd.view_eq he, ← List.foldl_append,
          List.take_append_drop]

end Retries

/-! ## Both stores, whatever their faults -/

section Stores

open Rehearsal (World Backing takeFault)

/-- The contents of a store, whether it may be written or not. -/
def contents : Backing → Backing
  | .memory m => .memory { m with writable := true }
  | b => b

/-- The contents without a case. -/
def without (c : String) (b : Backing) : Backing := (b.answer (.ofNat 0) (.delete c)).2

theorem contents_of_delete {b b' : Backing} {g : Guid} {c : String} {a : Unit}
    (h : b.answer g (.delete c) = (.ok a, b')) : contents b' = without c (contents b) := by
  cases b with
  | memory m =>
    simp only [Backing.answer, Store.Memory.answer] at h
    split at h <;> cases h
    rfl
  | volume v space =>
    have hstep : v.step (.ofNat 0) space (.delete c) = v.step g space (.delete c) := rfl
    simp only [contents, without, Backing.answer, Store.Volume.answer, hstep] at h ⊢
    split at h <;> cases h
    rfl
  | closed v f => cases h

theorem eq_of_failed_delete {b b' : Backing} {g : Guid} {c : String} {f : StoreFailure}
    (h : b.answer g (.delete c) = (.error f, b')) : b' = b := by
  cases b with
  | memory m =>
    simp only [Backing.answer, Store.Memory.answer] at h
    split at h <;> cases h
    rfl
  | volume v space =>
    simp only [Backing.answer, Store.Volume.answer] at h
    split at h <;> cases h
    rfl
  | closed v f =>
    cases h
    rfl

/-- A deletion is a fault or a step on the store. -/
theorem ask_delete {w w' : World} {c : String} {reply : Except StoreFailure Unit}
    (h : w.ask (.delete c) = (reply, w')) :
    (∃ f, reply = .error f ∧ w'.backing = w.backing) ∨
      w.backing.answer (.ofNat w.next) (.delete c) = (reply, w'.backing) := by
  have hcall : Rehearsal.Call.ofQuery? (.delete c) = some .delete := rfl
  simp only [World.ask, hcall] at h
  cases hfault : takeFault .delete w.faults with
  | mk effect faults =>
    rw [hfault] at h
    cases effect with
    | none =>
      cases h
      exact .inr rfl
    | some effect =>
      cases effect with
      | fail f =>
        cases h
        exact .inl ⟨f, rfl, rfl⟩
      | raced | missing =>
        cases h
        exact .inr rfl

/-- **Both stores erase**, whatever their faults. -/
theorem erases_handler (name : String) :
    Erases (World.handler name) (fun w => contents w.backing) without where
  ok {c s t} h := by
    rcases ask_delete h with ⟨f, hreply, -⟩ | hstep
    · cases hreply
    · exact contents_of_delete hstep
  error {c s t f} h := by
    rcases ask_delete h with ⟨-, -, hsame⟩ | hstep
    · exact congrArg contents hsame
    · exact congrArg contents (eq_of_failed_delete hstep)

end Stores

/-! ## The law of the queue -/

/-- What repeated flushes come to from a state of the handler. -/
structure RetriesSettle (h : Proc.Handler interface σ) (view : σ → τ) (w : Watcher) (s : σ)
    (log : List Exchange) (w' : Watcher) (t : σ) : Prop where
  /-- the queue has been deleted in order -/
  deleted : log.filterMap Exchange.deleted? = w.queue
  once : ∀ c ∈ w.queue, (log.filterMap Exchange.deleted?).count c = 1
  watcher : w' = { w with queue := [] }
  /-- the contents are those after a single flush -/
  view_eq : ∀ {erase : String → τ → τ}, Erases h view erase → ∀ {s' t' log' count w''},
    view s' = view s → Handled h (flush w) s' log' (.ok count, w'') t' → view t = view t'

/-- **The queue loses nothing.** No case is in it twice, and a cycle adds to its end. On every store a
flush deletes the queue in order up to the first deletion that fails and keeps the rest, and flushes that
are repeated until one succeeds delete each case exactly once and leave what a single one does. -/
theorem flush_loses_nothing {w : Watcher} (hw : w.Reached) :
    w.queue.Nodup ∧ (cycle w).Yields (fun r => w.queue <+: r.2.queue) ∧
      ∀ {σ : Type} (h : Proc.Handler interface σ), (∀ s, FlushesInOrder h w s) ∧
        ∀ {τ : Type} (view : σ → τ) (s log w' t), Retries h view w s log w' t →
          RetriesSettle h view w s log w' t := by
  refine ⟨hw.nodup_queue, (yields_cycle_queue w).mono fun _ h => h.1, fun h => ?_⟩
  refine ⟨flushes_in_order h w, fun view s log w' t hr => ?_⟩
  obtain ⟨hlog, hlast, hview⟩ := hr.settled
  refine ⟨hlog, fun c hc => ?_, hlast, @fun erase he s' t' log' count w'' hsame run => ?_⟩
  · rw [hlog, hw.nodup_queue.count, if_pos hc]
  · have hone : Retries h view w s' log' w'' t' := .last run
    rw [hview he, hone.settled.2.2 he, hsame]

/-! ## Flushes that fail twice -/

open Rehearsal (World Booth)

/-- A watcher finds three cases open and then none. -/
def ending : World :=
  { World.new (.memory .empty) with
    booths := [("a", { Booth.new false false with
      script := [.ok [sample "1" 1 2, sample "2" 1 2, sample "3" 1 2], .ok []] })] }

/-- The watcher after these cycles. -/
def burdened : Watcher :=
  match (takeTurns [.cycle, .cycle] (.new false)).run (World.handler "a") ending with
  | (.ok w, _) => w
  | (.error _, _) => .new false

theorem reached_burdened : burdened.Reached := by
  unfold burdened
  split
  next run => exact (Watcher.Reached.new false).takeTurns ⟨run, rfl⟩
  · exact .new false

/-- A store of which every second deletion fails, two times. -/
def faulty : World :=
  let fault : Rehearsal.Fault := ⟨.delete, 1, .fail (.backend "full")⟩
  { World.new (.memory .empty) with faults := [fault, fault] }

/-- The surroundings after a deletion. -/
def afterDelete (s : World) (c : String) : World := (World.handler "a" (.store (.delete c)) s).2

theorem flush_loses_nothing_twice :
    burdened.Reached ∧ burdened.queue = ["1", "2", "3"] ∧
      Erases (World.handler "a") (fun s => contents s.backing) without ∧
      ∃ log w' t, Retries (World.handler "a") (fun s => contents s.backing) burdened faulty log w' t ∧
        log.filterMap Exchange.failed? = [.delete "2", .delete "3"] ∧
        RetriesSettle (World.handler "a") (fun s => contents s.backing) burdened faulty log w' t := by
  have hqueue : burdened.queue = ["1", "2", "3"] := by decide +kernel
  obtain ⟨-, -, hlaw⟩ := flush_loses_nothing reached_burdened
  obtain ⟨hflush, hsettle⟩ := hlaw (World.handler "a")
  let first := afterDelete (afterDelete faulty "1") "2"
  let second := afterDelete (afterDelete first "2") "3"
  have run₁ := (hflush faulty).fault 1 "2" (.backend "full") first
    ⟨by rw [hqueue]; rfl, _, by rw [hqueue]; exact .cons rfl .nil, rfl⟩
  rw [hqueue] at run₁
  have run₂ := (flushes_in_order (World.handler "a") { burdened with queue := ["2", "3"] } first).fault
    1 "3" (.backend "full") second ⟨rfl, _, .cons rfl .nil, rfl⟩
  have run₃ := (flushes_in_order (World.handler "a") { burdened with queue := ["3"] } second).smooth
    (afterDelete second "3") (.cons rfl .nil)
  have hretries : Retries (World.handler "a") (fun s => contents s.backing) burdened faulty _ _ _ :=
    .again run₁ rfl (.again run₂ rfl (.last run₃))
  exact ⟨reached_burdened, hqueue, erases_handler "a", _, _, _, hretries, rfl,
    hsettle _ _ _ _ _ hretries⟩

end CaseHerald.Watch
