import CaseHerald.Proofs.Stage

/-!
# Runs of several watchers

A property of the scene, the stages and the exchanges so far that every move preserves holds at the end
of every run (`Crew.Run.stages`); the invariants of the following modules are of this form. `Crew.play`
lets the watchers take their steps in a given order, and `Crew.run_play` says that this is a run.
-/
namespace CaseHerald.Watch

open Store (Memory Query)

variable {ι α : Type} [DecidableEq ι]

/-- What holds of the new stage of one watcher and of the old stages of the others. -/
theorem forall_update {p : ι → Stage → Prop} {stages : ι → Stage} {i : ι} {st : Stage} (hi : p i st)
    (hk : ∀ k, k ≠ i → p k (stages k)) (k : ι) : p k (Function.update stages i st k) := by
  by_cases h : k = i
  · subst h
    rwa [Function.update_self]
  · rw [Function.update_of_ne h]
    exact hk k h

namespace Crew

/-! ## Runs -/

theorem Run.trans {first second third : Crew ι α} {log more : List (ι × Exchange)}
    (h : Run first log second) (k : Run second more third) : Run first (log ++ more) third := by
  induction k with
  | start => rwa [List.append_nil]
  | step run i asks reply meets ih => rw [← List.append_assoc]; exact ih.step i asks reply meets

/-- **What every move preserves holds at the end of a run.** -/
theorem Run.stages {c : String} {Q : α → Stage → Prop} {crew crew' : Crew ι α}
    {log : List (ι × Exchange)} (run : Run crew log crew')
    (inv : Scene → (ι → Stage) → List (ι × Exchange) → Prop) {first : ι → Stage}
    (follows : ∀ i, Follows c Q (crew.programs i) (first i)) (start : inv crew.scene first [])
    (step : ∀ {s t : Scene} {stages : ι → Stage} {front back : List (ι × Exchange)} {i : ι}
      {x : Exchange} {st : Stage}, log = front ++ (i, x) :: back → inv s stages front →
      Moves c (stages i) x st → Meets s x t →
      inv t (Function.update stages i st) (front ++ [(i, x)])) :
    ∃ stages, inv crew'.scene stages log ∧ ∀ i, Follows c Q (crew'.programs i) (stages i) := by
  induction run with
  | start => exact ⟨first, start, follows⟩
  | @step mid log t run i q next asks reply meets ih =>
    obtain ⟨stages, hinv, hfollows⟩ := ih fun hlog =>
      step (by rw [hlog, List.append_assoc, List.cons_append])
    have hi := hfollows i
    rw [asks] at hi
    obtain ⟨st, hmove, hnext⟩ := hi reply
    refine ⟨Function.update stages i st, step rfl hinv hmove meets, fun k => ?_⟩
    by_cases hk : k = i
    · subst hk
      simpa using hnext
    · simpa [Function.update_of_ne hk] using hfollows k

/-- The crew in the middle of a run. -/
theorem Run.split {first last : Crew ι α} {front back : List (ι × Exchange)} {i : ι} {x : Exchange}
    (run : Run first (front ++ (i, x) :: back) last) :
    ∃ mid next t, Run first front mid ∧ mid.programs i = .ask x.request next ∧
      Meets mid.scene x t := by
  generalize hlog : front ++ (i, x) :: back = log at run
  induction run generalizing back with
  | start => simp at hlog
  | @step mid log t run k q next asks reply meets ih =>
    rcases List.eq_nil_or_concat back with rfl | ⟨back, y, rfl⟩
    · obtain ⟨rfl, hone⟩ := List.append_inj' hlog rfl
      cases hone
      exact ⟨mid, next, t, run, asks, meets⟩
    · rw [List.concat_eq_append, ← List.cons_append, ← List.append_assoc] at hlog
      exact ih (List.append_inj' hlog rfl).1

/-- **What every move preserves holds before every exchange**, which is a move itself. -/
theorem Run.stages_split {c : String} {Q : α → Stage → Prop} {crew last : Crew ι α}
    {log front back : List (ι × Exchange)} {i : ι} {x : Exchange} (run : Run crew log last)
    (hlog : log = front ++ (i, x) :: back)
    (inv : Scene → (ι → Stage) → List (ι × Exchange) → Prop) {first : ι → Stage}
    (follows : ∀ i, Follows c Q (crew.programs i) (first i)) (start : inv crew.scene first [])
    (step : ∀ {s t : Scene} {stages : ι → Stage} {front back : List (ι × Exchange)} {i : ι}
      {x : Exchange} {st : Stage}, log = front ++ (i, x) :: back → inv s stages front →
      Moves c (stages i) x st → Meets s x t →
      inv t (Function.update stages i st) (front ++ [(i, x)])) :
    ∃ mid t stages st, Run crew front mid ∧ inv mid.scene stages front ∧
      Moves c (stages i) x st ∧ Meets mid.scene x t := by
  obtain ⟨mid, next, t, hfront, asks, hmeets⟩ := (hlog ▸ run).split
  obtain ⟨stages, hinv, hfollows⟩ := hfront.stages inv follows start fun hback =>
    step (by rw [hlog, hback, List.append_assoc, List.cons_append])
  have hi := hfollows i
  rw [asks] at hi
  obtain ⟨st, hmove, -⟩ := hi x.reply
  exact ⟨mid, t, stages, st, hfront, hinv, hmove, hmeets⟩

omit [DecidableEq ι] in
/-- The stage of a watcher whose program has come to its result. -/
theorem Ended.stage {c : String} {Q : α → Stage → Prop} {crew : Crew ι α} (h : crew.Ended)
    {stages : ι → Stage} (follows : ∀ i, Follows c Q (crew.programs i) (stages i)) (i : ι) :
    ∃ a, Q a (stages i) := by
  obtain ⟨a, ha⟩ := h i
  have hi := follows i
  rw [ha] at hi
  exact ⟨a, hi⟩

end Crew

/-! ## Cycles and flushes in turn -/

/-- What a watcher does as a whole. -/
inductive Turn
  | cycle
  | flush

/-- Cycles and flushes of one watcher, one after the other. -/
def takeTurns : List Turn → Watcher → Proc interface Watcher
  | [], w => .done w
  | .cycle :: rest, w => cycle w >>= fun r => takeTurns rest r.2
  | .flush :: rest, w => flush w >>= fun r => takeTurns rest r.2

/-- Watchers that take their turns, before their first. -/
def party (scene : Scene) (turns : ι → List Turn) (watchers : ι → Watcher) : Crew ι Watcher :=
  ⟨scene, fun i => takeTurns (turns i) (watchers i)⟩

theorem follows_takeTurns {c : String} (turns : List Turn) (w : Watcher) :
    Follows c (fun _ st => st = .due []) (takeTurns turns w) (.due []) := by
  induction turns generalizing w with
  | nil => rfl
  | cons turn rest ih =>
    cases turn with
    | cycle => exact (follows_cycle w Stage.rests_due).bind fun r st hst => hst ▸ ih r.2
    | flush => exact (follows_flush w).bind fun r st hst => hst ▸ ih r.2

/-! ## Playing a run -/

namespace Scene

/-- Whether a token is new. -/
def isFresh (s : Scene) (g : Guid) : Bool :=
  !s.minted.contains g && s.store.snapshots.values.all (fun a => a.guid ≠ g) &&
    s.store.markers.values.all (fun m => m.guid ≠ g)

theorem fresh_of_isFresh {s : Scene} {g : Guid} (h : s.isFresh g) : s.Fresh g := by
  simp only [isFresh, Bool.and_eq_true, List.all_eq_true, decide_eq_true_eq] at h
  obtain ⟨⟨hminted, hkept⟩, hmarked⟩ := h
  exact ⟨by simpa using hminted, fun c a ha => hkept a (Table.mem_values.2 ⟨_, ha⟩),
    fun c t m hm => hmarked m (Table.mem_values.2 ⟨_, hm⟩)⟩

/-- A reply to a request where nothing fails: `live` is what a fetch brings, and `g` the token of a
write. -/
def serve (s : Scene) (live : List CaseRecord) (g : Guid) : (q : Request) → q.Reply × Scene
  | .fetch => (.ok live, s)
  | .store q => ((s.store.answer g q).1, ⟨(s.store.answer g q).2, tokens q g ++ s.minted⟩)
  | .announce _ => (.ok (), s)
  | .find l => (.error (.tooDeep l.resource 0), s)
  | .subscribe .. => (.ok [], s)
  | .comment _ => (.ok (), s)
  | .sleep _ => ((), s)
  | .pause _ => (false, s)
  | .isStopping => (false, s)

theorem meets_serve {s : Scene} (live : List CaseRecord) {g : Guid} (hg : s.Fresh g) (q : Request) :
    Meets s ⟨q, (s.serve live g q).1⟩ (s.serve live g q).2 := by
  cases q with
  | store q =>
    refine .step g (fun h hh => ?_) rfl
    cases q with
    | write r => rwa [List.mem_singleton.1 hh]
    | _ => cases hh
  | _ => exact .other fun _ h => by cases h

end Scene

/-- The steps of some watchers in the given order, each with what a fetch would bring and the token that
a write would get. -/
def Crew.play : List (ι × List CaseRecord × Guid) → Crew ι α → Option (List (ι × Exchange) × Crew ι α)
  | [], crew => some ([], crew)
  | (i, live, g) :: rest, crew =>
    match crew.programs i with
    | .ask q next =>
      let r := crew.scene.serve live g q
      if crew.scene.isFresh g then
        (play rest ⟨r.2, Function.update crew.programs i (next r.1)⟩).map fun p =>
          ((i, ⟨q, r.1⟩) :: p.1, p.2)
      else none
    | _ => none

theorem Crew.run_play {turns : List (ι × List CaseRecord × Guid)} {crew crew' : Crew ι α}
    {log : List (ι × Exchange)} (h : crew.play turns = some (log, crew')) : Run crew log crew' := by
  induction turns generalizing crew log with
  | nil =>
    cases h
    exact .start
  | cons turn rest ih =>
    obtain ⟨i, live, g⟩ := turn
    rw [play] at h
    split at h
    next q next asks =>
      split at h
      next hfresh =>
        obtain ⟨⟨more, last⟩, hplay, heq⟩ := Option.map_eq_some_iff.1 h
        cases heq
        have hone := Run.start.step i asks _
          (crew.scene.meets_serve live (Scene.fresh_of_isFresh hfresh) q)
        exact hone.trans (ih hplay)
      next => cases h
    next => cases h

/-- The exchanges of a played run, and the watchers at its end. -/
def Crew.played (crew : Crew ι α) (turns : List (ι × List CaseRecord × Guid)) :
    List (ι × Exchange) × Crew ι α := (crew.play turns).getD ([], crew)

theorem Crew.run_played {crew : Crew ι α} {turns : List (ι × List CaseRecord × Guid)}
    (h : (crew.play turns).isSome) : Run crew (crew.played turns).1 (crew.played turns).2 := by
  obtain ⟨p, hp⟩ := Option.isSome_iff_exists.1 h
  rw [played, hp]
  exact run_play hp

/-- A program alone, whose fetches bring `live`, with tokens in ascending order: its exchanges, its
result and the scene at its end. -/
def playAlone (live : List CaseRecord) :
    Scene → Proc interface α → Option (List Exchange × α × Scene)
  | s, .done a => some ([], a, s)
  | s, .ask q next =>
    let g := Guid.ofNat (s.minted.length + 1)
    let r := s.serve live g q
    if s.isFresh g then
      (playAlone live r.2 (next r.1)).map fun p => (⟨q, r.1⟩ :: p.1, p.2)
    else none
  | _, .halt _ => none

theorem runs_playAlone {live : List CaseRecord} {s t : Scene} {p : Proc interface α}
    {log : List Exchange} {a : α} (h : playAlone live s p = some (log, a, t)) : Runs p s log a t := by
  induction p generalizing s log with
  | done b =>
    cases h
    exact .done
  | ask q next ih =>
    rw [playAlone] at h
    split at h
    next hfresh =>
      obtain ⟨⟨more, rest⟩, hplay, heq⟩ := Option.map_eq_some_iff.1 h
      cases heq
      exact .ask (Scene.meets_serve live (Scene.fresh_of_isFresh hfresh) q) (ih _ hplay)
    next => cases h
  | halt crash => cases h

/-- A play that comes to its end is a run. -/
theorem runs_getD {p : Proc interface α} {s : Scene} {play : Option (List Exchange × α × Scene)}
    (h : ∀ log a t, play = some (log, a, t) → Runs p s log a t) (ends : play.isSome)
    (other : List Exchange × α × Scene) :
    Runs p s (play.getD other).1 (play.getD other).2.1 (play.getD other).2.2 := by
  obtain ⟨⟨log, a, t⟩, rfl⟩ := Option.isSome_iff_exists.1 ends
  exact h log a t rfl

/-- Turns in the given order, with what each would fetch, and with tokens in ascending order. -/
def turnsOver (live : Nat → List CaseRecord) (order : List ι) :
    List (ι × List CaseRecord × Guid) :=
  order.zipIdx.map fun x => (x.1, live x.2, .ofNat (x.2 + 1))

/-! ## Sample records -/

/-- Some seconds after the start of 1970. -/
def instantAt (n : Nat) : Instant := (Instant.of? n 0).getD .closingMark

/-- An open case of a priority up to four, updated at the second. -/
def sample (number : String) (n priority : Nat) : CaseRecord :=
  ⟨number, "", "", .active, (Priority.ofNat? priority).getD ⟨Fin.last 4⟩, false, instantAt n, []⟩

end CaseHerald.Watch
