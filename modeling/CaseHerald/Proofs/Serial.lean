import CaseHerald.Proofs.Chronicle
import CaseHerald.Proofs.Perform

/-!
# Watchers that take turns

Watchers on a common scene may act one at a time, each with a whole cycle or a whole flush, in any
order and with any failures (`Serial`). `Team.played` lets the watchers take turns in a given order
without failures.
-/
namespace CaseHerald.Watch

/-- Watchers on a common scene, between their acts. -/
structure Team (ι : Type) where
  scene : Scene
  watchers : ι → Watcher

/-- A whole cycle or flush of a watcher, with its exchanges. -/
structure Act (ι : Type) where
  who : ι
  turn : Turn
  log : List Exchange

variable {ι : Type}

/-- The exchanges of some acts, in order. -/
def logOf (acts : List (Act ι)) : List Exchange := acts.flatMap (·.log)

@[simp] theorem logOf_append (acts more : List (Act ι)) :
    logOf (acts ++ more) = logOf acts ++ logOf more := List.flatMap_append

@[simp] theorem logOf_singleton (i : ι) (turn : Turn) (log : List Exchange) :
    logOf [⟨i, turn, log⟩] = log := List.append_nil log

/-- Who has had which turn, in order. -/
def scheduleOf (acts : List (Act ι)) : List (ι × Turn) := acts.map fun act => (act.who, act.turn)

@[simp] theorem scheduleOf_append (acts more : List (Act ι)) :
    scheduleOf (acts ++ more) = scheduleOf acts ++ scheduleOf more := List.map_append

@[simp] theorem scheduleOf_singleton (i : ι) (turn : Turn) (log : List Exchange) :
    scheduleOf [⟨i, turn, log⟩] = [(i, turn)] := rfl

variable [DecidableEq ι]

/-- Acts of some watchers, one after the other. -/
inductive Serial : Team ι → List (Act ι) → Team ι → Prop
  | start {team : Team ι} : Serial team [] team
  | cycle {first mid : Team ι} {acts : List (Act ι)} {log : List Exchange}
      {r : Except Failure Summary} {w : Watcher} {t : Scene} (earlier : Serial first acts mid) (i : ι)
      (runs : Runs (cycle (mid.watchers i)) mid.scene log (r, w) t) :
      Serial first (acts ++ [⟨i, .cycle, log⟩]) ⟨t, Function.update mid.watchers i w⟩
  | flush {first mid : Team ι} {acts : List (Act ι)} {log : List Exchange}
      {r : Except Failure Nat} {w : Watcher} {t : Scene} (earlier : Serial first acts mid) (i : ι)
      (runs : Runs (flush (mid.watchers i)) mid.scene log (r, w) t) :
      Serial first (acts ++ [⟨i, .flush, log⟩]) ⟨t, Function.update mid.watchers i w⟩

namespace Serial

variable {first last : Team ι} {acts front back : List (Act ι)}

theorem append {mid : Team ι} (h : Serial first front mid) (h' : Serial mid back last) :
    Serial first (front ++ back) last := by
  induction h' with
  | start => rwa [List.append_nil]
  | cycle _ i runs ih =>
    rw [← List.append_assoc]
    exact .cycle ih i runs
  | flush _ i runs ih =>
    rw [← List.append_assoc]
    exact .flush ih i runs

theorem passes (h : Serial first acts last) : Passes first.scene (logOf acts) last.scene := by
  induction h with
  | start => exact .nil
  | cycle _ i runs ih =>
    rw [logOf_append, logOf_singleton]
    exact ih.append runs.passes
  | flush _ i runs ih =>
    rw [logOf_append, logOf_singleton]
    exact ih.append runs.passes

end Serial

/-! ## Playing a run -/

namespace Team

/-- One more act, with what a fetch brings. -/
def playAct : List (Act ι) × Team ι → ι × Turn × List CaseRecord → Option (List (Act ι) × Team ι)
  | (acts, team), (i, .cycle, live) =>
    (playAlone live team.scene (cycle (team.watchers i))).map fun p =>
      (acts ++ [⟨i, .cycle, p.1⟩], ⟨p.2.2, Function.update team.watchers i p.2.1.2⟩)
  | (acts, team), (i, .flush, live) =>
    (playAlone live team.scene (flush (team.watchers i))).map fun p =>
      (acts ++ [⟨i, .flush, p.1⟩], ⟨p.2.2, Function.update team.watchers i p.2.1.2⟩)

/-- The acts in the given order, with what a fetch brings in each, and the team after them. -/
def played (team : Team ι) (turns : List (ι × Turn × List CaseRecord)) : List (Act ι) × Team ι :=
  (turns.foldlM playAct ([], team)).getD ([], team)

end Team

theorem Serial.play {first last mid : Team ι} {acts more : List (Act ι)}
    {turns : List (ι × Turn × List CaseRecord)} (h : Serial first acts mid)
    (hplay : turns.foldlM Team.playAct (acts, mid) = some (more, last)) :
    Serial first more last := by
  induction turns generalizing acts mid with
  | nil =>
    cases hplay
    exact h
  | cons turn rest ih =>
    rw [List.foldlM_cons] at hplay
    obtain ⟨⟨acts', mid'⟩, hone, hrest⟩ := Option.bind_eq_some_iff.1 hplay
    obtain ⟨i, turn, live⟩ := turn
    cases turn with
    | cycle =>
      obtain ⟨⟨log, ⟨r, w⟩, t⟩, hp, heq⟩ := Option.map_eq_some_iff.1 hone
      cases heq
      exact ih (h.cycle i (runs_playAlone hp)) hrest
    | flush =>
      obtain ⟨⟨log, ⟨r, w⟩, t⟩, hp, heq⟩ := Option.map_eq_some_iff.1 hone
      cases heq
      exact ih (h.flush i (runs_playAlone hp)) hrest

theorem serial_played {team : Team ι} {turns : List (ι × Turn × List CaseRecord)}
    (h : (turns.foldlM Team.playAct ([], team)).isSome) :
    Serial team (team.played turns).1 (team.played turns).2 := by
  obtain ⟨p, hp⟩ := Option.isSome_iff_exists.1 h
  rw [Team.played, hp]
  exact Serial.start.play hp

end CaseHerald.Watch
