import CaseHerald.Proofs.Store
import CaseHerald.Watch.Interface
import Mathlib.Logic.Function.Basic

/-!
# Watchers on a common scene

Watchers share a store and nothing else. An `Exchange` is one request of a watcher with its reply, and
`Meets` says which replies a scene may give: the store does one step or fails as a whole, the token of a
write is new, and everything else may reply anything. `Runs` is a run of one program, and `Crew.Run` one
of several programs in any order of their exchanges.
-/
namespace CaseHerald.Watch

open Store (Memory Query)

/-- A request with the reply to it. -/
structure Exchange where
  request : Request
  reply : request.Reply

namespace Exchange

/-- What is announced. -/
def event? : Exchange → Option Event
  | ⟨.announce e, _⟩ => some e
  | _ => none

/-- The records that a fetch brings. -/
def fetched? : Exchange → Option (List CaseRecord)
  | ⟨.fetch, .ok live⟩ => some live
  | _ => none

/-- The case that a deletion removes. -/
def deleted? : Exchange → Option String
  | ⟨.store (.delete number), .ok _⟩ => some number
  | _ => none

/-- The record and the token of a write. -/
def written? : Exchange → Option (CaseRecord × Guid)
  | ⟨.store (.write r), .ok g⟩ => some (r, g)
  | _ => none

/-- The step of the store that fails. -/
def failed? : Exchange → Option Query
  | ⟨.store q, .error _⟩ => some q
  | _ => none

/-- Whether neither the source nor the store fails. -/
def succeeds : Exchange → Bool
  | ⟨.fetch, .error _⟩ => false
  | ⟨.store _, .error _⟩ => false
  | _ => true

theorem not_succeeds_error {q : Query} {f : StoreFailure} :
    ¬(Exchange.mk (.store q) (.error f)).succeeds := Bool.false_ne_true

theorem eq_of_fetched? {x : Exchange} {live : List CaseRecord} (h : x.fetched? = some live) :
    x = ⟨.fetch, .ok live⟩ := by
  obtain ⟨q, reply⟩ := x
  cases q with
  | fetch =>
    cases reply with
    | ok l => cases h; rfl
    | error f => cases h
  | _ => cases h

theorem eq_of_failed? {x : Exchange} {q : Query} (h : x.failed? = some q) :
    ∃ f, x = ⟨.store q, .error f⟩ := by
  obtain ⟨p, reply⟩ := x
  cases p with
  | store p =>
    cases reply with
    | ok a => cases h
    | error f => cases h; exact ⟨f, rfl⟩
  | _ => cases h

theorem eq_of_written? {x : Exchange} {w : CaseRecord × Guid} (h : x.written? = some w) :
    x = ⟨.store (.write w.1), .ok w.2⟩ := by
  obtain ⟨q, reply⟩ := x
  cases q with
  | store q =>
    cases q with
    | write r =>
      cases reply with
      | ok g => cases h; rfl
      | error f => cases h
    | _ => cases h
  | _ => cases h

end Exchange

/-- What the watchers share: the store, and the tokens given out. -/
structure Scene where
  store : Memory
  minted : List Guid

/-- A token that has not been given out, and that is nowhere in the store. -/
structure Scene.Fresh (s : Scene) (g : Guid) : Prop where
  notMinted : g ∉ s.minted
  notKept : ∀ c a, s.store.snapshot? c = some a → a.guid ≠ g
  notMarked : ∀ c t m, s.store.marker? c t = some m → m.guid ≠ g

/-- Whether two scenes have the same snapshot and markers of a case. -/
structure Scene.Agree (c : String) (s t : Scene) : Prop where
  snapshot?_eq : t.store.snapshot? c = s.store.snapshot? c
  marker?_eq : ∀ u, t.store.marker? c u = s.store.marker? c u

theorem Scene.Agree.refl (c : String) (s : Scene) : s.Agree c s := ⟨rfl, fun _ => rfl⟩

/-- The tokens that a step gives out. -/
def tokens : Query → Guid → List Guid
  | .write _, g => [g]
  | _, _ => []

/-- What may become of a scene in one exchange. -/
inductive Meets : Scene → Exchange → Scene → Prop
  /-- the store does a step -/
  | step {s : Scene} {q : Query} {reply : Except StoreFailure q.Answer} {store : Memory} (g : Guid)
      (fresh : ∀ h ∈ tokens q g, s.Fresh h) (answer : s.store.answer g q = (reply, store)) :
      Meets s ⟨.store q, reply⟩ ⟨store, tokens q g ++ s.minted⟩
  /-- the store fails -/
  | fault {s : Scene} {q : Query} (f : StoreFailure) : Meets s ⟨.store q, .error f⟩ s
  /-- the store is not asked -/
  | other {s : Scene} {x : Exchange} (apart : ∀ q, x.request ≠ .store q) : Meets s x s

namespace Meets

variable {s t : Scene}

theorem write {r : CaseRecord} {g : Guid} (h : Meets s ⟨.store (.write r), .ok g⟩ t) :
    s.Fresh g ∧ t = ⟨s.store.write g r, g :: s.minted⟩ := by
  cases h with
  | step g' fresh answer =>
    simp only [Memory.answer] at answer
    split at answer
    · cases answer
      exact ⟨fresh g (by simp [tokens]), rfl⟩
    · cases answer
  | other apart => exact absurd rfl (apart _)

theorem list {previous : List Snapshot} (h : Meets s ⟨.store .list, .ok previous⟩ t) :
    previous = s.store.snapshots.values ∧ t = s := by
  cases h with
  | step g _ answer =>
    cases answer
    exact ⟨rfl, rfl⟩
  | other apart => exact absurd rfl (apart _)

theorem firstWriter {c : String} {u : Instant} {m : Option Marker}
    (h : Meets s ⟨.store (.firstWriter c u), .ok m⟩ t) : m = s.store.marker? c u ∧ t = s := by
  cases h with
  | step g _ answer =>
    cases answer
    exact ⟨rfl, rfl⟩
  | other apart => exact absurd rfl (apart _)

theorem delete {c : String} {a : Unit} (h : Meets s ⟨.store (.delete c), .ok a⟩ t) :
    t = ⟨s.store.delete c, s.minted⟩ := by
  cases h with
  | step g _ answer =>
    simp only [Memory.answer] at answer
    split at answer
    · cases answer; rfl
    · cases answer
  | other apart => exact absurd rfl (apart _)

/-- A failure leaves the store as it was. -/
theorem error {q : Query} {f : StoreFailure} (h : Meets s ⟨.store q, .error f⟩ t) :
    t.store = s.store := by
  cases h with
  | step g _ answer => exact Memory.eq_of_answer_error answer
  | fault => rfl
  | other apart => exact absurd rfl (apart _)

/-- What does not ask the store leaves the scene as it was. -/
theorem same {x : Exchange} (h : Meets s x t) (hx : ∀ q, x.request ≠ .store q) : t = s := by
  cases h with
  | step => exact absurd rfl (hx _)
  | fault => rfl
  | other => rfl

/-- A look at the assets leaves the scene as it was. -/
theorem assets {reply : Except StoreFailure (List Asset)} (h : Meets s ⟨.store .assets, reply⟩ t) :
    t = s := by
  cases h with
  | step g _ answer => cases answer; rfl
  | fault => rfl
  | other => rfl

/-- Tokens stay given out. -/
theorem minted {x : Exchange} (h : Meets s x t) {g : Guid} (hg : g ∈ s.minted) : g ∈ t.minted := by
  cases h with
  | step => exact List.mem_append_right _ hg
  | fault => exact hg
  | other => exact hg

/-- No exchange takes a snapshot away from its number. -/
theorem filed {x : Exchange} (h : Meets s x t) (hs : s.store.Filed) : t.store.Filed := by
  cases h with
  | step g _ answer => exact (congrArg (fun r => r.2.Filed) answer).mp (hs.answer g _)
  | fault => exact hs
  | other => exact hs

/-- No exchange leaves a marker under a key that is none of a version. -/
theorem labelled {x : Exchange} (h : Meets s x t) (hs : s.store.Labelled) : t.store.Labelled := by
  cases h with
  | step g _ answer => exact (congrArg (fun r => r.2.Labelled) answer).mp (hs.answer g _)
  | fault => exact hs
  | other => exact hs

end Meets

/-- What becomes of a scene in some exchanges, one after the other. -/
inductive Passes : Scene → List Exchange → Scene → Prop
  | nil {s : Scene} : Passes s [] s
  | snoc {s t u : Scene} {log : List Exchange} {x : Exchange} (earlier : Passes s log t)
      (meets : Meets t x u) : Passes s (log ++ [x]) u

theorem Passes.append {s t u : Scene} {log more : List Exchange} (h : Passes s log t)
    (h' : Passes t more u) : Passes s (log ++ more) u := by
  induction h' with
  | nil => rwa [List.append_nil]
  | snoc _ meets ih =>
    rw [← List.append_assoc]
    exact ih.snoc meets

theorem Passes.filed {s t : Scene} {log : List Exchange} (h : Passes s log t)
    (hs : s.store.Filed) : t.store.Filed := by
  induction h with
  | nil => exact hs
  | snoc _ meets ih => exact meets.filed ih

/-! ## One program -/

/-- A run of a program from a scene: its exchanges, its result and the scene at its end. -/
inductive Runs {α : Type} : Proc interface α → Scene → List Exchange → α → Scene → Prop
  | done {a : α} {s : Scene} : Runs (.done a) s [] a s
  | ask {q : Request} {next : q.Reply → Proc interface α} {s t u : Scene} {reply : q.Reply}
      {log : List Exchange} {a : α} (meets : Meets s ⟨q, reply⟩ t) (rest : Runs (next reply) t log a u) :
      Runs (.ask q next) s (⟨q, reply⟩ :: log) a u

theorem Runs.of_ask {α : Type} {q : Request} {next : q.Reply → Proc interface α} {s u : Scene}
    {log : List Exchange} {a : α} (h : Runs (.ask q next) s log a u) :
    ∃ reply rest t, log = ⟨q, reply⟩ :: rest ∧ Meets s ⟨q, reply⟩ t ∧
      Runs (next reply) t rest a u := by
  cases h with
  | ask meets rest => exact ⟨_, _, _, rfl, meets, rest⟩

theorem Runs.passes {α : Type} {p : Proc interface α} {s t : Scene} {log : List Exchange} {a : α}
    (h : Runs p s log a t) : Passes s log t := by
  induction h with
  | done => exact .nil
  | ask meets _ ih => exact (Passes.nil.snoc meets).append ih

theorem Runs.bind {α β : Type} {p : Proc interface α} {f : α → Proc interface β} {s u : Scene}
    {log : List Exchange} {b : β} (h : Runs (p >>= f) s log b u) :
    ∃ front back a t, log = front ++ back ∧ Runs p s front a t ∧ Runs (f a) t back b u := by
  induction p generalizing s log with
  | done a => exact ⟨[], log, a, s, rfl, .done, h⟩
  | ask q next ih =>
    cases h with
    | ask meets rest =>
      obtain ⟨front, back, a, t, rfl, hp, hf⟩ := ih _ rest
      exact ⟨_ :: front, back, a, t, rfl, .ask meets hp, hf⟩
  | halt crash => cases h

/-! ## Several programs -/

/-- Programs on a common scene. -/
structure Crew (ι α : Type) where
  scene : Scene
  programs : ι → Proc interface α

/-- A run of some programs, with their exchanges in the order in which they happen. -/
inductive Crew.Run {ι α : Type} [DecidableEq ι] :
    Crew ι α → List (ι × Exchange) → Crew ι α → Prop
  | start {crew : Crew ι α} : Run crew [] crew
  | step {crew mid : Crew ι α} {log : List (ι × Exchange)} {t : Scene} (run : Run crew log mid) (i : ι)
      {q : Request} {next : q.Reply → Proc interface α} (asks : mid.programs i = .ask q next)
      (reply : q.Reply) (meets : Meets mid.scene ⟨q, reply⟩ t) :
      Run crew (log ++ [(i, ⟨q, reply⟩)]) ⟨t, Function.update mid.programs i (next reply)⟩

theorem Crew.Run.passes {ι α : Type} [DecidableEq ι] {crew crew' : Crew ι α}
    {log : List (ι × Exchange)} (h : Crew.Run crew log crew') :
    Passes crew.scene (log.map Prod.snd) crew'.scene := by
  induction h with
  | start => exact .nil
  | step _ _ _ _ meets ih =>
    rw [List.map_append]
    exact ih.snoc meets

/-- Whether every program has come to its result. -/
def Crew.Ended {ι α : Type} (crew : Crew ι α) : Prop := ∀ i, ∃ a, crew.programs i = .done a

/-- The announcements in a run, each with the one who makes it. -/
def announced {ι : Type} (log : List (ι × Exchange)) : List (ι × Event) :=
  log.filterMap fun x => x.2.event?.map (Prod.mk x.1)

@[simp] theorem announced_append {ι : Type} (log more : List (ι × Exchange)) :
    announced (log ++ more) = announced log ++ announced more := List.filterMap_append

theorem announced_singleton {ι : Type} (i : ι) (x : Exchange) :
    announced [(i, x)] = (x.event?.map (Prod.mk i)).toList := by
  unfold announced
  cases h : x.event? <;> simp [h]

end CaseHerald.Watch
