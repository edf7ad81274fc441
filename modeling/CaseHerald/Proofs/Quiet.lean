import CaseHerald.Proofs.Scene
import CaseHerald.Watch.Cycle

/-!
# Programs that leave the cases alone

Subscribing to new cases asks for assets, looks into the resource tree, and writes comments. None of
this touches a snapshot or a marker, and none of it announces anything.
-/
namespace CaseHerald

/-! ## What a program may ask -/

namespace Proc

variable {P : Interface} {α β : Type} {A : P.Request → Prop}

/-- Whether the program, whatever the replies, makes requests of one kind only and does not crash. -/
def Asks (A : P.Request → Prop) : Proc P α → Prop
  | .done _ => True
  | .ask q next => A q ∧ ∀ reply, (next reply).Asks A
  | .halt _ => False

theorem Asks.bind {p : Proc P α} {f : α → Proc P β} (hp : p.Asks A) (hf : ∀ a, (f a).Asks A) :
    (p >>= f).Asks A := by
  induction p with
  | done a => exact hf a
  | ask q next ih => exact ⟨hp.1, fun reply => ih reply (hp.2 reply)⟩
  | halt crash => exact hp.elim

theorem Asks.map {p : Proc P α} (hp : p.Asks A) (f : α → β) : (f <$> p).Asks A := by
  rw [map_eq_pure_bind]
  exact hp.bind fun _ => trivial

theorem Asks.mono {B : P.Request → Prop} {p : Proc P α} (h : p.Asks A) (hA : ∀ q, A q → B q) :
    p.Asks B := by
  induction p with
  | done a => trivial
  | ask q next ih => exact ⟨hA q h.1, fun reply => ih reply (h.2 reply)⟩
  | halt crash => exact h.elim

theorem asks_request {q : P.Request} (h : A q) : (request q).Asks A := ⟨h, fun _ => trivial⟩

theorem Asks.foldlM {f : β → α → Proc P β} (hf : ∀ b a, (f b a).Asks A) (l : List α) (b : β) :
    (l.foldlM f b).Asks A := by
  induction l generalizing b with
  | nil => trivial
  | cons a rest ih => exact (hf b a).bind ih

end Proc

namespace Attempt

variable {P : Interface} {ε δ α β : Type} {A : P.Request → Prop}

/-- Whether the program, whatever the replies, makes requests of one kind only and does not crash. -/
def Asks (A : P.Request → Prop) (p : Attempt P ε α) : Prop := p.run.Asks A

theorem asks_pure (a : α) : (pure a : Attempt P ε α).Asks A := trivial

theorem asks_throw (e : ε) : (throw e : Attempt P ε α).Asks A := trivial

theorem Asks.bind {p : Attempt P ε α} {f : α → Attempt P ε β} (hp : p.Asks A)
    (hf : ∀ a, (f a).Asks A) : (p >>= f).Asks A := by
  refine Proc.Asks.bind hp fun r => ?_
  cases r with
  | ok a => exact hf a
  | error e => trivial

theorem asks_ask {wrap : δ → ε} {p : Proc P (Except δ α)} (hp : p.Asks A) :
    (ask wrap p).Asks A := hp.map _

theorem Asks.wrap {f : ε → δ} {p : Attempt P ε α} (hp : p.Asks A) : (p.wrap f).Asks A :=
  asks_ask hp

theorem Asks.caught {p : Attempt P ε α} (hp : p.Asks A) :
    (p.caught : Attempt P δ (Except ε α)).Asks A := Proc.Asks.map hp _

theorem Asks.foldlM {f : β → α → Attempt P ε β} {l : List α}
    (hf : ∀ a ∈ l, ∀ b, (f b a).Asks A) (b : β) : (l.foldlM f b).Asks A := by
  induction l generalizing b with
  | nil => exact asks_pure b
  | cons a rest ih =>
    exact (hf a List.mem_cons_self b).bind (ih fun a ha => hf a (List.mem_cons_of_mem _ ha))

end Attempt

namespace Watch

/-! ## Subscribing -/

/-- A request that neither touches a case in the store nor announces. -/
inductive Request.IsQuiet : Request → Prop
  | assets : IsQuiet (.store .assets)
  | find (l : Lookup) : IsQuiet (.find l)
  | subscribe (channel caseNumber : String) (emails : List String) (user : String) :
      IsQuiet (.subscribe channel caseNumber emails user)
  | comment (c : CommentRequest) : IsQuiet (.comment c)

/-- A request that only looks into the resource tree. -/
def Request.IsFind (q : Request) : Prop := ∃ l, q = .find l

open Request (IsQuiet IsFind)

theorem Request.IsFind.isQuiet {q : Request} (h : q.IsFind) : q.IsQuiet := by
  obtain ⟨l, rfl⟩ := h
  exact .find l

theorem asks_find (l : Lookup) : (find l).Asks IsFind :=
  Attempt.asks_ask (Proc.asks_request ⟨l, rfl⟩)

theorem asks_climb (project : String) (levels : Nat) (parent : Option ParentRef) :
    (climb project levels parent).Asks IsFind := by
  induction levels generalizing parent with
  | zero =>
    rcases parent with _ | id | id
    · exact Attempt.asks_pure _
    · exact Attempt.asks_pure _
    · exact Attempt.asks_throw _
  | succ levels ih =>
    rcases parent with _ | id | id
    · exact Attempt.asks_pure _
    · exact Attempt.asks_pure _
    · exact (asks_find _).bind fun folder => (ih _).bind fun _ => Attempt.asks_pure _

theorem asks_ancestry (r : CaseRecord) : (ancestry r).Asks IsFind := by
  have hpath : (parentPath r).Asks IsFind := by
    unfold parentPath
    cases r.parent.isEmpty with
    | true => exact asks_find _
    | false => exact Attempt.asks_pure _
  refine hpath.bind fun parent => ?_
  split
  · exact Attempt.asks_throw _
  · exact (asks_find _).bind fun project => (asks_climb _ _ _).bind fun _ => Attempt.asks_pure _

theorem asks_subscribeAsset (number : String) (g : Gathering) (a : Asset) :
    (subscribeAsset number g a).Asks IsQuiet := by
  have hask : (subscribe a.channel number a.ccList a.user).Asks IsQuiet :=
    Attempt.asks_ask (Proc.asks_request (.subscribe _ _ _ _))
  refine hask.caught.bind fun outcome => ?_
  cases outcome <;> exact Attempt.asks_pure _

theorem asks_autoSubscribe (r : CaseRecord) : (autoSubscribe r).Asks IsQuiet := by
  have hassets : (store .assets).Asks IsQuiet :=
    Attempt.asks_ask (Proc.asks_request .assets)
  refine hassets.bind fun assets => ?_
  split
  · exact Attempt.asks_pure _
  · have hplace : (ancestry r).Asks IsQuiet :=
      Proc.Asks.mono (asks_ancestry r) fun _ => Request.IsFind.isQuiet
    refine hplace.wrap.bind fun place => ?_
    refine (Attempt.Asks.foldlM (fun a _ g => asks_subscribeAsset r.number g a) _).bind
      fun g => ?_
    split
    · exact Attempt.asks_pure _
    · have hcomment (c : CommentRequest) : (comment c).Asks IsQuiet :=
        Attempt.asks_ask (Proc.asks_request (.comment c))
      refine (hcomment _).caught.bind fun outcome => ?_
      cases outcome <;> exact Attempt.asks_pure _

/-- **Subscribing to new cases leaves the cases in the store alone.** -/
theorem asks_subscribeAll (s : Summary) (created : List CaseRecord) :
    (subscribeAll s created).Asks IsQuiet := by
  refine Proc.Asks.foldlM (fun s r => ?_) created s
  exact Proc.Asks.bind (asks_autoSubscribe r) fun _ => trivial

/-! ## Runs -/

theorem Request.IsQuiet.event?_eq {x : Exchange} (h : x.request.IsQuiet) : x.event? = none := by
  obtain ⟨q, reply⟩ := x
  cases h <;> rfl

theorem Request.IsQuiet.same {x : Exchange} (h : x.request.IsQuiet) {s t : Scene}
    (hmeets : Meets s x t) : t = s := by
  obtain ⟨q, reply⟩ := x
  cases h with
  | assets => exact hmeets.assets
  | find => exact hmeets.same fun _ h => by cases h
  | subscribe => exact hmeets.same fun _ h => by cases h
  | comment => exact hmeets.same fun _ h => by cases h

/-- The requests in a run are of the kind that the program makes. -/
theorem Runs.asks {α : Type} {p : Proc interface α} {A : Request → Prop} {s t : Scene}
    {log : List Exchange} {a : α} (h : Runs p s log a t) (hp : p.Asks A) :
    ∀ x ∈ log, A x.request := by
  induction h with
  | done => exact List.forall_mem_nil _
  | ask _ _ ih => exact List.forall_mem_cons.2 ⟨hp.1, ih (hp.2 _)⟩

/-- A quiet program announces nothing and leaves the scene as it was. -/
theorem Runs.quiet {α : Type} {p : Proc interface α} (hp : p.Asks IsQuiet)
    {s t : Scene} {log : List Exchange} {a : α} (h : Runs p s log a t) :
    log.filterMap Exchange.event? = [] ∧ t = s := by
  induction h with
  | done => exact ⟨rfl, rfl⟩
  | @ask q _ _ _ _ reply _ _ meets rest ih =>
    obtain ⟨hlog, rfl⟩ := ih (hp.2 _)
    have hquiet : (Exchange.mk q reply).request.IsQuiet := hp.1
    exact ⟨by rw [List.filterMap_cons_none hquiet.event?_eq, hlog], hquiet.same meets⟩

end Watch

end CaseHerald
