import CaseHerald.Proofs.Scene
import CaseHerald.Watch.Cycle

/-!
# What a program may come to

`Proc.Yields` says of a program that all its results are as told, whatever the replies it gets. So the
report on a plan that has been carried out has the creations of the plan, in order (`yields_carryOut`).
-/
namespace CaseHerald

/-! ## Results -/

namespace Proc

variable {P : Interface} {α β : Type} {Q Q' : α → Prop} {R : β → Prop}

/-- Whether every result of the program is as told, whatever the replies. -/
def Yields (Q : α → Prop) : Proc P α → Prop
  | .done a => Q a
  | .ask _ next => ∀ reply, (next reply).Yields Q
  | .halt _ => True

theorem yields_of_forall {p : Proc P α} (h : ∀ a, Q a) : p.Yields Q := by
  induction p with
  | done a => exact h a
  | ask q next ih => exact ih
  | halt crash => trivial

theorem Yields.mono {p : Proc P α} (h : p.Yields Q) (hQ : ∀ a, Q a → Q' a) : p.Yields Q' := by
  induction p with
  | done a => exact hQ a h
  | ask q next ih => exact fun reply => ih reply (h reply)
  | halt crash => trivial

theorem Yields.bind {p : Proc P α} {f : α → Proc P β} (hp : p.Yields Q)
    (hf : ∀ a, Q a → (f a).Yields R) : (p >>= f).Yields R := by
  induction p with
  | done a => exact hf a hp
  | ask q next ih => exact fun reply => ih reply (hp reply)
  | halt crash => trivial

/-- A program that begins with one of which nothing is known. -/
theorem yields_bind {p : Proc P α} {f : α → Proc P β} (hf : ∀ a, (f a).Yields R) :
    (p >>= f).Yields R :=
  Yields.bind (Q := fun _ => True) (yields_of_forall fun _ => trivial) fun a _ => hf a

end Proc

namespace Attempt

variable {P : Interface} {ε α β : Type} {Q : α → Prop} {R : β → Prop}

/-- Whether every result of the program is as told unless it fails, whatever the replies. -/
def Yields (Q : α → Prop) (p : Attempt P ε α) : Prop := p.run.Yields fun r => ∀ a, r = .ok a → Q a

theorem yields_of_forall {p : Attempt P ε α} (h : ∀ a, Q a) : p.Yields Q :=
  Proc.yields_of_forall fun _ a _ => h a

theorem yields_pure {a : α} (h : Q a) : (pure a : Attempt P ε α).Yields Q := by
  intro b hb
  cases hb
  exact h

theorem Yields.bind {p : Attempt P ε α} {f : α → Attempt P ε β} (hp : p.Yields Q)
    (hf : ∀ a, Q a → (f a).Yields R) : (p >>= f).Yields R := by
  refine Proc.Yields.bind hp fun r hr => ?_
  cases r with
  | ok a => exact hf a (hr a rfl)
  | error e =>
    intro b hb
    cases hb

/-- A program that begins with one of which nothing is known. -/
theorem yields_bind {p : Attempt P ε α} {f : α → Attempt P ε β} (hf : ∀ a, (f a).Yields R) :
    (p >>= f).Yields R :=
  Yields.bind (Q := fun _ => True) (yields_of_forall fun _ => trivial) fun a _ => hf a

end Attempt

namespace Watch

variable {α : Type}

/-- The result of a run is one that the program yields. -/
theorem Runs.yields {p : Proc interface α} {Q : α → Prop} {s t : Scene} {log : List Exchange} {a : α}
    (h : Runs p s log a t) (hp : p.Yields Q) : Q a := by
  induction h with
  | done => exact hp
  | ask _ _ ih => exact ih (hp _)

/-! ## Reports -/

theorem yields_emit (report : Report) (e : Event) :
    (emit report e).Yields fun after => after.created = report.created :=
  Attempt.yields_bind fun _ => Attempt.yields_pure rfl

theorem yields_close (report : Report) (a : Snapshot) :
    (close report a).Yields fun after => after.created = report.created := by
  refine Attempt.yields_bind fun g => Attempt.yields_bind fun mine => ?_
  cases mine with
  | true =>
    refine (yields_emit _ _).bind fun after hafter => ?_
    exact Attempt.yields_pure hafter
  | false => exact Attempt.yields_pure rfl

/-- Steps of which each adds its creations to the report add them in order. -/
theorem yields_foldlM {f : Report → α → Step Report} {g : α → List CaseRecord}
    (hf : ∀ report a, (f report a).Yields fun after => after.created = report.created ++ g a)
    (l : List α) (report : Report) :
    (l.foldlM f report).Yields fun after => after.created = report.created ++ l.flatMap g := by
  induction l generalizing report with
  | nil => exact Attempt.yields_pure (List.append_nil _).symm
  | cons a l ih =>
    refine (hf report a).bind fun after hafter => ?_
    rw [List.flatMap_cons, ← List.append_assoc, ← hafter]
    exact ih after

/-- Steps that create nothing. -/
theorem yields_foldlM_nil {f : Report → α → Step Report}
    (hf : ∀ report a, (f report a).Yields fun after => after.created = report.created)
    (l : List α) (report : Report) :
    (l.foldlM f report).Yields fun after => after.created = report.created := by
  have hnil : l.flatMap (fun _ => ([] : List CaseRecord)) = [] := by simp
  have hall := yields_foldlM (g := fun _ => [])
    (fun report a => by simpa only [List.append_nil] using hf report a) l report
  rwa [hnil, List.append_nil] at hall

theorem yields_update (report : Report) (u : PlannedUpdate) :
    (update report u).Yields fun after => after.created = report.created := by
  refine Attempt.yields_bind fun g => ?_
  by_cases hnone : u.changes = []
  · simp only [hnone, List.isEmpty_nil, if_true]
    exact Attempt.yields_pure rfl
  · simp only [List.isEmpty_iff, hnone, if_false]
    refine Attempt.yields_bind fun mine => ?_
    cases mine with
    | true =>
      rw [if_pos rfl]
      exact yields_foldlM_nil (fun r d => yields_emit r _) u.changes (report.addWrite _)
    | false => exact Attempt.yields_pure rfl

theorem yields_create (report : Report) (r : CaseRecord) :
    (create report r).Yields fun after => after.created = report.created ++ [r] :=
  Attempt.yields_bind fun _ => Attempt.yields_pure rfl

/-- **The report on a plan has its creations**, if the plan is carried out to its end. -/
theorem yields_carryOut (p : Plan) :
    (carryOut p).Yields fun report => report.created = p.creations := by
  refine (yields_foldlM_nil yields_close p.closures _).bind fun report hreport => ?_
  refine (yields_foldlM_nil yields_update p.updates _).bind fun report' hreport' => ?_
  have hcreate := yields_foldlM yields_create p.creations report'
  have hnone : report'.created = [] := by
    rw [hreport', Report.addDeletions, hreport, Report.empty]
  rwa [hnone, List.nil_append, List.flatMap_singleton'] at hcreate

/-! ## Watchers -/

/-- A cycle that fails leaves the watcher as it was. -/
theorem yields_cycle (w : Watcher) :
    (cycle w).Yields fun r => ∀ f, r.1 = .error f → r.2 = w := by
  refine Proc.yields_bind fun r => ?_
  cases r with
  | error f =>
    intro _ _
    rfl
  | ok a =>
    have hdone (summary : Summary) : (Proc.done (.ok summary, w.after a.2) :
        Proc interface (Except Failure Summary × Watcher)).Yields fun r =>
          ∀ f, r.1 = .error f → r.2 = w := by
      intro f hf
      cases hf
    cases w.subscribes with
    | true => exact Proc.yields_bind fun summary => hdone summary
    | false => exact hdone _

theorem yields_deleteAll (count : Nat) (numbers : List String) :
    (deleteAll count numbers).Yields fun r => ∀ f left, r = .error (f, left) → left ⊆ numbers := by
  induction numbers generalizing count with
  | nil =>
    intro f left h
    cases h
  | cons number rest ih =>
    refine Proc.yields_bind fun r => ?_
    cases r with
    | ok a =>
      refine Proc.Yields.mono (ih (count + 1)) fun r hr f left h => ?_
      exact List.subset_cons_of_subset _ (hr f left h)
    | error e =>
      intro f left h
      cases h
      exact List.Subset.refl _

/-- A flush keeps no case in the queue that was not in it. -/
theorem yields_flush (w : Watcher) : (flush w).Yields fun r => r.2.queue ⊆ w.queue := by
  refine (yields_deleteAll 0 w.queue).bind fun r hr => ?_
  cases r with
  | ok count => exact List.nil_subset _
  | error e => exact hr e.1 e.2 rfl

end Watch

end CaseHerald
