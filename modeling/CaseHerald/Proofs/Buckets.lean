import CaseHerald.Proofs.Jobs
import Mathlib.Data.List.Sort

/-!
# What a plan says about each case

`Belongs` says of a case, by the first of its snapshots and by the first and the last of its open
records, whether it is to be closed, swept away, updated, created or left as it is.
`exact_iff` is the specification of plans: one plan alone sorts every case into the bucket it
belongs to, names no case twice and keeps the order of the lists it is made from.

## Main definitions

* `Plan.Bucket`, `Plan.Belongs` : the buckets, and which one a case belongs to.
* `Plan.only` : what a plan has for one case.
* `Plan.Exact` : what a plan has to be.

## Main results

* `Plan.belongs_iff` : a case belongs to one bucket, the one computed by `Plan.bucket`.
* `Plan.exact_iff` : a plan is exact just if it is the plan of the snapshots and records.
-/
namespace CaseHerald

/-! ## First and last elements -/

/-- The element is the first of the list with the property. -/
def FirstSuch {α : Type} (P : α → Prop) (l : List α) (a : α) : Prop :=
  ∃ front back, l = front ++ a :: back ∧ P a ∧ ∀ b ∈ front, ¬P b

/-- The element is the last of the list with the property. -/
def LastSuch {α : Type} (P : α → Prop) (l : List α) (a : α) : Prop :=
  ∃ front back, l = front ++ a :: back ∧ P a ∧ ∀ b ∈ back, ¬P b

theorem firstSuch_iff {α : Type} {P : α → Prop} [DecidablePred P] {l : List α} {a : α} :
    FirstSuch P l a ↔ l.find? (fun b => decide (P b)) = some a := by
  rw [List.find?_eq_some_iff_append]
  constructor
  · rintro ⟨front, back, rfl, ha, hfront⟩
    exact ⟨by simpa using ha, front, back, rfl, by simpa using hfront⟩
  · rintro ⟨ha, front, back, rfl, hfront⟩
    exact ⟨front, back, rfl, by simpa using ha, by simpa using hfront⟩

theorem firstSuch_reverse {α : Type} {P : α → Prop} {l : List α} {a : α} :
    FirstSuch P l.reverse a ↔ LastSuch P l a := by
  constructor
  · rintro ⟨front, back, hl, ha, hfront⟩
    have hl' := congrArg List.reverse hl
    simp only [List.reverse_reverse, List.reverse_append, List.reverse_cons,
      List.append_assoc, List.singleton_append] at hl'
    exact ⟨back.reverse, front.reverse, hl', ha, by simpa using hfront⟩
  · rintro ⟨front, back, rfl, ha, hback⟩
    exact ⟨back.reverse, front.reverse, by simp, ha, by simpa using hback⟩

/-- The first elements come in the order in which their keys come first. -/
theorem pairwise_firstOfEach {α : Type} (key : α → String) (l : List α) :
    (firstOfEach key l).Pairwise fun a b =>
      (l.map key).idxOf (key a) < (l.map key).idxOf (key b) := by
  induction l with
  | nil => exact .nil
  | cons a rest ih =>
    have hne : ∀ b ∈ (firstOfEach key rest).filter (fun b => key b ≠ key a), key a ≠ key b := by
      intro b hb heq
      exact absurd heq.symm (by simpa using List.of_mem_filter hb)
    rw [firstOfEach, List.map_cons]
    refine List.pairwise_cons.2 ⟨?_, ?_⟩
    · intro b hb
      rw [List.idxOf_cons_self, List.idxOf_cons_ne _ (hne b hb)]
      omega
    · refine (ih.filter _).imp_of_mem ?_
      intro b c hb hc hlt
      rw [List.idxOf_cons_ne _ (hne b hb), List.idxOf_cons_ne _ (hne c hc)]
      omega

/-- Lists with the same elements are the same if they go by the same measure. -/
theorem eq_of_pairwise_lt {α : Type} {f : α → Nat} {l₁ l₂ : List α}
    (h₁ : l₁.Pairwise (f · < f ·)) (h₂ : l₂.Pairwise (f · < f ·)) (h : ∀ a, a ∈ l₁ ↔ a ∈ l₂) :
    l₁ = l₂ := by
  have irrefl : Std.Irrefl fun a b : α => f a < f b := ⟨fun a => Nat.lt_irrefl (f a)⟩
  have antisymm : Std.Antisymm fun a b : α => f a < f b :=
    ⟨fun a b hab hba => absurd hab (Nat.lt_asymm hba)⟩
  exact h₁.eq_of_mem_iff h₂ h

/-! ## Fields -/

/-- What a change is a change of. -/
inductive Field
  | comment
  | priority
  | escalation
  deriving DecidableEq

/-- The field that has changed. -/
def FieldChange.field : FieldChange → Field
  | .comment _ => .comment
  | .priority .. => .priority
  | .escalation _ => .escalation

/-- There is at most one change of a field, in the order comment, priority, escalation. -/
theorem field_classify (previous current : CaseRecord) :
    ((classify previous current).map FieldChange.field).Sublist
      [.comment, .priority, .escalation] := by
  have hfields : [Field.comment, .priority, .escalation] =
      ([.comment] ++ [.priority]) ++ [.escalation] := rfl
  rw [hfields]
  simp only [classify, List.map_append]
  refine (List.Sublist.append ?comment ?priority).append ?escalation
  case comment =>
    repeat' split
    all_goals simp [FieldChange.field]
  case priority => split <;> simp [FieldChange.field]
  case escalation => split <;> simp [FieldChange.field]

namespace Plan

/-! ## Buckets -/

/-- What is to be done about a case. -/
inductive Bucket
  | closure (s : Snapshot)
  | sweep
  | update (s : Snapshot) (r : CaseRecord)
  | creation (r : CaseRecord)
  | untouched
  | absent

/-- The record is an open one of the case. -/
def OpenFor (number : String) (r : CaseRecord) : Prop := r.isActive ∧ r.number = number

instance (number : String) : DecidablePred (OpenFor number) :=
  fun r => inferInstanceAs (Decidable (r.isActive ∧ r.number = number))

theorem decide_openFor (number : String) (r : CaseRecord) :
    decide (OpenFor number r) = (r.isActive && decide (r.number = number)) := by
  rw [Bool.eq_iff_iff, decide_eq_true_eq, Bool.and_eq_true, decide_eq_true_eq, OpenFor]

/-- The bucket of a case: by the first of its snapshots, by the last of its open records if it is
stored and by the first of them if it is not. -/
inductive Belongs (previous : List Snapshot) (live : List CaseRecord) (number : String) :
    Bucket → Prop
  | closure {s : Snapshot} (stored : FirstSuch (·.number = number) previous s)
      (unmarked : ¬s.isMarked) (gone : ∀ r ∈ live, ¬OpenFor number r) :
      Belongs previous live number (.closure s)
  | sweep {s : Snapshot} (stored : FirstSuch (·.number = number) previous s)
      (marked : s.isMarked) (gone : ∀ r ∈ live, ¬OpenFor number r) :
      Belongs previous live number .sweep
  | update {s : Snapshot} {r : CaseRecord} (stored : FirstSuch (·.number = number) previous s)
      (fetched : LastSuch (OpenFor number) live r) (moved : r.updated ≠ s.record.updated) :
      Belongs previous live number (.update s r)
  | untouched {s : Snapshot} {r : CaseRecord} (stored : FirstSuch (·.number = number) previous s)
      (fetched : LastSuch (OpenFor number) live r) (still : r.updated = s.record.updated) :
      Belongs previous live number .untouched
  | creation {r : CaseRecord} (new : ∀ s ∈ previous, s.number ≠ number)
      (fetched : FirstSuch (OpenFor number) live r) : Belongs previous live number (.creation r)
  | absent (new : ∀ s ∈ previous, s.number ≠ number) (gone : ∀ r ∈ live, ¬OpenFor number r) :
      Belongs previous live number .absent

/-- The plan that has just this to do about the case. -/
def Bucket.plan (number : String) : Bucket → Plan
  | .closure s => ⟨[s], [], [], []⟩
  | .sweep => ⟨[], [number], [], []⟩
  | .update s r => ⟨[], [], [⟨s, r, classify s.record r⟩], []⟩
  | .creation r => ⟨[], [], [], [r]⟩
  | .untouched => ⟨[], [], [], []⟩
  | .absent => ⟨[], [], [], []⟩

/-- The part of the plan that is about the case. -/
def only (p : Plan) (number : String) : Plan where
  closures := p.closures.filter fun s => decide (s.number = number)
  sweeps := p.sweeps.filter fun c => decide (c = number)
  updates := p.updates.filter fun u => decide (u.current.number = number)
  creations := p.creations.filter fun r => decide (r.number = number)

/-- The cases of the plan, as often as it names them. -/
def numbers (p : Plan) : List String :=
  p.closures.map Snapshot.number ++ p.sweeps ++ p.updates.map (·.current.number) ++
    p.creations.map CaseRecord.number

/-- The place of the case in the list of snapshots. -/
def storedAt (previous : List Snapshot) (number : String) : Nat :=
  (previous.map Snapshot.number).idxOf number

/-- The place of the case in the list of open records. -/
def openAt (live : List CaseRecord) (number : String) : Nat :=
  ((live.filter (·.isActive)).map CaseRecord.number).idxOf number

/-- What a plan has to be. -/
structure Exact (previous : List Snapshot) (live : List CaseRecord) (p : Plan) : Prop where
  /-- a case belongs to one bucket, and the plan has for the case what the bucket says -/
  sorted (number : String) : ∃ b, Belongs previous live number b ∧
    (∀ b', Belongs previous live number b' → b' = b) ∧ p.only number = b.plan number
  once : p.numbers.Nodup
  closures_order : p.closures.Pairwise fun s t =>
    storedAt previous s.number < storedAt previous t.number
  sweeps_order : p.sweeps.Pairwise fun c d => storedAt previous c < storedAt previous d
  updates_order : p.updates.Pairwise fun u v =>
    storedAt previous u.current.number < storedAt previous v.current.number
  creations_order : p.creations.Pairwise fun r a => openAt live r.number < openAt live a.number
  changes : ∀ u ∈ p.updates,
    (u.changes.map FieldChange.field).Sublist [.comment, .priority, .escalation]
  bounded : p.mostEvents ≤ p.closures.length + 3 * p.updates.length

/-! ## The bucket of a case -/

/-- The bucket of a case, from the first of its snapshots. -/
def bucket (live : List CaseRecord) (number : String) : Option Snapshot → Bucket
  | some s =>
    match lastActive? live number with
    | some r => if r.updated = s.record.updated then .untouched else .update s r
    | none => if s.isMarked then .sweep else .closure s
  | none =>
    match firstActive? live number with
    | some r => .creation r
    | none => .absent

variable {previous : List Snapshot} {live : List CaseRecord} {number : String}

theorem firstActive?_eq_some_iff {r : CaseRecord} :
    firstActive? live number = some r ↔ FirstSuch (OpenFor number) live r := by
  simp only [firstSuch_iff, firstActive?, decide_openFor]

theorem lastActive?_eq_some_iff {r : CaseRecord} :
    lastActive? live number = some r ↔ LastSuch (OpenFor number) live r := by
  rw [← firstSuch_reverse, firstSuch_iff, lastActive?, ← List.filter_reverse, List.find?_filter]
  simp only [decide_openFor, Bool.decide_and, Bool.decide_eq_true]

theorem lastActive?_eq_none : lastActive? live number = none ↔ ∀ r ∈ live, ¬OpenFor number r := by
  simp only [lastActive?_eq_none_iff, OpenFor, not_and, ne_eq]

theorem firstActive?_eq_none : firstActive? live number = none ↔ ∀ r ∈ live, ¬OpenFor number r := by
  simp only [firstActive?_eq_none_iff, OpenFor, not_and, ne_eq]

/-- **A case belongs to one bucket.** -/
theorem belongs_iff {b : Bucket} :
    Belongs previous live number b ↔
      b = bucket live number (previous.find? fun s => decide (s.number = number)) := by
  have hnew : (∀ s ∈ previous, s.number ≠ number) ↔
      previous.find? (fun s => decide (s.number = number)) = none := by
    simp
  constructor
  · intro h
    cases h with
    | closure stored unmarked gone =>
      simp [bucket, firstSuch_iff.1 stored, lastActive?_eq_none.2 gone, unmarked]
    | sweep stored marked gone =>
      simp [bucket, firstSuch_iff.1 stored, lastActive?_eq_none.2 gone, marked]
    | update stored fetched moved =>
      simp [bucket, firstSuch_iff.1 stored, lastActive?_eq_some_iff.2 fetched, moved]
    | untouched stored fetched still =>
      simp [bucket, firstSuch_iff.1 stored, lastActive?_eq_some_iff.2 fetched, still]
    | creation new fetched =>
      simp [bucket, hnew.1 new, firstActive?_eq_some_iff.2 fetched]
    | absent new gone =>
      simp [bucket, hnew.1 new, firstActive?_eq_none.2 gone]
  · rintro rfl
    cases hs : previous.find? fun s => decide (s.number = number) with
    | some s =>
      have hstored := firstSuch_iff.2 hs
      cases hr : lastActive? live number with
      | some r =>
        have hfetched := lastActive?_eq_some_iff.1 hr
        by_cases hupdated : r.updated = s.record.updated
        · simpa [bucket, hr, hupdated] using Belongs.untouched hstored hfetched hupdated
        · simpa [bucket, hr, hupdated] using Belongs.update hstored hfetched hupdated
      | none =>
        have hgone := lastActive?_eq_none.1 hr
        by_cases hmarked : s.isMarked
        · simpa [bucket, hr, hmarked] using Belongs.sweep hstored hmarked hgone
        · simpa [bucket, hr, hmarked] using Belongs.closure hstored hmarked hgone
    | none =>
      cases hr : firstActive? live number with
      | some r =>
        simpa [bucket, hr] using Belongs.creation (hnew.2 hs) (firstActive?_eq_some_iff.1 hr)
      | none => simpa [bucket, hr] using Belongs.absent (hnew.2 hs) (firstActive?_eq_none.1 hr)

/-! ## The plan, bucket by bucket

The lists of a plan are cut into their parts about one case. A part depends only on the first
snapshot and on the first or last open record of that case, however often it occurs. -/

theorem filter_sweeps_of :
    (of previous live).sweeps.filter (fun c => decide (c = number)) =
      ((previous.find? fun s => decide (s.number = number)).toList.filter fun s =>
        !isLive live number && s.isMarked).map Snapshot.number := by
  simp only [of, List.filter_map, List.filter_filter]
  rw [← filter_firstOfEach, List.filter_filter]
  refine congrArg _ (List.filter_congr fun s _ => ?_)
  by_cases hs : s.number = number
  · simp [hs, Bool.and_comm]
  · simp [hs]

/-- What the plan has for a case is what its bucket says. -/
theorem only_of : (of previous live).only number =
    (bucket live number (previous.find? fun s => decide (s.number = number))).plan number := by
  have hcreations := filter_creations_of previous live number
  rw [isStored_eq] at hcreations
  rw [only, filter_closures_of, filter_sweeps_of, filter_updates_of, hcreations, isLive_eq]
  cases hs : previous.find? fun s => decide (s.number = number) with
  | none => cases hr : firstActive? live number <;> simp [bucket, hr, Bucket.plan]
  | some s =>
    have hnumber : s.number = number := by simpa using List.find?_some hs
    cases hr : lastActive? live number with
    | none => cases hm : s.isMarked <;> simp [bucket, update?, hnumber, hr, hm, Bucket.plan]
    | some r =>
      by_cases hupdated : r.updated = s.record.updated <;>
        simp [bucket, update?, hnumber, hr, hupdated, Bucket.plan]

theorem filter_numbers (p : Plan) (number : String) :
    p.numbers.filter (fun c => decide (c = number)) = (p.only number).numbers := by
  simp only [numbers, only, List.filter_append, List.filter_map, Function.comp_def]

theorem length_numbers_plan_le (b : Bucket) (number : String) :
    (b.plan number).numbers.length ≤ 1 := by
  cases b <;> simp [Bucket.plan, numbers]

/-- A plan that has for each case what a bucket says names no case twice. -/
theorem nodup_numbers {p : Plan} (h : ∀ c, ∃ b : Bucket, p.only c = b.plan c) :
    p.numbers.Nodup := by
  rw [List.nodup_iff_count_le_one]
  intro c
  obtain ⟨b, hb⟩ := h c
  have hle := length_numbers_plan_le b c
  rw [← hb, ← filter_numbers] at hle
  rw [List.count_eq_length_filter]
  simpa only [beq_eq_decide] using hle

/-- The changes of the updates are few. -/
theorem mostEvents_le {p : Plan} (h : ∀ u ∈ p.updates,
    (u.changes.map FieldChange.field).Sublist [.comment, .priority, .escalation]) :
    p.mostEvents ≤ p.closures.length + 3 * p.updates.length := by
  have hle : ∀ us : List PlannedUpdate,
      (∀ u ∈ us, (u.changes.map FieldChange.field).Sublist [.comment, .priority, .escalation]) →
        (us.flatMap (·.changes)).length ≤ 3 * us.length := by
    intro us
    induction us with
    | nil => simp
    | cons u rest ih =>
      intro hus
      have hu := (hus u List.mem_cons_self).length_le
      have hrest := ih fun v hv => hus v (List.mem_cons_of_mem u hv)
      simp only [List.length_map, List.length_cons, List.length_nil] at hu
      simp only [List.flatMap_cons, List.length_append, List.length_cons]
      omega
  have hupdates := hle p.updates h
  rw [mostEvents]
  omega

theorem exact_of (previous : List Snapshot) (live : List CaseRecord) :
    (of previous live).Exact previous live := by
  have hsorted : ∀ c, (of previous live).only c =
      (bucket live c (previous.find? fun s => decide (s.number = c))).plan c := fun _ => only_of
  have hstored := pairwise_firstOfEach Snapshot.number previous
  have hchanges : ∀ u ∈ (of previous live).updates,
      (u.changes.map FieldChange.field).Sublist [.comment, .priority, .escalation] := by
    intro u hu
    obtain ⟨s, -, hs⟩ := List.mem_filterMap.1 hu
    unfold update? at hs
    split at hs
    · split at hs
      · cases hs
      · cases hs
        exact field_classify _ _
    · cases hs
  constructor
  · intro c
    exact ⟨_, belongs_iff.2 rfl, fun b' hb' => belongs_iff.1 hb', hsorted c⟩
  · exact nodup_numbers fun c => ⟨_, hsorted c⟩
  · exact (hstored.filter _).filter _
  · exact List.pairwise_map.2 ((hstored.filter _).filter _)
  · refine List.pairwise_filterMap.2 (hstored.imp ?_)
    intro s t hlt u hu v hv
    rwa [(update?_spec hu).2, (update?_spec hv).2]
  · -- the plan drops the stored cases first, the order is that of all open records
    have hcreations : (of previous live).creations =
        (firstOfEach CaseRecord.number (live.filter (·.isActive))).filter fun r =>
          !isStored previous r.number := by
      rw [← firstOfEach_filter fun c => !isStored previous c, List.filter_filter]
      simp only [of, Bool.and_comm]
    rw [hcreations]
    exact (pairwise_firstOfEach CaseRecord.number _).filter _
  · exact hchanges
  · exact mostEvents_le hchanges

/-- Plans that have the same for each case have the same closures, sweeps, updates and creations. -/
theorem mem_iff_of_only {p q : Plan} (h : ∀ c, p.only c = q.only c) :
    (∀ s, s ∈ p.closures ↔ s ∈ q.closures) ∧ (∀ c, c ∈ p.sweeps ↔ c ∈ q.sweeps) ∧
      (∀ u, u ∈ p.updates ↔ u ∈ q.updates) ∧ (∀ r, r ∈ p.creations ↔ r ∈ q.creations) := by
  simp only [only, Plan.mk.injEq] at h
  refine ⟨?_, ?_, ?_, ?_⟩
  · intro s
    simpa using congrArg (s ∈ ·) (h s.number).1
  · intro c
    simpa using congrArg (c ∈ ·) (h c).2.1
  · intro u
    simpa using congrArg (u ∈ ·) (h u.current.number).2.2.1
  · intro r
    simpa using congrArg (r ∈ ·) (h r.number).2.2.2

/-- **The plan of a cycle is the only one that sorts every case into the bucket it belongs to**, in
the order of the snapshots and of the records. -/
theorem exact_iff (previous : List Snapshot) (live : List CaseRecord) (p : Plan) :
    p.Exact previous live ↔ p = of previous live := by
  constructor
  · intro hp
    have hof := exact_of previous live
    have honly : ∀ c, p.only c = (of previous live).only c := by
      intro c
      obtain ⟨b, hb, -, hpb⟩ := hp.sorted c
      obtain ⟨b', -, hone, hofb⟩ := hof.sorted c
      rw [hpb, hofb, hone b hb]
    -- lists with the same elements are the same once the order of both is fixed
    obtain ⟨hclosures, hsweeps, hupdates, hcreations⟩ := mem_iff_of_only honly
    have h₁ := eq_of_pairwise_lt hp.closures_order hof.closures_order hclosures
    have h₂ := eq_of_pairwise_lt hp.sweeps_order hof.sweeps_order hsweeps
    have h₃ := eq_of_pairwise_lt hp.updates_order hof.updates_order hupdates
    have h₄ := eq_of_pairwise_lt hp.creations_order hof.creations_order hcreations
    calc
      p = ⟨p.closures, p.sweeps, p.updates, p.creations⟩ := rfl
      _ = ⟨(of previous live).closures, (of previous live).sweeps, (of previous live).updates,
            (of previous live).creations⟩ := by rw [h₁, h₂, h₃, h₄]
  · rintro rfl
    exact exact_of previous live

end Plan

end CaseHerald
