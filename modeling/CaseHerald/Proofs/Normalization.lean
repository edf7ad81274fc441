import CaseHerald.Proofs.CaseNames
import CaseHerald.Proofs.Timestamps
import CaseHerald.Support.Normalize
import Mathlib.Data.List.Forall2

/-!
# Which payloads have a record

A payload is checked in a fixed order: its name, its state, its priority, its time of update and then
its comments one after another. `Check.Passes` says what each check asks for and `Complaint` what is
reported where it fails. A payload has a record just if it passes all checks (`exists_normalize_iff`), the
record is the one of `IsRecordOf` (`normalize_eq_ok_iff`), and otherwise the failure is that of the first
check that it does not pass (`normalize_eq_error_iff`).

## Main definitions

* `SortedFrom before after` : the second list has the comments of the first, the newest first, and those
  of one time in the order of the first.
* `Check` and `Check.Passes` : the checks, with what passes as a time left open.
* `IsRecordOf c comments r` : the record has what the payload says.
-/
namespace CaseHerald

open Instant (IsTimestamp Denotes)

/-! ## Sorted comments -/

/-- Whether the comments of a list have been sorted from the newest to the oldest. -/
structure SortedFrom (before after : List Comment) : Prop where
  perm : after.Perm before
  newest : after.Pairwise fun a b => b.created ≤ a.created
  /-- comments of one time stay in their order -/
  stable : ∀ t, after.filter (·.created = t) = before.filter (·.created = t)

theorem SortedFrom.tail {before after after' : List Comment} {a : Comment}
    (h : SortedFrom before (a :: after)) (h' : SortedFrom before (a :: after')) :
    SortedFrom after after' where
  perm := (List.perm_cons a).1 (h'.perm.trans h.perm.symm)
  newest := h'.newest.of_cons
  stable t := by
    have heq := (h'.stable t).trans (h.stable t).symm
    rw [List.filter_cons, List.filter_cons] at heq
    split at heq
    next => exact (List.cons.inj heq).2
    next => exact heq

/-- The newest comment comes first, and of those that are equally new the one that came first. -/
theorem SortedFrom.head_eq {before after after' : List Comment} {a b : Comment}
    (h : SortedFrom before (a :: after)) (h' : SortedFrom before (b :: after')) : a = b := by
  have hnewest {c d : Comment} {rest : List Comment} (hc : SortedFrom before (c :: rest))
      (hd : d ∈ before) : d.created ≤ c.created := by
    rcases List.mem_cons.1 (hc.perm.mem_iff.2 hd) with rfl | hrest
    · exact Instant.le_refl _
    · exact List.rel_of_pairwise_cons hc.newest hrest
  have ha : a ∈ before := h.perm.mem_iff.1 List.mem_cons_self
  have hb : b ∈ before := h'.perm.mem_iff.1 List.mem_cons_self
  have htime : a.created = b.created := Instant.le_antisymm (hnewest h' ha) (hnewest h hb)
  have heq := (h.stable a.created).trans (h'.stable a.created).symm
  rw [List.filter_cons_of_pos (by simp), List.filter_cons_of_pos (by simp [htime])] at heq
  exact (List.cons.inj heq).1

/-- There is one way to sort comments. -/
theorem SortedFrom.unique {before after after' : List Comment} (h : SortedFrom before after)
    (h' : SortedFrom before after') : after = after' := by
  induction after generalizing before after' with
  | nil => exact (List.perm_nil.1 (h'.perm.trans h.perm.symm)).symm
  | cons a after ih =>
    cases after' with
    | nil => exact List.perm_nil.1 (h.perm.trans h'.perm.symm)
    | cons b after' =>
      obtain rfl := h.head_eq h'
      have hrest : SortedFrom after after := h.tail h
      rw [ih hrest (h.tail h')]

theorem sortedFrom_newestFirst (comments : List Comment) :
    SortedFrom comments (newestFirst comments) := by
  have htrans (a b c : Comment) (hab : decide (b.created ≤ a.created) = true)
      (hbc : decide (c.created ≤ b.created) = true) : decide (c.created ≤ a.created) = true :=
    decide_eq_true (Instant.le_trans (of_decide_eq_true hbc) (of_decide_eq_true hab))
  have htotal (a b : Comment) :
      (decide (b.created ≤ a.created) || decide (a.created ≤ b.created)) = true := by
    rw [Bool.or_eq_true, decide_eq_true_iff, decide_eq_true_iff, Instant.le_iff_not_lt,
      Instant.le_iff_not_lt]
    by_contra h
    rw [not_or, not_not, not_not] at h
    exact Instant.lt_irrefl _ (Instant.lt_trans h.1 h.2)
  refine ⟨List.mergeSort_perm _ _, ?_, fun t => ?_⟩
  · exact (List.pairwise_mergeSort htrans htotal comments).imp fun h => of_decide_eq_true h
  · -- those of one time are a sorted part of the list, which the sort keeps
    have hpairwise : (comments.filter (·.created = t)).Pairwise
        fun a b => decide (b.created ≤ a.created) = true := by
      refine List.pairwise_of_forall_mem_list fun a ha b hb => decide_eq_true ?_
      have ha' : a.created = t := by simpa using (List.mem_filter.1 ha).2
      have hb' : b.created = t := by simpa using (List.mem_filter.1 hb).2
      rw [ha', hb']
      exact Instant.le_refl t
    have hsub := (List.sublist_mergeSort htrans htotal hpairwise List.filter_sublist).filter
      (·.created = t)
    rw [List.filter_filter] at hsub
    simp only [Bool.and_self] at hsub
    exact (hsub.eq_of_length ((List.mergeSort_perm _ _).filter _).length_eq.symm).symm

theorem sortedFrom_iff {before after : List Comment} :
    SortedFrom before after ↔ after = newestFirst before := by
  constructor
  · intro h
    exact h.unique (sortedFrom_newestFirst before)
  · rintro rfl
    exact sortedFrom_newestFirst before

namespace Support

/-! ## Checks -/

/-- A check of a payload. -/
inductive Check
  | name
  | state
  | priority
  | updateTime
  | comment (i : Nat)

namespace Check

/-- The place of a check among the others. -/
def rank : Check → Nat
  | name => 0
  | state => 1
  | priority => 2
  | updateTime => 3
  | comment i => i + 4

theorem rank_inj {j k : Check} (h : j.rank = k.rank) : j = k := by
  cases j <;> cases k <;> simp_all [rank]

theorem rank_lt_state {j : Check} (h : j.rank < state.rank) : j = name :=
  rank_inj (Nat.lt_one_iff.1 h)

theorem rank_lt_priority {j : Check} (h : j.rank < priority.rank) : j = name ∨ j = state := by
  rcases Nat.lt_succ_iff_lt_or_eq.1 h with h | h
  · exact .inl (rank_lt_state h)
  · exact .inr (rank_inj h)

theorem rank_lt_updateTime {j : Check} (h : j.rank < updateTime.rank) :
    j = name ∨ j = state ∨ j = priority := by
  rcases Nat.lt_succ_iff_lt_or_eq.1 h with h | h
  · exact (rank_lt_priority h).imp_right .inl
  · exact .inr (.inr (rank_inj h))

/-- What a check asks for, where `valid` are the texts that pass as a time. -/
def Passes (valid : String → Prop) (c : CasePayload) (comments : List CommentPayload) : Check → Prop
  | name => ∃ parent number, c.name = parent ++ "/cases/" ++ number ∧ parent ≠ "" ∧ number ≠ "" ∧
      '/' ∉ number.toList
  | state => c.state = "CLOSED" ∨ c.state ∈ CaseState.activeNames
  | priority => ∃ raw p, (c.priority = some raw ∨ c.priority = none ∧ c.severity = some raw) ∧
      Priority.read raw = .ok p
  | updateTime => ∃ raw ∈ c.updateTime, valid raw
  | comment i => ∀ m ∈ comments[i]?, ∃ raw ∈ m.createTime, valid raw

end Check

/-- What is reported of a field that has no time. -/
inductive NoTime (number field : String) : Option String → SourceFailure → Prop
  | missing : NoTime number field none (.malformed (some number) ("missing " ++ field))
  | invalid {raw : String} {fault : Instant.Fault} (unread : Instant.readStrict raw = .error fault) :
      NoTime number field (some raw) (.malformed (some number)
        ("invalid " ++ field ++ " " ++ Text.quoted raw ++ ": " ++ fault.message))

/-- What is reported of a payload that does not pass a check. The number of the case is told, unless there
is none. -/
inductive Complaint (c : CasePayload) (comments : List CommentPayload) : Check → SourceFailure → Prop
  | name : Complaint c comments .name
      (.malformed none ("unrecognized case name " ++ Text.quoted c.name))
  | state {parent number : String} (named : CaseName.split? c.name = some (parent, number)) :
      Complaint c comments .state (.malformed (some number) (FieldFault.message ⟨"state", c.state⟩))
  | noPriority {parent number : String} (named : CaseName.split? c.name = some (parent, number))
      (given : c.priority.or c.severity = none) :
      Complaint c comments .priority (.malformed (some number) "missing priority")
  | priority {parent number raw : String} (named : CaseName.split? c.name = some (parent, number))
      (given : c.priority.or c.severity = some raw) :
      Complaint c comments .priority (.malformed (some number) (FieldFault.message ⟨"priority", raw⟩))
  | updateTime {parent number : String} {f : SourceFailure}
      (named : CaseName.split? c.name = some (parent, number))
      (time : NoTime number "updateTime" c.updateTime f) : Complaint c comments .updateTime f
  | comment {parent number : String} {i : Nat} {m : CommentPayload} {f : SourceFailure}
      (named : CaseName.split? c.name = some (parent, number)) (found : comments[i]? = some m)
      (time : NoTime number "comment createTime" m.createTime f) : Complaint c comments (.comment i) f

/-! ## Records -/

/-- Whether the comment is the one of the payload. -/
structure IsCommentOf (m : CommentPayload) (n : Comment) : Prop where
  author : n.author = ⟨(m.creator.getD .unknown).displayName, (m.creator.getD .unknown).email,
    (m.creator.getD .unknown).isSupport⟩
  body : n.body = m.body
  created : ∃ raw ∈ m.createTime, Denotes raw n.created

/-- Whether the record is the one of the payload and its comments. -/
structure IsRecordOf (c : CasePayload) (comments : List CommentPayload) (r : CaseRecord) : Prop where
  name : c.name = r.parent ++ "/cases/" ++ r.number
  parent_ne : r.parent ≠ ""
  number_ne : r.number ≠ ""
  no_slash : '/' ∉ r.number.toList
  displayName : r.displayName = c.displayName
  state : c.state = "CLOSED" ∧ r.state = .closed ∨ c.state ∈ CaseState.activeNames ∧ r.state = .active
  priority : ∃ raw, (c.priority = some raw ∨ c.priority = none ∧ c.severity = some raw) ∧
    Priority.read raw = .ok r.priority
  escalated : r.escalated = c.escalated
  updated : ∃ raw ∈ c.updateTime, Denotes raw r.updated
  comments : ∃ normal, List.Forall₂ IsCommentOf comments normal ∧ SortedFrom normal r.comments

theorem IsRecordOf.resourceName_eq {c : CasePayload} {comments : List CommentPayload} {r : CaseRecord}
    (h : IsRecordOf c comments r) : r.resourceName = c.name := by
  rw [h.name]
  exact CaseName.join_of_ne h.parent_ne r.number

/-! ## One check after another -/

section Steps

variable {ε α β : Type}

theorem bind_eq_ok_iff {x : Except ε α} {f : α → Except ε β} {b : β} :
    x >>= f = .ok b ↔ ∃ a, x = .ok a ∧ f a = .ok b := by
  cases x with
  | error e => exact iff_of_false nofun fun ⟨_, h, _⟩ => nomatch h
  | ok a =>
    refine ⟨fun h => ⟨a, rfl, h⟩, fun ⟨_, ha, h⟩ => ?_⟩
    cases ha
    exact h

theorem bind_eq_error_iff {x : Except ε α} {f : α → Except ε β} {e : ε} :
    x >>= f = .error e ↔ x = .error e ∨ ∃ a, x = .ok a ∧ f a = .error e := by
  cases x with
  | error e' =>
    refine ⟨fun h => ?_, fun h => ?_⟩
    · cases h
      exact .inl rfl
    · rcases h with h | ⟨_, h, _⟩
      · cases h
        rfl
      · cases h
  | ok a =>
    refine ⟨fun h => .inr ⟨a, rfl, h⟩, fun h => ?_⟩
    rcases h with h | ⟨_, ha, h⟩
    · cases h
    · cases ha
      exact h

theorem mapM_eq_ok_iff {f : α → Except ε β} {xs : List α} {ys : List β} :
    xs.mapM f = .ok ys ↔ List.Forall₂ (fun x y => f x = .ok y) xs ys := by
  induction xs generalizing ys with
  | nil =>
    rw [List.forall₂_nil_left_iff, List.mapM_nil]
    refine ⟨fun h => ?_, fun h => ?_⟩
    · cases h
      rfl
    · rw [h]
      rfl
  | cons x xs ih =>
    simp only [List.mapM_cons, bind_eq_ok_iff, ih, List.forall₂_cons_left_iff]
    constructor
    · rintro ⟨y, hy, ys', hys, h⟩
      cases h
      exact ⟨y, ys', hy, hys, rfl⟩
    · rintro ⟨y, ys', hy, hys, rfl⟩
      exact ⟨y, hy, ys', hys, rfl⟩

/-- A list fails at the first of its items that fails. -/
theorem exists_of_mapM_eq_error {f : α → Except ε β} {xs : List α} {e : ε} (h : xs.mapM f = .error e) :
    ∃ (i : Nat) (x : α), xs[i]? = some x ∧ f x = .error e ∧ ∀ j < i, ∀ y ∈ xs[j]?, ∃ b, f y = .ok b := by
  induction xs with
  | nil => cases h
  | cons x xs ih =>
    rw [List.mapM_cons, bind_eq_error_iff] at h
    rcases h with h | ⟨b, hb, h⟩
    · exact ⟨0, x, rfl, h, fun j hj => absurd hj (Nat.not_lt_zero j)⟩
    · rcases bind_eq_error_iff.1 h with h | ⟨bs, -, h⟩
      · obtain ⟨i, x', hx, hfail, hbefore⟩ := ih h
        refine ⟨i + 1, x', hx, hfail, fun j hj y hy => ?_⟩
        cases j with
        | zero =>
          obtain rfl : x = y := Option.some.inj hy
          exact ⟨b, hb⟩
        | succ j => exact hbefore j (by omega) y hy
      · cases h

end Steps

variable {c : CasePayload} {comments : List CommentPayload} {number : String} {f : SourceFailure}

theorem instantOf_eq_ok_iff {field : String} {given : Option String} {t : Instant} :
    instantOf number field given = .ok t ↔ ∃ raw ∈ given, Denotes raw t := by
  cases given with
  | none => exact iff_of_false nofun fun ⟨_, h, _⟩ => nomatch h
  | some raw =>
    have hraw : (∃ raw' ∈ some raw, Denotes raw' t) ↔ Instant.readStrict raw = .ok t := by
      simp [Instant.readStrict_eq_ok_iff]
    rw [hraw, instantOf]
    cases Instant.readStrict raw with
    | ok u => simp
    | error fault => simp

theorem instantOf_eq_error_iff {field : String} {given : Option String} :
    instantOf number field given = .error f ↔ NoTime number field given f := by
  cases given with
  | none =>
    refine ⟨fun h => ?_, fun h => ?_⟩
    · cases h
      exact .missing
    · cases h
      rfl
  | some raw =>
    rw [instantOf]
    constructor
    · intro h
      cases hread : Instant.readStrict raw with
      | ok t =>
        rw [hread] at h
        cases h
      | error fault =>
        rw [hread] at h
        cases h
        exact .invalid hread
    · intro h
      cases h with
      | invalid unread => rw [unread]

theorem exists_instantOf_iff {field : String} {given : Option String} :
    (∃ t, instantOf number field given = .ok t) ↔ ∃ raw ∈ given, IsTimestamp raw := by
  simp only [instantOf_eq_ok_iff, ← Instant.exists_denotes_iff]
  constructor
  · rintro ⟨t, raw, hraw, ht⟩
    exact ⟨raw, hraw, t, ht⟩
  · rintro ⟨raw, hraw, t, ht⟩
    exact ⟨t, raw, hraw, ht⟩

theorem CommentPayload.normalize_eq_ok_iff {m : CommentPayload} {n : Comment} :
    m.normalize number = .ok n ↔ IsCommentOf m n := by
  rw [CommentPayload.normalize, bind_eq_ok_iff]
  constructor
  · rintro ⟨t, ht, h⟩
    cases h
    exact ⟨rfl, rfl, instantOf_eq_ok_iff.1 ht⟩
  · rintro ⟨hauthor, hbody, hcreated⟩
    refine ⟨n.created, instantOf_eq_ok_iff.2 hcreated, ?_⟩
    rw [← hauthor, ← hbody]
    rfl

theorem CommentPayload.normalize_eq_error_iff {m : CommentPayload} :
    m.normalize number = .error f ↔ NoTime number "comment createTime" m.createTime f := by
  rw [CommentPayload.normalize, bind_eq_error_iff, instantOf_eq_error_iff]
  exact or_iff_left fun ⟨_, _, h⟩ => nomatch h

theorem CommentPayload.exists_normalize_iff {m : CommentPayload} :
    (∃ n, m.normalize number = .ok n) ↔ ∃ raw ∈ m.createTime, IsTimestamp raw := by
  simp only [CommentPayload.normalize_eq_ok_iff, ← Instant.exists_denotes_iff]
  constructor
  · rintro ⟨n, -, -, raw, hraw, ht⟩
    exact ⟨raw, hraw, n.created, ht⟩
  · rintro ⟨raw, hraw, t, ht⟩
    exact ⟨⟨_, m.body, t⟩, rfl, rfl, raw, hraw, ht⟩

theorem fieldOf_eq_ok_iff {α : Type} {x : Except FieldFault α} {a : α} :
    fieldOf number x = .ok a ↔ x = .ok a := by
  cases x <;> simp [fieldOf]

theorem fieldOf_eq_error_iff {α : Type} {x : Except FieldFault α} :
    fieldOf number x = .error f ↔ ∃ fault, x = .error fault ∧ f = .malformed (some number) fault.message := by
  cases x <;> simp [fieldOf, eq_comm]

theorem ofReport_eq_ok_iff {raw : String} {s : CaseState} : CaseState.ofReport raw = .ok s ↔
    raw = "CLOSED" ∧ s = .closed ∨ raw ∈ CaseState.activeNames ∧ s = .active := by
  unfold CaseState.ofReport
  by_cases hclosed : raw = "CLOSED"
  · have hactive : "CLOSED" ∉ CaseState.activeNames := by decide
    rw [if_pos hclosed]
    simp [hclosed, hactive, eq_comm]
  · rw [if_neg hclosed]
    by_cases hactive : raw ∈ CaseState.activeNames
    · rw [if_pos hactive]
      simp [hclosed, hactive, eq_comm]
    · rw [if_neg hactive]
      simp [hclosed, hactive]

theorem ofReport_eq_error {raw : String} {fault : FieldFault} (h : CaseState.ofReport raw = .error fault) :
    fault = ⟨"state", raw⟩ := by
  unfold CaseState.ofReport at h
  split at h
  · cases h
  split at h
  · cases h
  · cases h
    rfl

theorem read_eq_error {raw : String} {fault : FieldFault} (h : Priority.read raw = .error fault) :
    fault = ⟨"priority", raw⟩ := by
  unfold Priority.read at h
  split at h
  · cases h
  · cases h
    rfl

theorem CasePayload.priorityText_eq_ok_iff {raw : String} : c.priorityText number = .ok raw ↔
    c.priority.or c.severity = some raw := by
  unfold priorityText
  cases c.priority.or c.severity <;> simp

theorem CasePayload.priorityText_eq_error_iff : c.priorityText number = .error f ↔
    c.priority.or c.severity = none ∧ f = .malformed (some number) "missing priority" := by
  unfold priorityText
  cases c.priority.or c.severity <;> simp [eq_comm]

/-- What is done with a payload whose name has parts. -/
theorem CasePayload.normalize_of_split? {parent : String}
    (h : CaseName.split? c.name = some (parent, number)) :
    c.normalize comments = (do
      let state ← fieldOf number (CaseState.ofReport c.state)
      let raw ← c.priorityText number
      let priority ← fieldOf number (Priority.read raw)
      let updated ← instantOf number "updateTime" c.updateTime
      let comments ← comments.mapM (CommentPayload.normalize number)
      return { number, parent, displayName := c.displayName, state, priority
               escalated := c.escalated, updated, comments := newestFirst comments }) := by
  rw [normalize, h]
  rfl

theorem CasePayload.normalize_of_split?_none (h : CaseName.split? c.name = none) :
    c.normalize comments = .error (.malformed none ("unrecognized case name " ++ Text.quoted c.name)) := by
  rw [normalize, h]
  rfl

/-- **Which records payloads have.** -/
theorem CasePayload.normalize_eq_ok_iff {r : CaseRecord} :
    c.normalize comments = .ok r ↔ IsRecordOf c comments r := by
  constructor
  · intro h
    cases hsplit : CaseName.split? c.name with
    | none =>
      rw [normalize_of_split?_none hsplit] at h
      cases h
    | some parts =>
      obtain ⟨hname, hparent, hnumber, hslash⟩ := CaseName.split?_eq_some_iff.1 hsplit
      rw [normalize_of_split? hsplit] at h
      simp only [bind_eq_ok_iff, fieldOf_eq_ok_iff, ofReport_eq_ok_iff, priorityText_eq_ok_iff,
        Option.or_eq_some_iff, instantOf_eq_ok_iff, mapM_eq_ok_iff,
        CommentPayload.normalize_eq_ok_iff] at h
      obtain ⟨state, hstate, raw, hraw, priority, hpriority, updated, hupdated, normal, hnormal, h⟩ := h
      cases h
      exact ⟨hname, hparent, hnumber, hslash, rfl, hstate, ⟨raw, hraw, hpriority⟩, rfl, hupdated,
        normal, hnormal, sortedFrom_newestFirst normal⟩
  · rintro ⟨hname, hparent, hnumber, hslash, hdisplay, hstate, ⟨raw, hraw, hpriority⟩, hescalated, hupdated,
      normal, hnormal, hsorted⟩
    rw [normalize_of_split? (CaseName.split?_eq_some_iff.2 ⟨hname, hparent, hnumber, hslash⟩)]
    simp only [bind_eq_ok_iff, fieldOf_eq_ok_iff, ofReport_eq_ok_iff, priorityText_eq_ok_iff,
      Option.or_eq_some_iff, instantOf_eq_ok_iff, mapM_eq_ok_iff, CommentPayload.normalize_eq_ok_iff]
    refine ⟨r.state, hstate, raw, hraw, r.priority, hpriority, r.updated, hupdated, normal, hnormal, ?_⟩
    rw [← hdisplay, ← hescalated, ← sortedFrom_iff.1 hsorted]
    rfl

/-! ## The first check that fails -/

/-- Whether a check is the first that a payload does not pass. -/
def Check.FirstFailing (c : CasePayload) (comments : List CommentPayload) (k : Check) : Prop :=
  ¬k.Passes IsTimestamp c comments ∧ ∀ j : Check, j.rank < k.rank → j.Passes IsTimestamp c comments

theorem Check.FirstFailing.unique {j k : Check} (hj : j.FirstFailing c comments)
    (hk : k.FirstFailing c comments) : j = k := by
  refine rank_inj (Nat.le_antisymm ?_ ?_)
  · exact Nat.le_of_not_lt fun h => hk.1 (hj.2 k h)
  · exact Nat.le_of_not_lt fun h => hj.1 (hk.2 j h)

theorem NoTime.unique {field : String} {given : Option String} {f g : SourceFailure}
    (hf : NoTime number field given f) (hg : NoTime number field given g) : f = g := by
  rw [← instantOf_eq_error_iff] at hf hg
  rw [hf] at hg
  cases hg
  rfl

theorem Complaint.unique {k : Check} {f g : SourceFailure} (hf : Complaint c comments k f)
    (hg : Complaint c comments k g) : f = g := by
  have hnumber {parent number parent' number' : String}
      (h : CaseName.split? c.name = some (parent, number))
      (h' : CaseName.split? c.name = some (parent', number')) : number = number' := by
    rw [h] at h'
    cases h'
    rfl
  cases hf with
  | name => cases hg; rfl
  | state named => cases hg with | state named' => rw [hnumber named named']
  | noPriority named given =>
    cases hg with
    | noPriority named' => rw [hnumber named named']
    | priority _ given' => rw [given] at given'; cases given'
  | priority named given =>
    cases hg with
    | noPriority _ given' => rw [given] at given'; cases given'
    | priority named' given' =>
      rw [given] at given'
      cases given'
      rw [hnumber named named']
  | updateTime named time =>
    cases hg with
    | updateTime named' time' =>
      rw [hnumber named named'] at time
      exact time.unique time'
  | comment named found time =>
    cases hg with
    | comment named' found' time' =>
      rw [found] at found'
      cases found'
      rw [hnumber named named'] at time
      exact time.unique time'

namespace Check

variable {k : Check}

theorem passes_name_iff :
    name.Passes IsTimestamp c comments ↔ ∃ parts, CaseName.split? c.name = some parts := by
  rw [Prod.exists]
  simp only [CaseName.split?_eq_some_iff, Passes]

theorem passes_state_iff :
    state.Passes IsTimestamp c comments ↔ ∃ s, CaseState.ofReport c.state = .ok s := by
  simp only [ofReport_eq_ok_iff, Passes]
  constructor
  · rintro (hclosed | hactive)
    · exact ⟨.closed, .inl ⟨hclosed, rfl⟩⟩
    · exact ⟨.active, .inr ⟨hactive, rfl⟩⟩
  · rintro ⟨s, h⟩
    exact h.imp And.left And.left

theorem passes_priority_iff : priority.Passes IsTimestamp c comments ↔
    ∃ raw p, c.priority.or c.severity = some raw ∧ Priority.read raw = .ok p := by
  simp only [Option.or_eq_some_iff, Passes]

theorem passes_updateTime_iff (number : String) : updateTime.Passes IsTimestamp c comments ↔
    ∃ t, instantOf number "updateTime" c.updateTime = .ok t := exists_instantOf_iff.symm

theorem passes_comment_iff (number : String) {i : Nat} : (comment i).Passes IsTimestamp c comments ↔
    ∀ m ∈ comments[i]?, ∃ n, m.normalize number = .ok n := by
  simp only [CommentPayload.exists_normalize_iff, Passes]

end Check

/-- A payload without a record does not pass some check, and the first of these is complained of. -/
theorem CasePayload.exists_firstFailing (h : c.normalize comments = .error f) :
    ∃ k : Check, k.FirstFailing c comments ∧ Complaint c comments k f := by
  cases hsplit : CaseName.split? c.name with
  | none =>
    rw [normalize_of_split?_none hsplit] at h
    cases h
    refine ⟨.name, ⟨fun hpass => ?_, fun j hj => absurd hj (Nat.not_lt_zero _)⟩, .name⟩
    obtain ⟨parts, hparts⟩ := Check.passes_name_iff.1 hpass
    rw [hparts] at hsplit
    cases hsplit
  | some parts =>
    obtain ⟨parent, number⟩ := parts
    have hname : Check.name.Passes IsTimestamp c comments := Check.passes_name_iff.2 ⟨_, hsplit⟩
    rw [normalize_of_split? hsplit, bind_eq_error_iff] at h
    rcases h with hstate | ⟨state, hstate, h⟩
    · obtain ⟨fault, hfault, rfl⟩ := fieldOf_eq_error_iff.1 hstate
      obtain rfl := ofReport_eq_error hfault
      refine ⟨.state, ⟨fun hpass => ?_, fun j hj => ?_⟩, .state hsplit⟩
      · obtain ⟨s, hs⟩ := Check.passes_state_iff.1 hpass
        rw [hs] at hfault
        cases hfault
      · obtain rfl : j = .name := Check.rank_lt_state hj
        exact hname
    have hstate' : Check.state.Passes IsTimestamp c comments :=
      Check.passes_state_iff.2 ⟨state, fieldOf_eq_ok_iff.1 hstate⟩
    have hbefore (j : Check) (hj : j.rank < Check.priority.rank) : j.Passes IsTimestamp c comments := by
      rcases Check.rank_lt_priority hj with rfl | rfl
      · exact hname
      · exact hstate'
    rcases bind_eq_error_iff.1 h with hraw | ⟨raw, hraw, h⟩
    · obtain ⟨hnone, rfl⟩ := priorityText_eq_error_iff.1 hraw
      refine ⟨.priority, ⟨fun hpass => ?_, hbefore⟩, .noPriority hsplit hnone⟩
      obtain ⟨raw, -, hsome, -⟩ := Check.passes_priority_iff.1 hpass
      rw [hnone] at hsome
      cases hsome
    rw [priorityText_eq_ok_iff] at hraw
    rcases bind_eq_error_iff.1 h with hread | ⟨priority, hread, h⟩
    · obtain ⟨fault, hfault, rfl⟩ := fieldOf_eq_error_iff.1 hread
      obtain rfl := read_eq_error hfault
      refine ⟨.priority, ⟨fun hpass => ?_, hbefore⟩, .priority hsplit hraw⟩
      obtain ⟨raw', p, hsome, hp⟩ := Check.passes_priority_iff.1 hpass
      rw [hraw] at hsome
      cases hsome
      rw [hp] at hfault
      cases hfault
    have hpriority : Check.priority.Passes IsTimestamp c comments :=
      Check.passes_priority_iff.2 ⟨raw, priority, hraw, fieldOf_eq_ok_iff.1 hread⟩
    have hbefore (j : Check) (hj : j.rank < Check.updateTime.rank) : j.Passes IsTimestamp c comments := by
      rcases Check.rank_lt_updateTime hj with rfl | rfl | rfl
      · exact hname
      · exact hstate'
      · exact hpriority
    rcases bind_eq_error_iff.1 h with hupdate | ⟨updated, hupdate, h⟩
    · refine ⟨.updateTime, ⟨fun hpass => ?_, hbefore⟩,
        .updateTime hsplit (instantOf_eq_error_iff.1 hupdate)⟩
      obtain ⟨t, ht⟩ := (Check.passes_updateTime_iff number).1 hpass
      rw [ht] at hupdate
      cases hupdate
    have hupdated : Check.updateTime.Passes IsTimestamp c comments :=
      (Check.passes_updateTime_iff number).2 ⟨updated, hupdate⟩
    rcases bind_eq_error_iff.1 h with hcomments | ⟨_, _, h⟩
    · obtain ⟨i, m, hm, hfail, hfirst⟩ := exists_of_mapM_eq_error hcomments
      refine ⟨.comment i, ⟨fun hpass => ?_, fun j hj => ?_⟩,
        .comment hsplit hm (CommentPayload.normalize_eq_error_iff.1 hfail)⟩
      · obtain ⟨n, hn⟩ := (Check.passes_comment_iff number).1 hpass m hm
        rw [hn] at hfail
        cases hfail
      · cases j with
        | name => exact hname
        | state => exact hstate'
        | priority => exact hpriority
        | updateTime => exact hupdated
        | comment j => exact (Check.passes_comment_iff number).2 (hfirst j (Nat.lt_of_add_lt_add_right hj))
    · cases h

theorem IsRecordOf.passes {r : CaseRecord} (h : IsRecordOf c comments r) (k : Check) :
    k.Passes IsTimestamp c comments := by
  cases k with
  | name => exact ⟨r.parent, r.number, h.name, h.parent_ne, h.number_ne, h.no_slash⟩
  | state => exact h.state.imp And.left And.left
  | priority =>
    obtain ⟨raw, hraw, hread⟩ := h.priority
    exact ⟨raw, r.priority, hraw, hread⟩
  | updateTime =>
    obtain ⟨raw, hraw, ht⟩ := h.updated
    exact ⟨raw, hraw, Instant.exists_denotes_iff.1 ⟨_, ht⟩⟩
  | comment i =>
    intro m hm
    obtain ⟨normal, hnormal, -⟩ := h.comments
    obtain ⟨hi, rfl⟩ := List.getElem?_eq_some_iff.1 hm
    obtain ⟨raw, hraw, ht⟩ := (hnormal.get hi (hnormal.length_eq ▸ hi)).created
    exact ⟨raw, hraw, Instant.exists_denotes_iff.1 ⟨_, ht⟩⟩

/-- **Which payloads have a record.** -/
theorem CasePayload.exists_normalize_iff :
    (∃ r, c.normalize comments = .ok r) ↔ ∀ k : Check, k.Passes IsTimestamp c comments := by
  constructor
  · rintro ⟨r, h⟩
    exact (normalize_eq_ok_iff.1 h).passes
  · intro hall
    cases hnormal : c.normalize comments with
    | ok r => exact ⟨r, rfl⟩
    | error f =>
      obtain ⟨k, hk, -⟩ := exists_firstFailing hnormal
      exact absurd (hall k) hk.1

/-- **What is reported of a payload without a record.** -/
theorem CasePayload.normalize_eq_error_iff :
    c.normalize comments = .error f ↔ ∃ k : Check, k.FirstFailing c comments ∧ Complaint c comments k f := by
  constructor
  · exact exists_firstFailing
  · rintro ⟨k, hk, hf⟩
    cases hnormal : c.normalize comments with
    | ok r => exact absurd ((normalize_eq_ok_iff.1 hnormal).passes k) hk.1
    | error g =>
      obtain ⟨j, hj, hg⟩ := exists_firstFailing hnormal
      obtain rfl := hj.unique hk
      rw [hg.unique hf]

/-- **Normalization takes the payloads that pass all checks**, their record is what they say, and of the
others it reports the first check that they do not pass. -/
theorem CasePayload.normalize_checks (c : CasePayload) (comments : List CommentPayload) :
    ((∃ r, c.normalize comments = .ok r) ↔ ∀ k : Check, k.Passes IsTimestamp c comments) ∧
    (∀ f, c.normalize comments = .error f ↔
      ∃ k : Check, k.FirstFailing c comments ∧ Complaint c comments k f) ∧
    (∀ r, c.normalize comments = .ok r ↔ IsRecordOf c comments r) ∧
    (∀ r, c.normalize comments = .ok r → r.resourceName = c.name) :=
  ⟨exists_normalize_iff, fun _ => normalize_eq_error_iff, fun _ => normalize_eq_ok_iff,
    fun _ h => (normalize_eq_ok_iff.1 h).resourceName_eq⟩

/-- A payload with a minus sign in its time of update. -/
def minusSign : CasePayload where
  name := "projects/my-proj/cases/12345"
  displayName := "VM unreachable"
  state := "IN_PROGRESS_GOOGLE_SUPPORT"
  priority := some "P2"
  severity := none
  escalated := false
  updateTime := some "2024-05-05T05:05:05\u221205:00"
  subscribers := []

/-- The characters of RFC 3339 are not the only ones that pass. -/
theorem minusSign_passes : ¬((∃ r, minusSign.normalize [] = .ok r) ↔
    ∀ k : Check, k.Passes Instant.IsRfc3339 minusSign []) := by
  intro h
  have hrecord : ∃ r, minusSign.normalize [] = .ok r := ⟨_, rfl⟩
  obtain ⟨raw, hraw, -, hascii⟩ := h.1 hrecord .updateTime
  cases hraw
  exact absurd (hascii '\u2212' (by decide)) (by decide)

end Support

end CaseHerald
