import CaseHerald.Proofs.Crew
import Mathlib.Data.List.Perm.Subperm

/-!
# Closures that are announced twice

A deletion removes the markers of a case, so a watcher that marks the case after it is the first writer
anew. The `Ledger` of a run tells who opens a closure, by marking a case whose closing marker does not
stand; every closing announcement is that of an opener (`Balanced`). So a case is announced as closed at
most once if no two marks of it are `Split` by a deletion, and in a run without failures only then.
-/
namespace CaseHerald.Watch

open Store (Memory Query markerKey isMarkerOf)

variable {ι : Type}

/-! ## Marks and deletions -/

namespace Exchange

/-- Whether the exchange writes the case as closed. -/
def marks (c : String) (x : Exchange) : Bool :=
  x.written?.any fun w => decide (w.1.number = c) && w.1.isMarked

/-- Whether the exchange deletes the closing marker of the case. -/
def purges (c : String) (x : Exchange) : Bool :=
  x.deleted?.any fun d => isMarkerOf d (markerKey c .closingMark)

theorem not_purges {c : String} {x : Exchange} (h : x.marks c) : ¬x.purges c := by
  obtain ⟨q, reply⟩ := x
  cases q with
  | store q =>
    cases q with
    | delete d => simp [marks, written?] at h
    | _ => simp [purges, deleted?]
  | _ => simp [purges, deleted?]

end Exchange

/-- Two marks of the case with a deletion between them. -/
def Split (c : String) (log : List (ι × Exchange)) : Prop :=
  ∃ x y z : ι × Exchange,
    [x, y, z].Sublist log ∧ x.2.marks c ∧ y.2.purges c ∧ z.2.marks c

/-- Who opened a closure so far, and whether its marker stands. -/
structure Ledger (ι : Type) where
  standing : Bool
  openers : List ι

namespace Ledger

variable {c : String}

/-- The ledger after one more exchange. -/
def after (c : String) (b : Ledger ι) (x : ι × Exchange) : Ledger ι :=
  if x.2.marks c then ⟨true, if b.standing then b.openers else b.openers ++ [x.1]⟩
  else if x.2.purges c then ⟨false, b.openers⟩
  else b

/-- The number of openers after some exchanges. -/
def count (c : String) (b : Ledger ι) (log : List (ι × Exchange)) : Nat :=
  (log.foldl (after c) b).openers.length

/-- What one exchange does to the ledger. -/
theorem after_cases (c : String) (b : Ledger ι) (x : ι × Exchange) :
    x.2.marks c ∧ (b.after c x).standing ∧
        (b.after c x).openers.length = b.openers.length + (if b.standing then 0 else 1) ∨
      ¬x.2.marks c ∧ x.2.purges c ∧ (b.after c x).standing = false ∧
        (b.after c x).openers.length = b.openers.length ∨
      ¬x.2.marks c ∧ ¬x.2.purges c ∧ b.after c x = b := by
  unfold after
  by_cases hm : x.2.marks c
  · refine .inl ⟨hm, ?_⟩
    cases b.standing <;> simp [hm]
  · by_cases hp : x.2.purges c
    · exact .inr (.inl ⟨hm, hp, by simp [hm, hp]⟩)
    · exact .inr (.inr ⟨hm, hp, by simp [hm, hp]⟩)

theorem count_cons (b : Ledger ι) (x : ι × Exchange) (log : List (ι × Exchange)) :
    b.count c (x :: log) = (b.after c x).count c log := rfl

theorem le_count (b : Ledger ι) (log : List (ι × Exchange)) : b.openers.length ≤ b.count c log := by
  induction log generalizing b with
  | nil => exact Nat.le_refl _
  | cons x log ih =>
    have hlog := ih (b.after c x)
    rw [count_cons]
    rcases after_cases c b x with ⟨-, -, h⟩ | ⟨-, -, -, h⟩ | ⟨-, -, h⟩
    · omega
    · omega
    · rwa [h] at hlog ⊢

/-- A mark while no marker stands is an opening. -/
theorem lt_count_of_marks {b : Ledger ι} (hb : b.standing = false) {log : List (ι × Exchange)}
    {z : ι × Exchange} (hz : z ∈ log) (hmarks : z.2.marks c) :
    b.openers.length < b.count c log := by
  induction log generalizing b with
  | nil => cases hz
  | cons x log ih =>
    rw [count_cons]
    rcases after_cases c b x with ⟨-, -, h⟩ | ⟨hx, -, hstand, h⟩ | ⟨hx, -, h⟩
    · have hle := le_count (c := c) (b.after c x) log
      rw [hb] at h
      simp only [Bool.false_eq_true, if_false] at h
      omega
    · rcases List.mem_cons.1 hz with rfl | hz
      · exact absurd hmarks hx
      · exact h ▸ ih hstand hz
    · rcases List.mem_cons.1 hz with rfl | hz
      · exact absurd hmarks hx
      · rw [h]
        exact ih hb hz

/-- A mark after a deletion is an opening. -/
theorem lt_count_of_purges {b : Ledger ι} {log : List (ι × Exchange)} {y z : ι × Exchange}
    (hyz : [y, z].Sublist log) (hy : y.2.purges c) (hz : z.2.marks c) :
    b.openers.length < b.count c log := by
  induction log generalizing b with
  | nil => cases hyz
  | cons x log ih =>
    rw [count_cons]
    rcases List.cons_sublist_cons'.1 hyz with hskip | ⟨rfl, htake⟩
    · have hlog := ih (b := b.after c x) hskip
      rcases after_cases c b x with ⟨-, -, h⟩ | ⟨-, -, -, h⟩ | ⟨-, -, h⟩
      · omega
      · omega
      · rw [h] at hlog ⊢
        exact hlog
    · have hmem : z ∈ log := htake.subset List.mem_cons_self
      rcases after_cases c b y with ⟨hy', -, -⟩ | ⟨-, -, hstand, h⟩ | ⟨-, hy', -⟩
      · exact absurd hy (Exchange.not_purges hy')
      · exact h ▸ lt_count_of_marks hstand hmem hz
      · exact absurd hy hy'

/-- **A split closure is opened twice.** -/
theorem two_le_count {b : Ledger ι} (hb : b.standing = false) {log : List (ι × Exchange)}
    (hsplit : Split c log) : b.openers.length + 2 ≤ b.count c log := by
  obtain ⟨x, y, z, hsub, hx, hy, hz⟩ := hsplit
  induction log generalizing b with
  | nil => cases hsub
  | cons w log ih =>
    rw [count_cons]
    rcases List.cons_sublist_cons'.1 hsub with hskip | ⟨rfl, htake⟩
    · rcases after_cases c b w with ⟨-, hstand, h⟩ | ⟨-, -, hstand, h⟩ | ⟨-, -, h⟩
      · rw [hb] at h
        simp only [Bool.false_eq_true, if_false] at h
        have hlog := lt_count_of_purges (b := b.after c w)
          ((List.sublist_cons_self x _).trans hskip) hy hz
        omega
      · exact h ▸ ih hstand hskip
      · rw [h]
        exact ih hb hskip
    · rcases after_cases c b x with ⟨-, -, h⟩ | ⟨hx', -⟩ | ⟨hx', -⟩
      · rw [hb] at h
        simp only [Bool.false_eq_true, if_false] at h
        have hlog := lt_count_of_purges (b := b.after c x) htake hy hz
        omega
      · exact absurd hx hx'
      · exact absurd hx hx'

/-- Without a mark nothing is opened. -/
theorem count_le_of_no_marks {b : Ledger ι} {log : List (ι × Exchange)}
    (h : ∀ z ∈ log, ¬z.2.marks c) : b.count c log ≤ b.openers.length := by
  induction log generalizing b with
  | nil => exact Nat.le_refl _
  | cons x log ih =>
    have hlog := ih (b := b.after c x) fun z hz => h z (List.mem_cons_of_mem _ hz)
    rw [count_cons]
    rcases after_cases c b x with ⟨hx, -⟩ | ⟨-, -, -, hsame⟩ | ⟨-, -, hsame⟩
    · exact absurd hx (h x List.mem_cons_self)
    · omega
    · rw [hsame] at hlog ⊢
      exact hlog

/-- While the marker stands, nothing is opened but by a mark after a deletion. -/
theorem count_le_of_standing {b : Ledger ι} (hb : b.standing) {log : List (ι × Exchange)}
    (h : ∀ y z, [y, z].Sublist log → y.2.purges c → ¬z.2.marks c) :
    b.count c log ≤ b.openers.length := by
  induction log generalizing b with
  | nil => exact Nat.le_refl _
  | cons x log ih =>
    have hrest (y z : ι × Exchange) (hyz : [y, z].Sublist log) := h y z (hyz.cons x)
    rw [count_cons]
    rcases after_cases c b x with ⟨-, hstand, hsame⟩ | ⟨-, hx, -, hsame⟩ | ⟨-, -, hsame⟩
    · have hlog := ih hstand hrest
      rw [hb] at hsame
      simp only [if_true] at hsame
      omega
    · rw [← hsame]
      refine count_le_of_no_marks fun z hz => ?_
      exact h x z (List.cons_sublist_cons.2 (List.singleton_sublist.2 hz)) hx
    · rw [hsame]
      exact ih hb hrest

/-- **A closure that is not split is opened at most once.** -/
theorem count_le_one {b : Ledger ι} {log : List (ι × Exchange)} (h : ¬Split c log) :
    b.count c log ≤ b.openers.length + 1 := by
  induction log generalizing b with
  | nil => exact Nat.le_succ _
  | cons x log ih =>
    have hrest : ¬Split c log := fun ⟨u, v, w, hsub, hmarks⟩ => h ⟨u, v, w, hsub.cons x, hmarks⟩
    have hlog := ih (b := b.after c x) hrest
    rw [count_cons]
    rcases after_cases c b x with ⟨hx, hstand, hsame⟩ | ⟨-, -, -, hsame⟩ | ⟨-, -, hsame⟩
    · have hlog' := count_le_of_standing (c := c) hstand fun y z (hyz : [y, z].Sublist log) hy hz =>
        h ⟨x, y, z, List.cons_sublist_cons.2 hyz, hx, hy, hz⟩
      split at hsame <;> omega
    · omega
    · rw [hsame] at hlog ⊢
      exact hlog

end Ledger

/-! ## What a mark and a deletion do to the marker -/

section Marker

variable {c : String} {s t : Scene} {x : Exchange}

/-- What an exchange does to the closing marker of a case. -/
theorem Meets.closing (h : Meets s x t) :
    x.purges c ∧ t.store.marker? c .closingMark = none ∨
      (∃ m g, x.marks c ∧ s.Fresh g ∧ m.guid = g ∧
        t.store.marker? c .closingMark = some ((s.store.marker? c .closingMark).getD m)) ∨
      ¬x.marks c ∧ ¬x.purges c ∧
        t.store.marker? c .closingMark = s.store.marker? c .closingMark := by
  obtain ⟨q, reply⟩ := x
  cases q with
  | store q =>
    cases reply with
    | error f =>
      refine .inr (.inr ⟨?_, ?_, by rw [Memory.marker?, h.error]; rfl⟩)
      · cases q <;> simp [Exchange.marks, Exchange.written?]
      · cases q <;> simp [Exchange.purges, Exchange.deleted?]
    | ok a =>
      cases q with
      | write r =>
        obtain ⟨hfresh, rfl⟩ := Meets.write (g := a) h
        by_cases hr : r.number = c ∧ r.updated = .closingMark
        · refine .inr (.inl ⟨⟨a, r⟩, a, ?_, hfresh, rfl, ?_⟩)
          · simp [Exchange.marks, Exchange.written?, CaseRecord.isMarked, hr]
          · exact (Memory.marker?_write _ _ r c _).trans (if_pos hr)
        · refine .inr (.inr ⟨?_, ?_, ?_⟩)
          · simpa [Exchange.marks, Exchange.written?, CaseRecord.isMarked] using hr
          · simp [Exchange.purges, Exchange.deleted?]
          · exact (Memory.marker?_write _ _ r c _).trans (if_neg hr)
      | delete d =>
        obtain rfl := h.delete
        by_cases hd : isMarkerOf d (markerKey c .closingMark)
        · exact .inl ⟨by simpa [Exchange.purges, Exchange.deleted?] using hd,
            by rw [Memory.marker?_delete, if_pos (Store.isMarkerOf_markerKey_iff.1 hd)]⟩
        · refine .inr (.inr ⟨by simp [Exchange.marks, Exchange.written?], ?_, ?_⟩)
          · simpa [Exchange.purges, Exchange.deleted?] using hd
          · rw [Memory.marker?_delete,
              if_neg fun h => hd (Store.isMarkerOf_markerKey_iff.2 h)]
      | _ =>
        refine .inr (.inr ⟨by simp [Exchange.marks, Exchange.written?],
          by simp [Exchange.purges, Exchange.deleted?], ?_⟩)
        cases h with
        | step g _ answer => cases answer; rfl
        | other apart => exact absurd rfl (apart _)
  | _ =>
    rw [h.same fun _ h => by cases h]
    exact .inr (.inr ⟨by simp [Exchange.marks, Exchange.written?],
      by simp [Exchange.purges, Exchange.deleted?], rfl⟩)

end Marker

/-! ## One watcher -/

section Balance

variable {c : String} {rel : Nat → Nat → Prop}

/-- The closing announcements of the case among some. -/
def closings (c : String) (es : List Event) : Nat := es.count (.closed c)

/-- The closing announcements that a write of the version may call for. -/
def allowance (u : Instant) : Nat := if u = .closingMark then 1 else 0

/-- Whether what each job and question has to announce is as its version allows. -/
def Stage.Tallies (rel : Nat → Nat → Prop) (c : String) : Stage → Prop
  | ready => True
  | fetched live => ∀ previous, ∀ j ∈ (Plan.of previous live).jobsOf c,
      rel (closings c j.events) (allowance j.record.updated)
  | due jobs => ∀ j ∈ jobs, rel (closings c j.events) (allowance j.record.updated)
  | asking u _ es rest => rel (closings c es) (allowance u) ∧
      ∀ j ∈ rest, rel (closings c j.events) (allowance j.record.updated)
  | telling _ rest => ∀ j ∈ rest, rel (closings c j.events) (allowance j.record.updated)

theorem tallies_tell {es : List Event} {rest : List Job} :
    (Stage.tell es rest).Tallies rel c ↔
      ∀ j ∈ rest, rel (closings c j.events) (allowance j.record.updated) := by
  cases es <;> exact Iff.rfl

/-- Only a closure has a closing announcement, and only one. -/
theorem closings_of_mem_jobsOf {previous : List Snapshot} {live : List CaseRecord} {j : Job}
    (hj : j ∈ (Plan.of previous live).jobsOf c) :
    closings c j.events ≤ allowance j.record.updated ∧
      ((∀ r ∈ live, r.isActive → r.number = c → r.updated ≠ .closingMark) →
        closings c j.events = allowance j.record.updated) := by
  cases Plan.callsFor_of_mem_jobsOf hj with
  | @closing s stored ofCase =>
    have hone : closings c (Job.closing s).events = 1 := by simp [closings, Job.closing, ofCase]
    rw [hone]
    exact ⟨Nat.le_refl 1, fun _ => rfl⟩
  | updating stored fetched active ofCase =>
    rw [closings, List.count_eq_zero.2 (Plan.closed_notMem_updating _ c)]
    exact ⟨Nat.zero_le _, fun h => (if_neg (h _ fetched active ofCase)).symm⟩
  | creating fetched active ofCase =>
    exact ⟨Nat.zero_le _, fun h => (if_neg (h _ fetched active ofCase)).symm⟩

/-- Moves keep to the tallies. -/
theorem Moves.tallies {st st' : Stage} {x : Exchange} (hmove : Moves c st x st')
    (hfetch : ∀ live, x.fetched? = some live → (Stage.fetched live).Tallies rel c)
    (h : st.Tallies rel c) : st'.Tallies rel c := by
  cases hmove with
  | fetch => exact hfetch _ rfl
  | noFetch => exact fun j hj => nomatch hj
  | list => exact h _
  | fault => exact fun j hj => nomatch hj
  | keep => exact fun k hk => h k (List.mem_cons_of_mem _ hk)
  | claim => exact ⟨h _ List.mem_cons_self, fun k hk => h k (List.mem_cons_of_mem _ hk)⟩
  | first => exact tallies_tell.2 h.2
  | second => exact h.2
  | announce => exact tallies_tell.2 h
  | delete => exact h
  | apart => exact h

/-- The closing announcements that a watcher will make, given the closing marker of the case. -/
def Stage.owes (c : String) (marker : Option Marker) : Stage → Nat
  | asking u g es _ =>
    if u = .closingMark ∧ marker.map (·.guid) = some g then closings c es else 0
  | telling es _ => closings c es
  | _ => 0

theorem owes_tell {marker : Option Marker} {es : List Event} {rest : List Job} :
    (Stage.tell es rest).owes c marker = closings c es := by
  cases es <;> rfl

theorem Stage.Rests.owes {st : Stage} (h : st.Rests) (marker : Option Marker) :
    st.owes c marker = 0 := by
  cases st with
  | asking => exact h.elim
  | telling => exact h.elim
  | _ => rfl

/-- The closing announcements of the case in an exchange. -/
def Exchange.closes (c : String) (x : Exchange) : Nat := closings c x.event?.toList

/-- Whether an exchange opens a closure of the case. -/
def Exchange.opens (c : String) (marker : Option Marker) (x : Exchange) : Nat :=
  if x.marks c ∧ marker = none then 1 else 0

theorem opens_of_not_marks {marker : Option Marker} {x : Exchange} (h : ¬x.marks c) :
    x.opens c marker = 0 := if_neg fun hx => h hx.1

theorem not_marks_write {r : CaseRecord} {g : Guid} (h : r.updated ≠ .closingMark) :
    ¬(Exchange.mk (.store (.write r)) (.ok g)).marks c := by
  simp [Exchange.marks, Exchange.written?, CaseRecord.isMarked, h]

theorem Exchange.Apart.closes {x : Exchange} (h : x.Apart c) : x.closes c = 0 := by
  unfold Exchange.closes
  cases he : x.event? with
  | none => rfl
  | some e =>
    have hne : e ≠ .closed c := fun h' => h.caseNumber_ne he (congrArg Event.caseNumber h')
    simp [closings, hne]

theorem Exchange.Apart.not_marks {x : Exchange} (h : x.Apart c) : ¬x.marks c := by
  cases h with
  | write other => simp [Exchange.marks, Exchange.written?, other]
  | firstWriter => exact Bool.false_ne_true
  | announce => exact Bool.false_ne_true
  | quiet quiet => cases quiet <;> exact Bool.false_ne_true

/-- What a question owes once its marker is known to be another's. -/
theorem owes_asking_of_ne {u : Instant} {g : Guid} {es : List Event} {rest : List Job}
    {marker : Option Marker} (h : u = .closingMark → ∀ m, marker = some m → m.guid ≠ g) :
    (Stage.asking u g es rest).owes c marker = 0 := by
  refine if_neg fun ⟨hu, hg⟩ => ?_
  obtain ⟨m, hm, hg⟩ := Option.map_eq_some_iff.1 hg
  exact h hu m hm hg

/-- A write of a job that is to be announced owes its announcements if it opens a closure. -/
theorem owes_claim {j : Job} {rest : List Job} {g : Guid} {s t : Scene} (case : j.number = c)
    (hmeets : Meets s ⟨.store (.write j.record), .ok g⟩ t) :
    (Stage.asking j.record.updated g j.events rest).owes c (t.store.marker? c .closingMark) =
      closings c j.events *
        (Exchange.mk (.store (.write j.record)) (.ok g)).opens c
          (s.store.marker? c .closingMark) := by
  obtain ⟨hfresh, rfl⟩ := hmeets.write
  have hmarker := Memory.marker?_write s.store g j.record c .closingMark
  by_cases hu : j.record.updated = .closingMark
  · have hmarks : (Exchange.mk (.store (.write j.record)) (.ok g)).marks c := by
      have hnumber : j.record.number = c := case
      simp [Exchange.marks, Exchange.written?, CaseRecord.isMarked, hu, hnumber]
    rw [if_pos ⟨case, hu⟩] at hmarker
    rw [hmarker]
    cases hm : s.store.marker? c .closingMark with
    | none => simp [Stage.owes, Exchange.opens, hu, hmarks]
    | some m =>
      have hother : m.guid ≠ g := hfresh.notMarked c _ m hm
      simp [Stage.owes, Exchange.opens, hother]
  · rw [opens_of_not_marks (not_marks_write hu), Nat.mul_zero]
    exact if_neg fun h => hu h.1

/-- An exchange that neither announces a closure nor opens one, and changes nothing that is owed. -/
theorem balance_of_still {st st' : Stage} {x : Exchange} {m m' : Option Marker}
    (hcloses : x.closes c = 0) (hmarks : ¬x.marks c) (howes : st'.owes c m' = st.owes c m) :
    x.closes c + st'.owes c m' ≤ st.owes c m + x.opens c m ∧
      (x.succeeds → st.Tallies (· = ·) c →
        x.closes c + st'.owes c m' = st.owes c m + x.opens c m) := by
  rw [hcloses, opens_of_not_marks hmarks, howes, Nat.zero_add, Nat.add_zero]
  exact ⟨Nat.le_refl _, fun _ _ => rfl⟩

/-- **What a watcher announces and still owes is covered by what it opens**; without failures, and with
every mark a closure, it is that. -/
theorem Moves.balance {st st' : Stage} {x : Exchange} {s t : Scene} (hmove : Moves c st x st')
    (hmeets : Meets s x t) (hsound : st.Tallies (· ≤ ·) c) :
    x.closes c + st'.owes c (t.store.marker? c .closingMark) ≤
        st.owes c (s.store.marker? c .closingMark) +
          x.opens c (s.store.marker? c .closingMark) ∧
      (x.succeeds → st.Tallies (· = ·) c →
        x.closes c + st'.owes c (t.store.marker? c .closingMark) =
          st.owes c (s.store.marker? c .closingMark) +
            x.opens c (s.store.marker? c .closingMark)) := by
  cases hmove with
  | fetch rests => exact balance_of_still rfl Bool.false_ne_true (rests.owes _).symm
  | noFetch rests => exact balance_of_still rfl Bool.false_ne_true (rests.owes _).symm
  | list => exact balance_of_still rfl Bool.false_ne_true rfl
  | fault =>
    refine ⟨?_, fun h => nomatch h⟩
    simp [Stage.owes, Exchange.closes, closings, Exchange.event?]
  | @keep j rest g case silent =>
    refine ⟨Nat.zero_le _, fun _ hexact => ?_⟩
    have hnone : allowance j.record.updated = 0 := by
      rw [← hexact j List.mem_cons_self, silent]
      rfl
    refine (balance_of_still rfl ?_ rfl).2 rfl hexact
    intro hmarks
    have hu : j.record.number = c ∧ j.record.updated = .closingMark := by
      simpa [Exchange.marks, Exchange.written?, CaseRecord.isMarked] using hmarks
    rw [hu.2] at hnone
    cases hnone
  | @claim j rest g case loud =>
    have hbound := hsound j List.mem_cons_self
    have hallow : allowance j.record.updated ≤ 1 := by
      unfold allowance
      split <;> omega
    rw [owes_claim case hmeets]
    have hcloses : (Exchange.mk (.store (.write j.record)) (.ok g)).closes c = 0 := rfl
    have howes : (Stage.due (j :: rest)).owes c (s.store.marker? c .closingMark) = 0 := rfl
    rw [hcloses, howes, Nat.zero_add, Nat.zero_add]
    refine ⟨?_, fun _ hexact => ?_⟩
    · exact Nat.le_trans (Nat.mul_le_mul_right _ (Nat.le_trans hbound hallow))
        (Nat.le_of_eq (Nat.one_mul _))
    · by_cases hu : j.record.updated = .closingMark
      · rw [hexact j List.mem_cons_self, allowance, if_pos hu, Nat.one_mul]
      · rw [opens_of_not_marks (not_marks_write hu), Nat.mul_zero]
  | @first u m es rest =>
    obtain ⟨hm, rfl⟩ := hmeets.firstWriter
    refine balance_of_still rfl Bool.false_ne_true ?_
    rw [owes_tell]
    by_cases hu : u = .closingMark
    · subst hu
      simp [Stage.owes, ← hm]
    · have hnone : closings c es = 0 := by simpa [allowance, hu] using hsound.1
      simp [Stage.owes, hu, hnone]
  | second other =>
    obtain ⟨hm, rfl⟩ := hmeets.firstWriter
    refine balance_of_still rfl Bool.false_ne_true (owes_asking_of_ne fun hu a ha => ?_).symm
    subst hu
    exact other a (hm.trans ha)
  | @announce e es rest reply =>
    have hmarks : ¬(Exchange.mk (.announce e) reply).marks c := Bool.false_ne_true
    have hsplit : (Exchange.mk (.announce e) reply).closes c + closings c es =
        (Stage.telling (e :: es) rest).owes c (s.store.marker? c .closingMark) := by
      rw [Exchange.closes, closings, closings, ← List.count_append]
      rfl
    rw [opens_of_not_marks hmarks, owes_tell, hsplit, Nat.add_zero]
    exact ⟨Nat.le_refl _, fun _ _ => rfl⟩
  | delete => exact balance_of_still rfl Bool.false_ne_true rfl
  | apart apart => exact balance_of_still apart.closes apart.not_marks rfl

/-- What another watcher owes can only be lost, and only by a deletion. -/
theorem owes_other {st : Stage} {s t : Scene} {x : Exchange} (hmeets : Meets s x t)
    (hminted : ∀ u g es rest, st = .asking u g es rest → g ∈ s.minted) :
    st.owes c (t.store.marker? c .closingMark) ≤ st.owes c (s.store.marker? c .closingMark) ∧
      (¬x.purges c → st.owes c (t.store.marker? c .closingMark) =
        st.owes c (s.store.marker? c .closingMark)) := by
  cases st with
  | asking u g es rest =>
    rcases hmeets.closing (c := c) with ⟨hp, hm⟩ | ⟨m, h, -, hfresh, rfl, hm⟩ | ⟨-, -, hm⟩
    · refine ⟨?_, fun hx => absurd hp hx⟩
      rw [hm, owes_asking_of_ne fun _ m hm => by cases hm]
      exact Nat.zero_le _
    · suffices hsame : (Stage.asking u g es rest).owes c (t.store.marker? c .closingMark) =
          (Stage.asking u g es rest).owes c (s.store.marker? c .closingMark) by
        exact ⟨Nat.le_of_eq hsame, fun _ => hsame⟩
      rw [hm]
      cases hs : s.store.marker? c .closingMark with
      | none =>
        have hne : m.guid ≠ g := fun h => hfresh.notMinted (h ▸ hminted u g es rest rfl)
        have hbefore : (Stage.asking u g es rest).owes c none = 0 :=
          owes_asking_of_ne fun _ a ha => by cases ha
        have hafter : (Stage.asking u g es rest).owes c (some m) = 0 :=
          owes_asking_of_ne fun _ a ha => by cases ha; exact hne
        exact hafter.trans hbefore.symm
      | some a => rfl
    · rw [hm]
      exact ⟨Nat.le_refl _, fun _ => rfl⟩
  | _ => exact ⟨Nat.le_refl _, fun _ => rfl⟩

end Balance

/-! ## Several watchers -/

section Run

variable {c : String}

/-- Those who announce the case as closed, in order. -/
def closers (c : String) (log : List (ι × Exchange)) : List ι :=
  ((announced log).filter fun x => decide (x.2 = .closed c)).map Prod.fst

/-- The ledger of a run. -/
def ledger (c : String) (standing : Bool) (log : List (ι × Exchange)) : Ledger ι :=
  log.foldl (Ledger.after c) ⟨standing, []⟩

/-- No deletion comes between a mark of the case and the next step of its watcher. -/
def Timely [DecidableEq ι] (c : String) : List (ι × Exchange) → Prop
  | [] => True
  | x :: rest =>
    (x.2.marks c → ∀ y ∈ rest.takeWhile fun y => decide (y.1 ≠ x.1), ¬y.2.purges c) ∧
      Timely c rest

instance decidableTimely [DecidableEq ι] (c : String) :
    (log : List (ι × Exchange)) → Decidable (Timely c log)
  | [] => isTrue trivial
  | _ :: rest =>
    have := decidableTimely c rest
    inferInstanceAs (Decidable ((_ → _) ∧ _))

/-- A token that a watcher asks about has been given out. -/
theorem Moves.minted {st st' : Stage} {x : Exchange} {s t : Scene} (hmove : Moves c st x st')
    (hmeets : Meets s x t) {u : Instant} {g : Guid} {es : List Event} {rest : List Job}
    (h : st' = .asking u g es rest) : g ∈ t.minted := by
  cases hmove with
  | claim =>
    obtain ⟨-, rfl⟩ := hmeets.write
    cases h
    exact List.mem_cons_self
  | first => rename_i es' _; cases es' <;> cases h
  | announce => rename_i es' _ _; cases es' <;> cases h
  | _ => cases h

theorem Meets.standing {s t : Scene} {x : Exchange} (hmeets : Meets s x t) {b : Ledger ι}
    (hb : b.standing = (s.store.marker? c .closingMark).isSome) (i : ι) :
    (b.after c (i, x)).standing = (t.store.marker? c .closingMark).isSome := by
  unfold Ledger.after
  rcases hmeets.closing (c := c) with ⟨hp, hm⟩ | ⟨m, g, hx, -, -, hm⟩ | ⟨hx, hp, hm⟩
  · have hx : ¬x.marks c := fun hx => Exchange.not_purges hx hp
    simp [hx, hp, hm]
  · simp [hx, hm]
  · simp [hx, hp, hm, hb]

variable [DecidableEq ι]

theorem Timely.not_purges {front mid back : List (ι × Exchange)} {x y : ι × Exchange}
    (h : Timely c (front ++ x :: (mid ++ y :: back))) (hx : x.2.marks c)
    (hmid : ∀ z ∈ mid, z.1 ≠ x.1) (hy : y.1 ≠ x.1) : ¬y.2.purges c := by
  induction front with
  | nil =>
    refine h.1 hx y ?_
    rw [List.takeWhile_append_of_pos fun z hz => by simpa using hmid z hz]
    simp [hy]
  | cons z front ih => exact ih h.2

theorem count_closers_append (log : List (ι × Exchange)) (i k : ι) (x : Exchange) :
    (closers c (log ++ [(i, x)])).count k =
      (closers c log).count k + if i = k then x.closes c else 0 := by
  have hone : (closers c [(i, x)]).count k = if i = k then x.closes c else 0 := by
    unfold closers Exchange.closes closings
    rw [announced_singleton]
    cases x.event? with
    | none => simp
    | some e =>
      by_cases he : e = .closed c
      · by_cases hk : i = k <;> simp [he, hk]
      · simp [he]
  have hsplit : closers c (log ++ [(i, x)]) = closers c log ++ closers c [(i, x)] := by
    simp [closers]
  rw [hsplit, List.count_append, hone]

theorem count_openers_after {b : Ledger ι} {marker : Option Marker}
    (hb : b.standing = marker.isSome) (i k : ι) (x : Exchange) :
    (b.after c (i, x)).openers.count k =
      b.openers.count k + if i = k then x.opens c marker else 0 := by
  unfold Ledger.after Exchange.opens
  by_cases hm : x.marks c
  · cases marker with
    | none => by_cases hk : i = k <;> simp [hm, hb, hk]
    | some m => simp [hm, hb]
  · by_cases hp : x.purges c <;> simp [hm, hp]

/-- Every closing announcement made or owed is that of an opener. -/
structure Balanced (c : String) (s : Scene) (stages : ι → Stage) (b : Ledger ι) (made : List ι) :
    Prop where
  standing : b.standing = (s.store.marker? c .closingMark).isSome
  minted : ∀ i u g es rest, stages i = .asking u g es rest → g ∈ s.minted
  sound : ∀ i, (stages i).Tallies (· ≤ ·) c
  covered : ∀ i, made.count i + (stages i).owes c (s.store.marker? c .closingMark) ≤
    b.openers.count i

/-- **A step keeps the balance.** -/
theorem Balanced.step {s t : Scene} {stages : ι → Stage} {b : Ledger ι}
    {log : List (ι × Exchange)} {i : ι} {x : Exchange} {st : Stage}
    (h : Balanced c s stages b (closers c log)) (hmove : Moves c (stages i) x st)
    (hmeets : Meets s x t) :
    Balanced c t (Function.update stages i st) (b.after c (i, x)) (closers c (log ++ [(i, x)])) where
  standing := hmeets.standing h.standing i
  minted := forall_update (p := fun _ st => ∀ u g es rest, st = .asking u g es rest → g ∈ t.minted)
    (fun _ _ _ _ hst => hmove.minted hmeets hst)
    fun k _ u g es rest hst => hmeets.minted (h.minted k u g es rest hst)
  sound := forall_update
    (hmove.tallies (fun _ _ _ _ hj => (closings_of_mem_jobsOf hj).1) (h.sound i))
    fun k _ => h.sound k
  covered := by
    intro k
    rw [count_closers_append, count_openers_after h.standing]
    have hk := h.covered k
    by_cases hi : i = k
    · subst hi
      have hbalance := (hmove.balance hmeets (h.sound i)).1
      simp only [Function.update_self, if_true]
      omega
    · have hother := (owes_other (c := c) hmeets (h.minted k)).1
      rw [Function.update_of_ne (Ne.symm hi), if_neg hi, if_neg hi]
      omega

/-- Every opener has announced the closure or owes it, and who asks about a mark has made it last. -/
structure Exact (c : String) (s : Scene) (stages : ι → Stage) (b : Ledger ι)
    (log : List (ι × Exchange)) : Prop where
  exact : ∀ i, (stages i).Tallies (· = ·) c
  asked : ∀ i g es rest, stages i = .asking .closingMark g es rest →
    ∃ front x mid, log = front ++ (i, x) :: mid ∧ x.marks c ∧ ∀ z ∈ mid, z.1 ≠ i
  settled : ∀ i, (closers c log).count i + (stages i).owes c (s.store.marker? c .closingMark) =
    b.openers.count i

omit [DecidableEq ι] in
/-- Only who asks about a mark depends on its marker. -/
theorem owes_congr {st : Stage} (h : ∀ g es rest, st ≠ .asking .closingMark g es rest)
    (m m' : Option Marker) : st.owes c m = st.owes c m' := by
  cases st with
  | asking u g es rest =>
    have hu : u ≠ .closingMark := fun hu => h g es rest (hu ▸ rfl)
    exact (if_neg fun h => hu h.1).trans (if_neg fun h => hu h.1).symm
  | _ => rfl

omit [DecidableEq ι] in
/-- Who asks about a mark after a move has just made it. -/
theorem Moves.marks {st : Stage} {x : Exchange} {g : Guid} {es : List Event} {rest : List Job}
    {st' : Stage} (hmove : Moves c st x st') (h : st' = .asking .closingMark g es rest) :
    x.marks c := by
  cases hmove with
  | @claim j rest g case loud =>
    have hnumber : j.record.number = c := case
    have hu : j.record.updated = .closingMark := (Stage.asking.inj h).1
    simp [Exchange.marks, Exchange.written?, CaseRecord.isMarked, hu, hnumber]
  | first => rename_i es' _; cases es' <;> cases h
  | announce => rename_i es' _ _; cases es' <;> cases h
  | _ => cases h

/-- A step of a run without failures and without untimely deletions keeps the exact balance. -/
theorem Exact.step {s t : Scene} {stages : ι → Stage} {b : Ledger ι}
    {log back : List (ι × Exchange)} {i : ι} {x : Exchange} {st : Stage}
    (h : Exact c s stages b log) (hbalanced : Balanced c s stages b (closers c log))
    (hmove : Moves c (stages i) x st) (hmeets : Meets s x t) (hx : x.succeeds)
    (htimely : Timely c (log ++ (i, x) :: back))
    (hfetch : ∀ live, x.fetched? = some live →
      ∀ r ∈ live, r.isActive → r.number = c → r.updated ≠ .closingMark) :
    Exact c t (Function.update stages i st) (b.after c (i, x)) (log ++ [(i, x)]) where
  exact := forall_update
    (hmove.tallies (fun live hl _ _ hj => (closings_of_mem_jobsOf hj).2 (hfetch live hl))
      (h.exact i))
    fun k _ => h.exact k
  asked := by
    refine forall_update (p := fun k st => ∀ g es rest, st = .asking .closingMark g es rest →
      ∃ front y mid, log ++ [(i, x)] = front ++ (k, y) :: mid ∧ y.marks c ∧ ∀ z ∈ mid, z.1 ≠ k)
      (fun g es rest hst => ?_) fun k hk g es rest hst => ?_
    · exact ⟨log, x, [], rfl, hmove.marks hst, fun z hz => nomatch hz⟩
    · obtain ⟨front, y, mid, hlog, hy, hmid⟩ := h.asked k g es rest hst
      refine ⟨front, y, mid ++ [(i, x)], by rw [hlog]; simp, hy, fun z hz => ?_⟩
      rcases List.mem_append.1 hz with hz | hz
      · exact hmid z hz
      · rw [List.mem_singleton.1 hz]
        exact Ne.symm hk
  settled := by
    intro k
    rw [count_closers_append, count_openers_after hbalanced.standing]
    have hk := h.settled k
    by_cases hi : i = k
    · subst hi
      have hbalance := (hmove.balance hmeets (hbalanced.sound i)).2 hx (h.exact i)
      simp only [Function.update_self, if_true]
      omega
    · rw [Function.update_of_ne (Ne.symm hi), if_neg hi, if_neg hi]
      suffices hsame : (stages k).owes c (t.store.marker? c .closingMark) =
          (stages k).owes c (s.store.marker? c .closingMark) by omega
      by_cases hp : x.purges c
      · refine owes_congr (fun g es rest hst => ?_) _ _
        obtain ⟨front, y, mid, rfl, hy, hmid⟩ := h.asked k g es rest hst
        have hlog : (front ++ (k, y) :: mid) ++ (i, x) :: back =
            front ++ (k, y) :: (mid ++ (i, x) :: back) := by simp
        rw [hlog] at htimely
        exact htimely.not_purges hy hmid hi hp
      · exact (owes_other hmeets (hbalanced.minted k)).2 hp

variable {watchers : ι → Watcher} {turns : ι → List Turn} {scene : Scene}
  {log : List (ι × Exchange)} {last : Crew ι Watcher}

theorem balanced_start :
    Balanced c scene (fun _ : ι => .due []) (ledger c (scene.store.marker? c .closingMark).isSome [])
      (closers c []) where
  standing := rfl
  minted _ _ _ _ _ h := nomatch h
  sound _ _ h := nomatch h
  covered _ := Nat.le_refl _

theorem exact_start :
    Exact c scene (fun _ : ι => .due []) (ledger c (scene.store.marker? c .closingMark).isSome [])
      [] where
  exact _ _ h := nomatch h
  asked _ _ _ _ h := nomatch h
  settled _ := rfl

/-- **The exact number of closing announcements.** In every run at most one watcher for each opening
announces; in a run that comes to its end without a failure and without an untimely deletion, and where
no open record stands at the closing mark, exactly one does. -/
theorem count_closers (run : (party scene turns watchers).Run log last) :
    (∀ i, (closers c log).count i ≤
      (ledger c (scene.store.marker? c .closingMark).isSome log).openers.count i) ∧
    (last.Ended → (∀ x ∈ log, x.2.succeeds) → Timely c log →
      (∀ x ∈ log, ∀ live, x.2.fetched? = some live →
        ∀ r ∈ live, r.isActive → r.number = c → r.updated ≠ .closingMark) →
      ∀ i, (closers c log).count i =
        (ledger c (scene.store.marker? c .closingMark).isSome log).openers.count i) := by
  obtain ⟨stages, ⟨hbalanced, hexact⟩, hfollows⟩ := run.stages
    (fun s stages front =>
      let b := ledger c (scene.store.marker? c .closingMark).isSome front
      Balanced c s stages b (closers c front) ∧
        ((∀ x ∈ log, x.2.succeeds) → Timely c log →
          (∀ x ∈ log, ∀ live, x.2.fetched? = some live →
            ∀ r ∈ live, r.isActive → r.number = c → r.updated ≠ .closingMark) →
          Exact c s stages b front))
    (fun i => follows_takeTurns (turns i) (watchers i))
    ⟨balanced_start, fun _ _ _ => exact_start⟩
    (fun {s t stages front back i x st} hlog h hmove hmeets => by
      have hledger : ledger c (scene.store.marker? c .closingMark).isSome (front ++ [(i, x)]) =
          (ledger c (scene.store.marker? c .closingMark).isSome front).after c (i, x) := by
        simp [ledger]
      have hmem : (i, x) ∈ log := hlog ▸ List.mem_append_right _ List.mem_cons_self
      rw [hledger]
      exact ⟨h.1.step hmove hmeets, fun hok htimely hfetch =>
        (h.2 hok htimely hfetch).step h.1 hmove hmeets (hok _ hmem) (hlog ▸ htimely)
          (hfetch _ hmem)⟩)
  refine ⟨fun i => ?_, fun hended hok htimely hfetch i => ?_⟩
  · exact Nat.le_trans (Nat.le_add_right _ _) (hbalanced.covered i)
  · obtain ⟨-, hst⟩ := hended.stage hfollows i
    have hsettled := (hexact hok htimely hfetch).settled i
    rwa [hst] at hsettled

omit [DecidableEq ι] in
theorem length_openers (standing : Bool) (log : List (ι × Exchange)) :
    (ledger c standing log).openers.length = Ledger.count c ⟨standing, []⟩ log := rfl

/-- **A case is announced as closed at most once if no deletion splits its marks**, and in a run that
comes to its end without a failure and without an untimely deletion only then. -/
theorem closed_at_most_once_iff (run : (party scene turns watchers).Run log last) :
    (¬Split c log → (closers c log).length ≤ 1) ∧
      (last.Ended → (∀ x ∈ log, x.2.succeeds) → Timely c log →
        scene.store.marker? c .closingMark = none →
        (∀ x ∈ log, ∀ live, x.2.fetched? = some live →
          ∀ r ∈ live, r.isActive → r.number = c → r.updated ≠ .closingMark) →
        ((closers c log).length ≤ 1 ↔ ¬Split c log)) := by
  obtain ⟨hle, heq⟩ := count_closers (c := c) run
  have honce (h : ¬Split c log) : (closers c log).length ≤ 1 := by
    have hsub := (List.subperm_ext_iff.2 fun i _ => hle i).length_le
    have hone := Ledger.count_le_one (c := c)
      (b := ⟨(scene.store.marker? c .closingMark).isSome, []⟩) h
    rw [← length_openers] at hone
    exact Nat.le_trans hsub hone
  refine ⟨honce, fun hended hok htimely hnone hfetch => ⟨fun hlen hsplit => ?_, honce⟩⟩
  have hperm := List.perm_iff_count.2 (heq hended hok htimely hfetch)
  have htwo := Ledger.two_le_count (c := c) (b := ⟨false, []⟩) rfl hsplit
  rw [← length_openers] at htwo
  rw [hperm.length_eq, hnone] at hlen
  have hle : 2 ≤ 1 := Nat.le_trans htwo hlen
  exact absurd hle (by decide)

end Run

/-! ## Two watchers and a case that is gone -/

/-- A store with one case. -/
def oneStored : Scene := ⟨Memory.empty.write (.ofNat 100) (sample "a" 1 2), []⟩

/-- Two watchers that run a cycle and flush. -/
def pair : Crew Bool Watcher := party oneStored (fun _ => [.cycle, .flush]) fun _ => .new false

/-- Both list; both mark the case before either deletes it. -/
def punctual : List (Bool × List CaseRecord × Guid) :=
  turnsOver (fun _ => []) [true, true, false, false, true, false, true, false, true, true, false]

/-- Both list; one marks, announces and deletes the case before the other marks it. -/
def late : List (Bool × List CaseRecord × Guid) :=
  turnsOver (fun _ => []) [true, true, false, false, true, true, true, true, false, false, false, false]

theorem closed_once_punctual :
    closers "a" (pair.played punctual).1 = [true] ∧ ¬Split "a" (pair.played punctual).1 := by
  have hrun : pair.Run (pair.played punctual).1 (pair.played punctual).2 :=
    Crew.run_played (by decide +kernel)
  have hended : (pair.played punctual).2.Ended := fun i => by cases i <;> exact ⟨_, rfl⟩
  have hempty : ∀ x ∈ (pair.played punctual).1, x.2.fetched?.getD [] = [] := by decide +kernel
  have hfetch (x : Bool × Exchange) (hx : x ∈ (pair.played punctual).1) (live : List CaseRecord)
      (hl : x.2.fetched? = some live) (r : CaseRecord) (hr : r ∈ live) : r.isActive →
      r.number = "a" → r.updated ≠ .closingMark := by
    have hnone := hempty x hx
    rw [hl, Option.getD_some] at hnone
    rw [hnone] at hr
    cases hr
  have hone : closers "a" (pair.played punctual).1 = [true] := by decide +kernel
  refine ⟨hone, ?_⟩
  exact ((closed_at_most_once_iff hrun).2 hended (by decide +kernel) (by decide +kernel)
    (by decide +kernel) hfetch).1 (by rw [hone]; decide)

/-- **A watcher that marks late announces again**: the case is stored in one version and gone from both
fetches, and still announced as closed twice. -/
theorem closed_twice_late :
    pair.Run (pair.played late).1 (pair.played late).2 ∧
      (pair.played late).1.filterMap (·.2.fetched?) = [[], []] ∧
      closers "a" (pair.played late).1 = [true, false] :=
  ⟨Crew.run_played (by decide +kernel), by decide +kernel, by decide +kernel⟩

end CaseHerald.Watch
