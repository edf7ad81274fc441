import CaseHerald.Proofs.Octets
import CaseHerald.Proofs.Written
import CaseHerald.Plan
import CaseHerald.Store.Memory

/-!
# The store in memory, case by case

The watchers meet the store one case at a time, through the snapshot of a case and the marker of a
version. `snapshot?_write`, `marker?_write`, `snapshot?_delete` and `marker?_delete` say what a step
does to these views; `markerKey_inj` keeps the markers of different versions apart.
-/
namespace CaseHerald.Store

open Text (octets)

/-! ## Keys of markers -/

theorem nul_notMem_writeFull (t : Timestamp) : '\x00' ∉ t.writeFull := by
  have hpad (width n : Nat) : '\x00' ∉ Text.padded width n := fun h => by
    exact absurd (isDigit_of_mem_padded h) (by decide)
  have hsign (y : Int) : '\x00' ∉ Timestamp.yearSign y := by
    unfold Timestamp.yearSign; split <;> (try split) <;> decide
  simp [Timestamp.writeFull, Timestamp.secondsText, Timestamp.yearText_eq, hpad, hsign]

/-- **The key of a marker tells the case and the instant of the version.** -/
theorem markerName_eq_iff {c d : String} {t u : Timestamp} :
    markerName c t = markerName d u ↔ c = d ∧ t.carry = u.carry := by
  rw [← Timestamp.writeFull_eq_iff]
  constructor
  · intro h
    have hlist := congrArg String.toList h
    simp only [markerName, String.toList_append, String.toList_ofList] at hlist
    obtain ⟨hnumber, htime⟩ :=
      append_last_inj (nul_notMem_writeFull t) (nul_notMem_writeFull u) hlist
    exact ⟨String.toList_inj.1 hnumber, htime⟩
  · rintro ⟨rfl, htime⟩
    rw [markerName, htime, markerName]

theorem markerKey_inj {c d : String} {t u : Instant} :
    markerKey c t = markerKey d u ↔ c = d ∧ t = u := by
  rw [markerKey, markerKey, octets_inj, markerName_eq_iff, Timestamp.carry_coe, Timestamp.carry_coe]

theorem octets_markerName (c : String) (t : Timestamp) :
    octets (markerName c t) = markerFront c ++ t.writeFull.flatMap String.utf8EncodeChar := by
  simp [markerName, markerFront, octets]
  rfl

theorem markerKey_eq (c : String) (t : Instant) :
    markerKey c t = markerFront c ++ t.writeFull.flatMap String.utf8EncodeChar :=
  octets_markerName c t

/-- Whether the number goes on after another one with a NUL character. -/
def Prolongs (number front : String) : Prop := front.toList ++ ['\x00'] <+: number.toList

instance (number front : String) : Decidable (Prolongs number front) :=
  inferInstanceAs (Decidable (_ <+: _))

theorem not_prolongs {c d : String} (h : '\x00' ∉ d.toList) : ¬Prolongs d c :=
  fun hbegins => h (hbegins.subset (List.mem_append_right _ List.mem_cons_self))

/-- **Whose markers have keys that begin like those of a case**: the case itself, and those whose
numbers prolong its own. -/
theorem isMarkerOf_markerKey_iff {c d : String} {t : Instant} :
    isMarkerOf c (markerKey d t) ↔ c = d ∨ Prolongs d c := by
  have hfront : markerFront c = octets (String.ofList (c.toList ++ ['\x00'])) := by
    rw [markerFront, octets, octets, String.toList_ofList, List.flatMap_append]
    rfl
  -- the time has no NUL character, so that the last one of the key is that before the time
  rw [isMarkerOf, List.isPrefixOf_iff_prefix, hfront, markerKey, Text.octets_prefix_iff, markerName,
    String.toList_ofList, String.toList_append, String.toList_ofList,
    append_last_prefix_iff (nul_notMem_writeFull t), String.toList_inj, Prolongs]

namespace Memory

/-! ## Views -/

/-- The snapshot of a case. -/
def snapshot? (s : Memory) (number : String) : Option Snapshot := s.snapshots.find? (octets number)

/-- The marker of a version of a case. -/
def marker? (s : Memory) (number : String) (updated : Instant) : Option Marker :=
  s.markers.find? (markerKey number updated)

/-- The last record stored of a case. -/
def record? (s : Memory) (number : String) : Option CaseRecord := (s.snapshot? number).map (·.record)

theorem snapshot?_write (s : Memory) (g : Guid) (r : CaseRecord) (c : String) :
    (s.write g r).snapshot? c = if r.number = c then some ⟨r, g⟩ else s.snapshot? c := by
  simp only [snapshot?, write, Table.find?_insert, octets_inj]

theorem record?_write (s : Memory) (g : Guid) (r : CaseRecord) (c : String) :
    (s.write g r).record? c = if r.number = c then some r else s.record? c := by
  rw [record?, snapshot?_write]
  split <;> rfl

/-- A write sets the marker of its version, unless it is set. -/
theorem marker?_write (s : Memory) (g : Guid) (r : CaseRecord) (c : String) (t : Instant) :
    (s.write g r).marker? c t =
      if r.number = c ∧ r.updated = t then some ((s.marker? c t).getD ⟨g, r⟩)
      else s.marker? c t := by
  simp only [marker?, write]
  by_cases hset : s.markers.contains (markerKey r.number r.updated)
  · rw [if_pos hset]
    split
    next hsame =>
      obtain ⟨rfl, rfl⟩ := hsame
      obtain ⟨m, hm⟩ := Option.isSome_iff_exists.1 hset
      simp [hm]
    next => rfl
  · rw [if_neg hset, Table.find?_insert]
    simp only [markerKey_inj]
    split
    next hsame =>
      obtain ⟨rfl, rfl⟩ := hsame
      simp only [Table.contains, Option.not_isSome_iff_eq_none] at hset
      simp [hset]
    next => rfl

theorem snapshot?_delete (s : Memory) (c d : String) :
    (s.delete c).snapshot? d = if c = d then none else s.snapshot? d := by
  simp only [snapshot?, delete, Table.find?_erase, octets_inj]

/-- A deletion removes the markers of the case, and of those whose numbers prolong its own. -/
theorem marker?_delete (s : Memory) (c d : String) (t : Instant) :
    (s.delete c).marker? d t = if c = d ∨ Prolongs d c then none else s.marker? d t := by
  simp only [marker?, delete, Table.find?_keep, ← isMarkerOf_markerKey_iff (t := t)]
  cases isMarkerOf c (markerKey d t) <;> simp

theorem marker?_delete_self (s : Memory) (c : String) (t : Instant) :
    (s.delete c).marker? c t = none := by
  rw [marker?_delete, if_pos (.inl rfl)]

/-- A step that fails leaves the store as it was. -/
theorem eq_of_answer_error {s m : Memory} {g : Guid} {q : Query} {f : StoreFailure}
    (h : s.answer g q = (.error f, m)) : m = s := by
  cases q <;> simp only [answer] at h <;> try split at h
  all_goals cases h
  all_goals rfl

/-! ## Snapshots under the numbers of their cases -/

/-- Every snapshot is kept under the number of its case. -/
def Filed (s : Memory) : Prop :=
  ∀ k a, s.snapshots.find? k = some a → k = octets a.number

theorem filed_empty : empty.Filed := by
  intro k a h
  cases h

theorem Filed.write {s : Memory} (h : s.Filed) (g : Guid) (r : CaseRecord) :
    (s.write g r).Filed := by
  intro k a hk
  simp only [Memory.write, Table.find?_insert] at hk
  split at hk
  next heq => cases hk; exact heq.symm
  next => exact h k a hk

theorem Filed.delete {s : Memory} (h : s.Filed) (c : String) : (s.delete c).Filed := by
  intro k a hk
  simp only [Memory.delete, Table.find?_erase] at hk
  split at hk
  · cases hk
  · exact h k a hk

/-- **No step takes a snapshot away from its number.** -/
theorem Filed.answer {s : Memory} (h : s.Filed) (g : Guid) (q : Query) :
    (s.answer g q).2.Filed := by
  cases q with
  | write r =>
    simp only [Memory.answer]
    split
    · exact h.write g r
    · exact h
  | delete c =>
    simp only [Memory.answer]
    split
    · exact h.delete c
    · exact h
  | _ => exact h

/-- The keys of a store are the numbers of its snapshots. -/
theorem keys_eq {s : Memory} (h : s.Filed) :
    s.snapshots.keys = s.snapshots.values.map fun a => octets a.number := by
  rw [Table.keys, Table.values, List.map_map]
  refine List.map_congr_left fun e he => ?_
  exact h e.1 e.2 (Table.find?_eq_some_iff.2 he)

theorem number_of_snapshot? {s : Memory} (h : s.Filed) {c : String} {a : Snapshot}
    (ha : s.snapshot? c = some a) : a.number = c :=
  (octets_inj.1 (h _ _ ha)).symm

/-- The list of a store holds one snapshot for each case that has one. -/
theorem mem_values_iff {s : Memory} (h : s.Filed) {a : Snapshot} :
    a ∈ s.snapshots.values ↔ s.snapshot? a.number = some a := by
  rw [Table.mem_values]
  constructor
  · rintro ⟨k, hk⟩
    rw [h k a hk] at hk
    exact hk
  · exact fun ha => ⟨_, ha⟩

/-- The first snapshot of a case in the list of a store is that of its view. -/
theorem find?_values {s : Memory} (h : s.Filed) (c : String) :
    (s.snapshots.values.find? fun a => a.number = c) = s.snapshot? c := by
  cases hc : s.snapshots.values.find? fun a => a.number = c with
  | some a =>
    have hnumber : a.number = c := by simpa using List.find?_some hc
    rw [← hnumber, (mem_values_iff h).1 (List.mem_of_find?_eq_some hc)]
  | none =>
    cases ha : s.snapshot? c with
    | none => rfl
    | some a =>
      have hnumber := number_of_snapshot? h ha
      have hmem : a ∈ s.snapshots.values := (mem_values_iff h).2 (hnumber.symm ▸ ha)
      have hnot := List.find?_eq_none.1 hc a hmem
      exact absurd hnumber (by simpa using hnot)

/-- The list of a store is in the byte order of the numbers. -/
theorem sorted_values {s : Memory} (h : s.Filed) :
    s.snapshots.values.Pairwise fun a b => octets a.number < octets b.number := by
  have hsorted : s.snapshots.keys.Pairwise (· < ·) := List.pairwise_map.2 s.snapshots.sorted
  rwa [keys_eq h, List.pairwise_map] at hsorted

theorem nodup_numbers {s : Memory} (h : s.Filed) :
    (s.snapshots.values.map Snapshot.number).Nodup := by
  refine (sorted_values h).map _ fun a b hlt heq => ?_
  rw [heq] at hlt
  exact List.lt_irrefl _ hlt

/-- Whether a case is stored shows in its view. -/
theorem isStored_values {s : Memory} (h : s.Filed) (c : String) :
    Plan.isStored s.snapshots.values c = (s.snapshot? c).isSome := by
  rw [← find?_values h, Plan.isStored, List.isSome_find?]

/-! ## Markers under the keys of their versions -/

/-- Every marker is kept under the key of a version. -/
def Labelled (s : Memory) : Prop :=
  ∀ k, s.markers.contains k → ∃ c t, k = markerKey c t

theorem Labelled.write {s : Memory} (h : s.Labelled) (g : Guid) (r : CaseRecord) :
    (s.write g r).Labelled := by
  intro k hk
  simp only [Memory.write] at hk
  split at hk
  · exact h k hk
  · rw [Table.contains, Table.find?_insert] at hk
    split at hk
    next heq => exact ⟨r.number, r.updated, heq.symm⟩
    next => exact h k hk

theorem Labelled.delete {s : Memory} (h : s.Labelled) (c : String) : (s.delete c).Labelled := by
  intro k hk
  simp only [Memory.delete, Table.contains, Table.find?_keep] at hk
  split at hk
  · exact h k hk
  · cases hk

/-- **No step leaves a marker under a key that is none of a version.** -/
theorem Labelled.answer {s : Memory} (h : s.Labelled) (g : Guid) (q : Query) :
    (s.answer g q).2.Labelled := by
  cases q with
  | write r =>
    simp only [Memory.answer]
    split
    · exact h.write g r
    · exact h
  | delete c =>
    simp only [Memory.answer]
    split
    · exact h.delete c
    · exact h
  | _ => exact h

/-! ## Deletions one after the other -/

theorem snapshot?_foldl_delete (l : List String) (s : Memory) (c : String) :
    (l.foldl delete s).snapshot? c = if c ∈ l then none else s.snapshot? c := by
  induction l generalizing s with
  | nil => rfl
  | cons d l ih =>
    rw [List.foldl_cons, ih, snapshot?_delete]
    by_cases hd : d = c
    · simp [hd]
    · simp [hd, Ne.symm hd]

theorem record?_foldl_delete (l : List String) (s : Memory) (c : String) :
    (l.foldl delete s).record? c = if c ∈ l then none else s.record? c := by
  rw [record?, snapshot?_foldl_delete]
  split <;> rfl

/-- Only markers of other cases are left. -/
theorem of_marker?_foldl_delete {l : List String} {s : Memory} {c : String} {t : Instant}
    (h : ((l.foldl delete s).marker? c t).isSome) : c ∉ l ∧ (s.marker? c t).isSome := by
  induction l generalizing s with
  | nil => exact ⟨List.not_mem_nil, h⟩
  | cons d l ih =>
    obtain ⟨hl, hkept⟩ := ih h
    by_cases hd : c = d
    · subst hd
      rw [marker?_delete_self] at hkept
      cases hkept
    · rw [marker?_delete] at hkept
      split at hkept
      · cases hkept
      · exact ⟨List.not_mem_cons_of_ne_of_not_mem hd hl, hkept⟩

theorem Filed.foldl_delete {s : Memory} (h : s.Filed) (l : List String) :
    (l.foldl Memory.delete s).Filed :=
  List.foldlRecOn l Memory.delete h fun _ hs c _ => hs.delete c

theorem Labelled.foldl_delete {s : Memory} (h : s.Labelled) (l : List String) :
    (l.foldl Memory.delete s).Labelled :=
  List.foldlRecOn l Memory.delete h fun _ hs c _ => hs.delete c

end Memory

end CaseHerald.Store
