import CaseHerald.Proofs.Jobs
import CaseHerald.Text.Octets
import Mathlib.Data.List.Chain
import Mathlib.Data.List.Sort

/-!
# What one watcher has fetched

A history lists the fetches of one watcher, the oldest first. If a case is open in the last fetch, it has
been open without a break since some fetch, and the record to be kept of it is that of the first fetch
since then that brought its present time of update (`Held`). `Tracked.append` says what one more fetch
changes in this, and `Tracks.unique` that a history determines the records to be kept.
-/
namespace CaseHerald

open Plan (firstActive? lastActive? isLive)
open Text (octets)

variable {fetches : List (List CaseRecord)} {live : List CaseRecord} {c : String} {r : CaseRecord}

/-! ## One fetch -/

theorem isLive_eq_firstActive? (live : List CaseRecord) (c : String) :
    isLive live c = (firstActive? live c).isSome := by
  simp [isLive, firstActive?, List.isSome_find?]

/-- Where no two records have the same number, an open record is the one of its case. -/
theorem firstActive?_of_mem (distinct : (live.map CaseRecord.number).Nodup) (hmem : r ∈ live)
    (hactive : r.isActive) : firstActive? live r.number = some r := by
  cases hfirst : firstActive? live r.number with
  | none => exact absurd rfl (Plan.firstActive?_eq_none_iff.1 hfirst r hmem hactive)
  | some a =>
    obtain ⟨hmem', -, hnumber⟩ := Plan.firstActive?_spec hfirst
    rw [List.inj_on_of_nodup_map distinct hmem' hmem hnumber]

theorem lastActive?_eq_firstActive? (distinct : (live.map CaseRecord.number).Nodup) (c : String) :
    lastActive? live c = firstActive? live c := by
  cases hlast : lastActive? live c with
  | none => exact (Plan.firstActive?_eq_none_iff.2 (Plan.lastActive?_eq_none_iff.1 hlast)).symm
  | some r =>
    obtain ⟨hmem, hactive, rfl⟩ := Plan.lastActive?_spec hlast
    exact (firstActive?_of_mem distinct hmem hactive).symm

/-! ## Histories -/

/-- The last fetch. -/
def latest (fetches : List (List CaseRecord)) : List CaseRecord := fetches.getLast?.getD []

/-- The open record of the case in the fetch with the index. -/
def seen? (fetches : List (List CaseRecord)) (n : Nat) (c : String) : Option CaseRecord :=
  fetches[n]?.bind fun live => firstActive? live c

@[simp] theorem latest_append (fetches : List (List CaseRecord)) (live : List CaseRecord) :
    latest (fetches ++ [live]) = live := by
  simp [latest]

theorem seen?_append_of_lt {n : Nat} (h : n < fetches.length) (live : List CaseRecord) (c : String) :
    seen? (fetches ++ [live]) n c = seen? fetches n c := by
  simp [seen?, List.getElem?_append_left h]

theorem seen?_append_length (fetches : List (List CaseRecord)) (live : List CaseRecord) (c : String) :
    seen? (fetches ++ [live]) fetches.length c = firstActive? live c := by
  simp [seen?]

theorem seen?_last {n : Nat} (h : n + 1 = fetches.length) (c : String) :
    seen? fetches n c = firstActive? (latest fetches) c := by
  simp [seen?, latest, List.getLast?_eq_getElem?, ← h]

theorem seen?_spec {n : Nat} (h : seen? fetches n c = some r) :
    ∃ live, fetches[n]? = some live ∧ r ∈ live ∧ r.isActive ∧ r.number = c := by
  obtain ⟨live, hlive, hr⟩ := Option.bind_eq_some_iff.1 h
  exact ⟨live, hlive, Plan.firstActive?_spec hr⟩

theorem lt_length_of_seen? {n : Nat} (h : seen? fetches n c = some r) : n < fetches.length := by
  obtain ⟨live, hlive, -⟩ := seen?_spec h
  exact (List.getElem?_eq_some_iff.1 hlive).1

theorem seen?_take {m n : Nat} (h : m < n) (c : String) :
    seen? (fetches.take n) m c = seen? fetches m c := by
  rw [seen?, List.getElem?_take_of_lt h, seen?]

theorem seen?_of_take {k n : Nat} (h : seen? (fetches.take n) k c = some r) :
    k < n ∧ seen? fetches k c = some r := by
  have hk := lt_length_of_seen? h
  rw [List.length_take] at hk
  have hkn : k < n := by omega
  exact ⟨hkn, seen?_take hkn c ▸ h⟩

/-- Whether no open case goes back in its time of update from one fetch to another. -/
def Rises (live later : List CaseRecord) : Prop :=
  ∀ a ∈ live, ∀ b ∈ later, a.isActive → b.isActive → a.number = b.number → a.updated ≤ b.updated

instance (live later : List CaseRecord) : Decidable (Rises live later) :=
  inferInstanceAs (Decidable (∀ a ∈ live, ∀ b ∈ later, _ → _ → _ → _))

/-- What is asked of a source: a fetch has one record of a case, no record bears the closing mark, and a
case does not go back in time from fetch to fetch while it is open. -/
structure Regular (fetches : List (List CaseRecord)) : Prop where
  distinct : ∀ live ∈ fetches, (live.map CaseRecord.number).Nodup
  unmarked : ∀ live ∈ fetches, ∀ r ∈ live, ¬r.isMarked
  rising : fetches.IsChain Rises

namespace Regular

theorem distinct_last (h : Regular (fetches ++ [live])) : (live.map CaseRecord.number).Nodup :=
  h.distinct live (List.mem_append_right _ List.mem_cons_self)

theorem unmarked_last (h : Regular (fetches ++ [live])) : ∀ r ∈ live, ¬r.isMarked :=
  h.unmarked live (List.mem_append_right _ List.mem_cons_self)

theorem of_append (h : Regular (fetches ++ [live])) : Regular fetches where
  distinct l hl := h.distinct l (List.mem_append_left _ hl)
  unmarked l hl := h.unmarked l (List.mem_append_left _ hl)
  rising := (List.isChain_append.1 h.rising).1

theorem take (h : Regular fetches) (n : Nat) : Regular (fetches.take n) where
  distinct l hl := h.distinct l (List.mem_of_mem_take hl)
  unmarked l hl := h.unmarked l (List.mem_of_mem_take hl)
  rising := h.rising.take n

theorem seen_le (h : Regular fetches) {n : Nat} {a b : CaseRecord} (ha : seen? fetches n c = some a)
    (hb : seen? fetches (n + 1) c = some b) : a.updated ≤ b.updated := by
  obtain ⟨live, hlive, hmem, hactive, hnumber⟩ := seen?_spec ha
  obtain ⟨later, hlater, hmem', hactive', hnumber'⟩ := seen?_spec hb
  obtain ⟨hn, rfl⟩ := List.getElem?_eq_some_iff.1 hlater
  obtain ⟨hlt, rfl⟩ := List.getElem?_eq_some_iff.1 hlive
  exact h.rising.getElem n hn a hmem b hmem' hactive hactive' (hnumber.trans hnumber'.symm)

/-- A case that is open in two successive fetches, the later of which is the last. -/
theorem latest_le (h : Regular (fetches ++ [live])) {a b : CaseRecord}
    (ha : firstActive? (latest fetches) c = some a) (hb : firstActive? live c = some b) :
    a.updated ≤ b.updated := by
  rcases List.eq_nil_or_concat fetches with rfl | ⟨earlier, last, rfl⟩
  · cases ha
  · rw [List.concat_eq_append, latest_append] at ha
    obtain ⟨hmem, hactive, hnumber⟩ := Plan.firstActive?_spec ha
    obtain ⟨hmem', hactive', hnumber'⟩ := Plan.firstActive?_spec hb
    have hrises : Rises last live := by
      refine (List.isChain_append.1 h.rising).2.2 last ?_ live ?_
      · simp
      · simp
    exact hrises a hmem b hmem' hactive hactive' (hnumber.trans hnumber'.symm)

end Regular

/-! ## Records to be kept -/

/-- Whether the case has been open since the fetch `first`, but not just before, and the record is that
of the fetch `k`, the first of these with the present time of update. -/
structure HeldSince (fetches : List (List CaseRecord)) (c : String) (r : CaseRecord) (first k : Nat) :
    Prop where
  unbroken : ∀ n, first ≤ n → n < fetches.length → (seen? fetches n c).isSome
  begins : first = 0 ∨ seen? fetches (first - 1) c = none
  first_le : first ≤ k
  fetched : seen? fetches k c = some r
  earliest : ∀ n a, first ≤ n → n < k → seen? fetches n c = some a → a.updated ≠ r.updated
  current : ∃ a, firstActive? (latest fetches) c = some a ∧ a.updated = r.updated

/-- Whether the record is that of the earliest fetch with its time of update in the present unbroken
period in which the case is open. -/
def Held (fetches : List (List CaseRecord)) (c : String) (r : CaseRecord) : Prop :=
  ∃ first k, HeldSince fetches c r first k

/-- Whether this is the record to be kept of the case, if any is. -/
def Tracked (fetches : List (List CaseRecord)) (c : String) : Option CaseRecord → Prop
  | some r => Held fetches c r
  | none => firstActive? (latest fetches) c = none

/-- The record to be kept after one more fetch. -/
def renew (live : List CaseRecord) (c : String) (kept : Option CaseRecord) : Option CaseRecord :=
  (firstActive? live c).map fun a =>
    match kept with
    | some r => if a.updated = r.updated then r else a
    | none => a

theorem Held.spec (h : Held fetches c r) :
    ∃ live ∈ fetches, r ∈ live ∧ r.isActive ∧ r.number = c := by
  obtain ⟨first, k, h⟩ := h
  obtain ⟨live, hlive, hspec⟩ := seen?_spec h.fetched
  exact ⟨live, List.mem_of_getElem? hlive, hspec⟩

theorem Tracked.isSome_iff {kept : Option CaseRecord} (h : Tracked fetches c kept) :
    kept.isSome ↔ isLive (latest fetches) c := by
  rw [isLive_eq_firstActive?]
  cases kept with
  | none => rw [show firstActive? (latest fetches) c = none from h]
  | some r =>
    obtain ⟨first, k, h⟩ := h
    obtain ⟨a, ha, -⟩ := h.current
    simp [ha]

namespace HeldSince

variable {first k : Nat}

/-- The present time of update is the last of the period. -/
theorem le_current (h : HeldSince fetches c r first k) (regular : Regular fetches) {n : Nat}
    {a : CaseRecord} (hn : first ≤ n) (ha : seen? fetches n c = some a) : a.updated ≤ r.updated := by
  obtain ⟨d, hd⟩ := Nat.exists_eq_add_of_lt (lt_length_of_seen? ha)
  induction d generalizing n a with
  | zero =>
    obtain ⟨b, hb, hupdated⟩ := h.current
    rw [seen?_last hd.symm, hb] at ha
    cases ha
    exact hupdated ▸ Instant.le_refl _
  | succ d ih =>
    obtain ⟨b, hb⟩ := Option.isSome_iff_exists.1 (h.unbroken (n + 1) (by omega) (by omega))
    exact Instant.le_trans (regular.seen_le ha hb) (ih (by omega) hb (by omega))

/-- One more fetch of the case extends the period. -/
theorem unbroken_append (h : HeldSince fetches c r first k) {a : CaseRecord}
    (ha : firstActive? live c = some a) (n : Nat) (hn : first ≤ n)
    (hlt : n < (fetches ++ [live]).length) : (seen? (fetches ++ [live]) n c).isSome := by
  rw [List.length_append, List.length_singleton] at hlt
  rcases Nat.lt_or_eq_of_le (Nat.le_of_lt_succ hlt) with hlt | rfl
  · rw [seen?_append_of_lt hlt]
    exact h.unbroken n hn hlt
  · rw [seen?_append_length, ha]
    rfl

theorem begins_append (h : HeldSince fetches c r first k) (live : List CaseRecord) :
    first = 0 ∨ seen? (fetches ++ [live]) (first - 1) c = none := by
  have hk := lt_length_of_seen? h.fetched
  have hle := h.first_le
  rw [seen?_append_of_lt (by omega)]
  exact h.begins

/-- A fetch with the same time of update changes nothing. -/
theorem append_same (h : HeldSince fetches c r first k) {a : CaseRecord}
    (ha : firstActive? live c = some a) (hsame : a.updated = r.updated) :
    HeldSince (fetches ++ [live]) c r first k where
  unbroken := h.unbroken_append ha
  begins := h.begins_append live
  first_le := h.first_le
  fetched := by rw [seen?_append_of_lt (lt_length_of_seen? h.fetched), h.fetched]
  earliest n b hn hk hb := by
    rw [seen?_append_of_lt (Nat.lt_trans hk (lt_length_of_seen? h.fetched))] at hb
    exact h.earliest n b hn hk hb
  current := ⟨a, by rw [latest_append, ha], hsame⟩

/-- A fetch with another time of update brings the record to be kept: the times rise, so that no earlier
fetch of the period had this time. -/
theorem append_moved (h : HeldSince fetches c r first k) (regular : Regular (fetches ++ [live]))
    {a : CaseRecord} (ha : firstActive? live c = some a) (hmoved : a.updated ≠ r.updated) :
    HeldSince (fetches ++ [live]) c a first fetches.length where
  unbroken := h.unbroken_append ha
  begins := h.begins_append live
  first_le := Nat.le_of_lt (Nat.lt_of_le_of_lt h.first_le (lt_length_of_seen? h.fetched))
  fetched := by rw [seen?_append_length, ha]
  earliest n b hn hlt hb hsame := by
    rw [seen?_append_of_lt hlt] at hb
    have hold := h.le_current regular.of_append hn hb
    obtain ⟨last, hlast, hupdated⟩ := h.current
    have hnew : r.updated ≤ a.updated := hupdated ▸ regular.latest_le hlast ha
    exact hmoved (Instant.le_antisymm (hsame ▸ hold) hnew)
  current := ⟨a, by rw [latest_append, ha], rfl⟩

/-- The fetch in which a case is open again, or for the first time. -/
theorem append_new (hnone : firstActive? (latest fetches) c = none) {a : CaseRecord}
    (ha : firstActive? live c = some a) :
    HeldSince (fetches ++ [live]) c a fetches.length fetches.length where
  unbroken n hn hlt := by
    rw [List.length_append, List.length_singleton] at hlt
    obtain rfl : n = fetches.length := by omega
    rw [seen?_append_length, ha]
    rfl
  begins := by
    rcases Nat.eq_zero_or_pos fetches.length with hzero | hpos
    · exact .inl hzero
    · right
      rw [seen?_append_of_lt (by omega), seen?_last (by omega), hnone]
  first_le := Nat.le_refl _
  fetched := by rw [seen?_append_length, ha]
  earliest n b hn hlt := absurd hlt (by omega)
  current := ⟨a, by rw [latest_append, ha], rfl⟩

end HeldSince

/-- **One more fetch renews the record to be kept.** -/
theorem Tracked.append {kept : Option CaseRecord} (h : Tracked fetches c kept)
    (regular : Regular (fetches ++ [live])) :
    Tracked (fetches ++ [live]) c (renew live c kept) := by
  unfold renew
  cases ha : firstActive? live c with
  | none => simpa [Tracked] using ha
  | some a =>
    cases kept with
    | none => exact ⟨_, _, HeldSince.append_new h ha⟩
    | some r =>
      obtain ⟨first, k, h⟩ := h
      by_cases hsame : a.updated = r.updated
      · simp only [Option.map_some, if_pos hsame]
        exact ⟨first, k, h.append_same ha hsame⟩
      · simp only [Option.map_some, if_neg hsame]
        exact ⟨first, _, h.append_moved regular ha hsame⟩

/-- A record that is held before a fetch dates from no earlier a fetch than one that has moved the
case. -/
theorem HeldSince.le_of_moved {m n first k : Nat} (h : HeldSince (fetches.take n) c r first k)
    (regular : Regular fetches) (hmn : m < n) {kept a : CaseRecord}
    (held : Held (fetches.take m) c kept) (found : seen? fetches m c = some a)
    (moved : a.updated ≠ kept.updated) : m ≤ k := by
  by_contra hlt
  obtain ⟨first', k', h'⟩ := held
  have hm := lt_length_of_seen? found
  have hk' := (seen?_of_take h'.fetched).1
  have hfirst := h.first_le
  have hfirst' := h'.first_le
  -- both are held in one period, so that none of the times between them differ
  have hperiod : first' ≤ k := by
    by_contra hafter
    have hsome := h.unbroken (first' - 1) (by omega) (by rw [List.length_take]; omega)
    rcases h'.begins with hzero | hnone
    · omega
    · rw [seen?_take (by omega)] at hnone hsome
      rw [hnone] at hsome
      cases hsome
  have hold : r.updated ≤ kept.updated := by
    refine h'.le_current (regular.take m) hperiod ?_
    rw [seen?_take (by omega), ← seen?_take (by omega : k < n), h.fetched]
  have hnew : kept.updated ≤ a.updated := by
    obtain ⟨z, hz, hsame⟩ := h'.current
    have hlast : m - 1 + 1 = (fetches.take m).length := by
      rw [List.length_take]
      omega
    rw [← seen?_last hlast, seen?_take (by omega)] at hz
    rw [show m = m - 1 + 1 by omega] at found
    exact hsame ▸ regular.seen_le hz found
  have hback : a.updated ≤ r.updated := by
    refine h.le_current (regular.take n) (by omega : first ≤ m) ?_
    rw [seen?_take hmn, found]
  exact moved (Instant.le_antisymm (Instant.le_trans hback hold) hnew)

/-- The present period has one beginning. -/
theorem HeldSince.first_eq {a : CaseRecord} {first k first' k' : Nat}
    (h : HeldSince fetches c r first k) (h' : HeldSince fetches c a first' k') : first ≤ first' := by
  refine Nat.le_of_not_lt fun hlt => ?_
  have hk := lt_length_of_seen? h.fetched
  have hle := h.first_le
  have hsome := h'.unbroken (first - 1) (by omega) (by omega)
  rcases h.begins with hzero | hnone
  · omega
  · rw [hnone] at hsome
    cases hsome

/-- **A history determines the record to be kept.** -/
theorem Held.unique {a : CaseRecord} (h : Held fetches c r) (h' : Held fetches c a) : r = a := by
  obtain ⟨first, k, h⟩ := h
  obtain ⟨first', k', h'⟩ := h'
  obtain rfl : first = first' := Nat.le_antisymm (h.first_eq h') (h'.first_eq h)
  obtain ⟨z, hz, hr⟩ := h.current
  obtain ⟨z', hz', ha⟩ := h'.current
  rw [hz] at hz'
  cases hz'
  have hupdated : r.updated = a.updated := hr.symm.trans ha
  rcases Nat.lt_trichotomy k k' with hlt | rfl | hlt
  · exact absurd hupdated (h'.earliest k r h.first_le hlt h.fetched)
  · exact Option.some.inj (h.fetched.symm.trans h'.fetched)
  · exact absurd hupdated.symm (h.earliest k' a h'.first_le hlt h'.fetched)

/-- Whether these are the records to be kept, one for each case that is open in the last fetch, in the
byte order of the case numbers. -/
structure Tracks (fetches : List (List CaseRecord)) (stored : List CaseRecord) : Prop where
  sorted : stored.Pairwise fun a b => octets a.number < octets b.number
  keys : ∀ c, c ∈ stored.map CaseRecord.number ↔ isLive (latest fetches) c
  held : ∀ r ∈ stored, Held fetches r.number r

/-- The record of a case that is to be kept is the one that is held. -/
theorem Tracks.mem_iff {stored : List CaseRecord} (h : Tracks fetches stored) :
    r ∈ stored ∧ r.number = c ↔ Held fetches c r := by
  constructor
  · rintro ⟨hr, rfl⟩
    exact h.held r hr
  · intro hheld
    have htracked : Tracked fetches c (some r) := hheld
    obtain ⟨a, ha, hnumber⟩ := List.mem_map.1 ((h.keys c).2 (htracked.isSome_iff.1 rfl))
    have ha' : Held fetches c a := hnumber ▸ h.held a ha
    rw [hheld.unique ha']
    exact ⟨ha, hnumber⟩

/-- **A history determines the records to be kept**, with their order. -/
theorem Tracks.unique {stored other : List CaseRecord} (h : Tracks fetches stored)
    (h' : Tracks fetches other) : stored = other := by
  have hsub {l m : List CaseRecord} (hl : Tracks fetches l) (hm : Tracks fetches m) :
      ∀ r ∈ l, r ∈ m := by
    intro r hr
    obtain ⟨a, ha, hnumber⟩ := List.mem_map.1
      ((hm.keys r.number).2 ((hl.keys r.number).1 (List.mem_map_of_mem hr)))
    rwa [(hl.held r hr).unique (hnumber ▸ hm.held a ha)]
  have hirrefl : Std.Irrefl fun a b : CaseRecord => octets a.number < octets b.number :=
    ⟨fun a => List.lt_irrefl _⟩
  have hasymm : Std.Asymm fun a b : CaseRecord => octets a.number < octets b.number :=
    ⟨fun a b hab hba => List.lt_irrefl _ (List.lt_trans hab hba)⟩
  exact h.sorted.eq_of_mem_iff h'.sorted fun r => ⟨hsub h h' r, hsub h' h r⟩

end CaseHerald
