import CaseHerald.Proofs.Written
import CaseHerald.Table

/-!
# Tables by what they hold

A table is determined by the values of its keys (`Table.ext_find?`), so that equations between tables
are equations between their views. `Table.mapValues` writes every value in another form and commutes
with all that is done to a table. A table of texts that are kept under their own octets, `Table.Named`,
is a set of texts in byte order.
-/
namespace CaseHerald

open Text (Octets octets)

namespace Table

variable {α β : Type}

theorem nodup_of_sorted {es : List (Octets × α)} (h : es.Pairwise fun a b => a.1 < b.1) :
    es.Nodup := by
  refine h.imp fun {a b} hlt heq => ?_
  subst heq
  exact List.lt_irrefl _ hlt

/-- Tables with the same values are the same. -/
theorem ext_find? {t u : Table α} (h : ∀ k, t.find? k = u.find? k) : t = u := by
  have hmem (e : Octets × α) : e ∈ t.entries ↔ e ∈ u.entries := by
    rw [← find?_eq_some_iff (k := e.1) (a := e.2), ← find?_eq_some_iff (k := e.1) (a := e.2), h]
  have hperm : t.entries.Perm u.entries :=
    (List.perm_ext_iff_of_nodup (nodup_of_sorted t.sorted) (nodup_of_sorted u.sorted)).2 hmem
  have heq : t.entries = u.entries := hperm.eq_of_pairwise
    (fun a b _ _ hab hba => absurd (List.lt_trans hab hba) (List.lt_irrefl _)) t.sorted u.sorted
  cases t
  cases u
  simpa using heq

/-- Keeping what a key has already changes nothing. -/
theorem insert_eq_self {t : Table α} {k : Octets} {a : α} (h : t.find? k = some a) :
    t.insert k a = t := by
  refine ext_find? fun j => ?_
  rw [find?_insert]
  split
  next hk => rw [← hk, h]
  · rfl

theorem erase_eq_self {t : Table α} {k : Octets} (h : t.find? k = none) : t.erase k = t := by
  refine ext_find? fun j => ?_
  rw [find?_erase]
  split
  next hk => rw [← hk, h]
  · rfl

/-- Keeping some keys once more changes nothing. -/
theorem keep_keep (t : Table α) (p : Octets → Bool) : (t.keep p).keep p = t.keep p := by
  refine ext_find? fun k => ?_
  rw [find?_keep, find?_keep]
  split <;> rfl

/-- The values that are kept, where the key passes the test just if the value passes another one. -/
theorem values_keep {t : Table α} {p : Octets → Bool} {q : α → Bool}
    (h : ∀ k a, t.find? k = some a → p k = q a) : (t.keep p).values = t.values.filter q := by
  simp only [values, keep, List.filter_map]
  exact congrArg (List.map _) (List.filter_congr fun e he => h _ _ (find?_eq_some_iff.2 he))

@[simp] theorem length_values (t : Table α) : t.values.length = t.size := by
  simp [values, size]

/-! ## Other forms of the values -/

/-- The table with every value in another form. -/
def mapValues (f : α → β) (t : Table α) : Table β :=
  ⟨t.entries.map fun e => (e.1, f e.2), List.pairwise_map.2 t.sorted⟩

@[simp] theorem find?_mapValues (f : α → β) (t : Table α) (k : Octets) :
    (t.mapValues f).find? k = (t.find? k).map f := by
  have hlookup (es : List (Octets × α)) :
      lookup k (es.map fun e => (e.1, f e.2)) = (lookup k es).map f := by
    induction es with
    | nil => rfl
    | cons e es ih =>
      by_cases hk : e.1 = k
      · simp [lookup, hk]
      · simp [lookup, hk, ih]
  exact hlookup t.entries

@[simp] theorem contains_mapValues (f : α → β) (t : Table α) (k : Octets) :
    (t.mapValues f).contains k = t.contains k := by
  simp [contains]

theorem mapValues_insert (f : α → β) (t : Table α) (k : Octets) (a : α) :
    (t.insert k a).mapValues f = (t.mapValues f).insert k (f a) := by
  refine ext_find? fun j => ?_
  simp only [find?_mapValues, find?_insert]
  split <;> rfl

theorem mapValues_keep (f : α → β) (t : Table α) (p : Octets → Bool) :
    (t.keep p).mapValues f = (t.mapValues f).keep p := by
  refine ext_find? fun j => ?_
  simp only [find?_mapValues, find?_keep]
  split <;> rfl

theorem mapValues_erase (f : α → β) (t : Table α) (k : Octets) :
    (t.erase k).mapValues f = (t.mapValues f).erase k := mapValues_keep f t _

/-! ## Sets of texts -/

/-- Every text is kept under its own octets. -/
def Named (t : Table String) : Prop := ∀ k s, t.find? k = some s → k = octets s

namespace Named

variable {t : Table String}

theorem empty : Named ∅ := by
  intro k s h
  cases h

theorem insert (h : t.Named) (s : String) : (t.insert (octets s) s).Named := by
  intro k a hk
  rw [find?_insert] at hk
  split at hk
  next heq =>
    obtain rfl : s = a := by simpa using hk
    exact heq.symm
  · exact h k a hk

theorem erase (h : t.Named) (k : Octets) : (t.erase k).Named := by
  intro j a hj
  rw [find?_erase] at hj
  split at hj
  · cases hj
  · exact h j a hj

theorem mem_values_iff (h : t.Named) {s : String} : s ∈ t.values ↔ t.find? (octets s) = some s := by
  rw [mem_values]
  constructor
  · rintro ⟨k, hk⟩
    rwa [← h k s hk]
  · intro hs
    exact ⟨_, hs⟩

theorem find?_octets (h : t.Named) {s a : String} (hs : t.find? (octets s) = some a) : a = s :=
  (octets_inj.1 (h _ _ hs)).symm

theorem contains_iff (h : t.Named) {s : String} : t.contains (octets s) = true ↔ s ∈ t.values := by
  rw [h.mem_values_iff, contains, Option.isSome_iff_exists]
  constructor
  · rintro ⟨a, ha⟩
    rw [ha, h.find?_octets ha]
  · intro hs
    exact ⟨s, hs⟩

/-- The texts are in byte order. -/
theorem pairwise_values (h : t.Named) : t.values.Pairwise fun a b => octets a < octets b := by
  refine List.pairwise_map.2 (t.sorted.imp_of_mem fun {e d} he hd hlt => ?_)
  have hkey {e : Octets × String} (he : e ∈ t.entries) : e.1 = octets e.2 :=
    h _ _ (find?_eq_some_iff.2 he)
  rwa [← hkey he, ← hkey hd]

theorem values_erase (h : t.Named) (s : String) :
    (t.erase (octets s)).values = t.values.filter (· != s) := by
  refine values_keep fun k a hk => ?_
  rw [h k a hk, Bool.eq_iff_iff, bne_iff_ne, bne_iff_ne, Ne, octets_inj]

/-- A new text takes its place in the order. -/
theorem values_insert (h : t.Named) {s : String} (hs : s ∉ t.values) :
    (t.insert (octets s) s).values =
      (t.values ++ [s]).mergeSort fun a b => decide (octets a ≤ octets b) := by
  have hnodup {u : Table String} (hu : u.Named) : u.values.Nodup := by
    refine hu.pairwise_values.imp fun {a b} hlt heq => ?_
    subst heq
    exact List.lt_irrefl _ hlt
  have hnew : (t.values ++ [s]).Nodup := by
    rw [List.nodup_append]
    refine ⟨hnodup h, by simp, fun a ha b hb heq => hs ?_⟩
    rwa [← List.mem_singleton.1 hb, ← heq]
  have hmem (a : String) : a ∈ (t.insert (octets s) s).values ↔ a ∈ t.values ++ [s] := by
    rw [(h.insert s).mem_values_iff, find?_insert, List.mem_append, List.mem_singleton,
      h.mem_values_iff]
    by_cases ha : s = a
    · simp [ha]
    · simp [octets_inj, ha, Ne.symm ha]
  have hperm : (t.insert (octets s) s).values.Perm
      ((t.values ++ [s]).mergeSort fun a b => decide (octets a ≤ octets b)) :=
    ((List.perm_ext_iff_of_nodup (hnodup (h.insert s)) hnew).2 hmem).trans
      (List.mergeSort_perm _ _).symm
  have hsorted : ((t.values ++ [s]).mergeSort fun a b => decide (octets a ≤ octets b)).Pairwise
      fun a b => octets a ≤ octets b := by
    refine (List.pairwise_mergeSort (fun a b c hab hbc => ?_) (fun a b => ?_) _).imp fun hab => ?_
    · exact decide_eq_true (List.le_trans (of_decide_eq_true hab) (of_decide_eq_true hbc))
    · simpa using List.le_total (octets a) (octets b)
    · exact of_decide_eq_true hab
  refine hperm.eq_of_pairwise (fun a b _ _ hab hba => octets_inj.1 (List.le_antisymm hab hba)) ?_
    hsorted
  exact (h.insert s).pairwise_values.imp fun hlt => List.le_of_lt hlt

end Named

end Table

end CaseHerald
