import CaseHerald.Text.Octets

/-!
# Tables in key order

A table keeps one value for each of its keys, which are strings of octets, and lists its entries in
the byte order of the keys. `find?` is its view: `find?_insert`, `find?_erase` and `find?_keep` say
what each operation does to it.
-/
namespace CaseHerald

open Text (Octets)

theorem octets_lt_trichotomy (a b : Octets) : a < b ∨ a = b ∨ b < a := by
  by_cases hab : a < b
  · exact .inl hab
  · by_cases hba : b < a
    · exact .inr (.inr hba)
    · exact .inr (.inl (List.le_antisymm (List.not_lt.1 hba) (List.not_lt.1 hab)))

/-- Entries in ascending order of their keys, one for each key. -/
structure Table (α : Type) where
  entries : List (Octets × α)
  sorted : entries.Pairwise fun a b => a.1 < b.1

namespace Table

variable {α : Type}

/-- The table without entries. -/
def empty : Table α := ⟨[], .nil⟩

/-- The value of the first entry with the key. -/
def lookup (k : Octets) : List (Octets × α) → Option α
  | [] => none
  | e :: rest => if e.1 = k then some e.2 else lookup k rest

/-- The entries with the value put at its key's place. -/
def place (k : Octets) (a : α) : List (Octets × α) → List (Octets × α)
  | [] => [(k, a)]
  | e :: rest =>
    if k < e.1 then (k, a) :: e :: rest
    else if k = e.1 then (k, a) :: rest
    else e :: place k a rest

theorem mem_place {k : Octets} {a : α} {es : List (Octets × α)} {x : Octets × α}
    (h : x ∈ place k a es) : x = (k, a) ∨ x ∈ es := by
  induction es with
  | nil => simpa [place] using h
  | cons e rest ih =>
    rw [place] at h
    split at h
    · simpa using h
    · split at h
      · rcases List.mem_cons.1 h with h | h
        · exact .inl h
        · exact .inr (List.mem_cons_of_mem _ h)
      · rcases List.mem_cons.1 h with h | h
        · exact .inr (h ▸ List.mem_cons_self)
        · exact (ih h).imp_right (List.mem_cons_of_mem _)

theorem sorted_place {k : Octets} {a : α} {es : List (Octets × α)}
    (h : es.Pairwise fun a b => a.1 < b.1) : (place k a es).Pairwise fun a b => a.1 < b.1 := by
  induction es with
  | nil => simp [place]
  | cons e rest ih =>
    obtain ⟨he, hr⟩ := List.pairwise_cons.1 h
    rw [place]
    split
    next hlt =>
      refine List.pairwise_cons.2 ⟨fun x hx => ?_, h⟩
      rcases List.mem_cons.1 hx with rfl | hx
      · exact hlt
      · exact List.lt_trans hlt (he x hx)
    next hlt =>
      split
      next heq => exact List.pairwise_cons.2 ⟨fun x hx => heq ▸ he x hx, hr⟩
      next hne =>
        refine List.pairwise_cons.2 ⟨fun x hx => ?_, ih hr⟩
        rcases mem_place hx with rfl | hx
        · rcases octets_lt_trichotomy k e.1 with h | h | h
          · exact absurd h hlt
          · exact absurd h hne
          · exact h
        · exact he x hx

/-- The value kept for the key. -/
def find? (t : Table α) (k : Octets) : Option α := lookup k t.entries

/-- Keeps the value for the key, in place of any other. -/
def insert (t : Table α) (k : Octets) (a : α) : Table α :=
  ⟨place k a t.entries, sorted_place t.sorted⟩

/-- The entries whose keys pass the test. -/
def keep (t : Table α) (p : Octets → Bool) : Table α :=
  ⟨t.entries.filter fun e => p e.1, t.sorted.filter _⟩

/-- The table without the key. -/
def erase (t : Table α) (k : Octets) : Table α := t.keep (· != k)

/-- Whether the key has a value. -/
def contains (t : Table α) (k : Octets) : Bool := (t.find? k).isSome

/-- The values, in the order of their keys. -/
def values (t : Table α) : List α := t.entries.map (·.2)

/-- The keys, in order. -/
def keys (t : Table α) : List Octets := t.entries.map (·.1)

/-- The number of entries. -/
def size (t : Table α) : Nat := t.entries.length

instance : EmptyCollection (Table α) := ⟨empty⟩

/-! ## The view of each operation -/

theorem lookup_place (k j : Octets) (a : α) (es : List (Octets × α)) :
    lookup j (place k a es) = if k = j then some a else lookup j es := by
  induction es with
  | nil => simp [place, lookup]
  | cons e rest ih =>
    rw [place]
    split
    · simp [lookup]
    · split
      next heq => by_cases h : k = j <;> simp [lookup, h, ← heq]
      next hne =>
        by_cases h : e.1 = j
        · have : k ≠ j := fun hk => hne (hk.trans h.symm)
          simp [lookup, h, this]
        · simp [lookup, h, ih]

theorem lookup_filter (p : Octets → Bool) (j : Octets) (es : List (Octets × α)) :
    lookup j (es.filter fun e => p e.1) = if p j then lookup j es else none := by
  induction es with
  | nil => simp [lookup]
  | cons e rest ih =>
    by_cases hp : p e.1
    · rw [List.filter_cons_of_pos (by simpa using hp)]
      by_cases h : e.1 = j
      · subst h; simp [lookup, hp]
      · simp [lookup, h, ih]
    · rw [List.filter_cons_of_neg (by simpa using hp), ih]
      by_cases h : e.1 = j
      · subst h; simp [hp]
      · simp [lookup, h]

@[simp] theorem find?_empty (k : Octets) : (empty : Table α).find? k = none := rfl

theorem find?_insert (t : Table α) (k j : Octets) (a : α) :
    (t.insert k a).find? j = if k = j then some a else t.find? j := lookup_place k j a t.entries

theorem find?_keep (t : Table α) (p : Octets → Bool) (j : Octets) :
    (t.keep p).find? j = if p j then t.find? j else none := lookup_filter p j t.entries

theorem find?_erase (t : Table α) (k j : Octets) :
    (t.erase k).find? j = if k = j then none else t.find? j := by
  rw [erase, find?_keep]
  by_cases h : k = j
  · simp [h]
  · simp [h, Ne.symm h]

theorem lookup_eq_some_iff {k : Octets} {a : α} {es : List (Octets × α)}
    (h : es.Pairwise fun a b => a.1 < b.1) : lookup k es = some a ↔ (k, a) ∈ es := by
  induction es with
  | nil => simp [lookup]
  | cons e rest ih =>
    obtain ⟨he, hr⟩ := List.pairwise_cons.1 h
    by_cases hk : e.1 = k
    · rw [lookup, if_pos hk, List.mem_cons]
      constructor
      · intro ha
        exact .inl (by cases ha; simp [← hk])
      · rintro (ha | ha)
        · simp [← ha]
        · exact absurd (hk ▸ he _ ha) (List.lt_irrefl _)
    · rw [lookup, if_neg hk, ih hr, List.mem_cons]
      constructor
      · exact .inr
      · rintro (ha | ha)
        · exact absurd (by simp [← ha]) hk
        · exact ha

theorem find?_eq_some_iff {t : Table α} {k : Octets} {a : α} :
    t.find? k = some a ↔ (k, a) ∈ t.entries := lookup_eq_some_iff t.sorted

theorem mem_values {t : Table α} {a : α} : a ∈ t.values ↔ ∃ k, t.find? k = some a := by
  simp [values, find?_eq_some_iff]

end Table

end CaseHerald
