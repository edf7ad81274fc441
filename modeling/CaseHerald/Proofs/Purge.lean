import CaseHerald.Proofs.Refinement

/-!
# What a deletion takes

A deletion takes the snapshot of a case and its markers. It finds the markers by what their keys begin
with, the number and a NUL character, and so takes those of every case whose number goes on after that
beginning: `delete_takes` says exactly what is gone and what is left, in memory and on a volume, in every
store that has come about from an empty one. On a volume this is shown through the tables in memory that
it mirrors, which it still does after steps whose keys do not fit.

## Main definitions

* `Backing.Reached b` - `b` is a store that has come about from an empty one.
* `Backing.Keeps b m` - `b` keeps what is in the tables of `m`.
* `Backing.Takes c b b'` - `b'` is `b` without the case `c`, and without the markers that go with it.
-/
namespace CaseHerald

open Text (Octets octets)

namespace Store

/-! ## Deletions in memory -/

namespace Memory

theorem values_delete {s : Memory} (h : s.Filed) (c : String) :
    (s.delete c).snapshots.values = s.snapshots.values.filter fun a => a.number != c := by
  refine Table.values_keep fun k a hk => ?_
  rw [h k a hk, Bool.eq_iff_iff, bne_iff_ne, bne_iff_ne, Ne, octets_inj]

theorem delete_delete (s : Memory) (c : String) : (s.delete c).delete c = s.delete c := by
  simp only [delete, Table.erase, Table.keep_keep]

/-- Nothing is kept for the empty number. -/
def Nameless (s : Memory) : Prop := s.snapshot? "" = none ∧ ∀ t, s.marker? "" t = none

theorem nameless_empty : empty.Nameless := ⟨rfl, fun _ => rfl⟩

/-- Steps whose keys fit keep nothing for the empty number. -/
theorem Nameless.answer {s : Memory} (h : s.Nameless) (g : Guid) {q : Query} (hq : q.Puts → q.Fits) :
    (s.answer g q).2.Nameless := by
  cases q with
  | write r =>
    have hnumber : r.number ≠ "" := by
      intro hempty
      have hleast := (hq trivial (octets r.number) List.mem_cons_self).1
      rw [hempty] at hleast
      exact absurd hleast (by decide)
    simp only [Memory.answer]
    split
    · refine ⟨?_, fun t => ?_⟩
      · rw [snapshot?_write, if_neg hnumber, h.1]
      · rw [marker?_write, if_neg fun hsame => hnumber hsame.1, h.2]
    · exact h
  | delete c =>
    simp only [Memory.answer]
    split
    · refine ⟨?_, fun t => ?_⟩
      · rw [snapshot?_delete, h.1, ite_self]
      · rw [marker?_delete, h.2, ite_self]
    · exact h
  | _ => exact h

end Memory

namespace Volume

/-! ## Deletions on a volume -/

section Delete

variable {v w : Volume} {space : String}

/-- Replacing a table by itself changes nothing. -/
theorem Sound.withTable_table (h : v.Sound space) (kind : Kind) :
    v.withTable space kind (v.table space kind) = v := by
  obtain ⟨t, ht⟩ := Option.isSome_iff_exists.1 (h.opened kind)
  rw [Volume.withTable, table, ht, Option.getD_some, Table.insert_eq_self ht]

/-- A deletion that is made once more finds nothing to take. -/
theorem Sound.delete_delete (h : v.Sound space) {c : String} (hdelete : v.delete space c = .ok w) :
    w.delete space c = .ok w := by
  have hw := (Sound.lasting space).delete h hdelete
  have hkey : octets c ≠ [] := by
    intro hempty
    simp [Volume.delete, remove, hempty, bind, Except.bind] at hdelete
  rw [Volume.delete, remove_eq hkey] at hdelete
  obtain ⟨hsnapshots, hmarkers⟩ :
      w.table space .snapshots = (v.table space .snapshots).erase (octets c) ∧
        w.table space .markers = (v.table space .markers).keep fun key => !isMarkerOf c key := by
    cases hdelete
    simp [table_withTable]
  rw [Volume.delete, remove_eq hkey, hsnapshots, Table.erase, Table.erase, Table.keep_keep,
    ← Table.erase, ← hsnapshots, hw.withTable_table]
  change Except.ok _ = _
  rw [hmarkers, Table.keep_keep, ← hmarkers, hw.withTable_table]

end Delete

/-! ## Other namespaces of the volume -/

/-- The store of the namespace is the same on both volumes. -/
structure Spares (space : String) (v w : Volume) : Prop where
  megabytes : w.megabytes = v.megabytes
  opened : ∀ kind, w.tables.contains (octets (tableName space kind)) =
    v.tables.contains (octets (tableName space kind))
  table : ∀ kind, w.table space kind = v.table space kind

namespace Spares

variable {v w x : Volume} {space other : String}

theorem refl (space : String) (v : Volume) : Spares space v v :=
  ⟨rfl, fun _ => rfl, fun _ => rfl⟩

theorem trans (h : Spares space v w) (h' : Spares space w x) : Spares space v x where
  megabytes := h'.megabytes.trans h.megabytes
  opened kind := (h'.opened kind).trans (h.opened kind)
  table kind := (h'.table kind).trans (h.table kind)

/-- A table whose name is none of the store's is put on the volume. -/
theorem insert {name : String} (t : Table String)
    (hname : ∀ kind, octets name ≠ octets (tableName space kind)) :
    Spares space v { v with tables := v.tables.insert (octets name) t } where
  megabytes := rfl
  opened kind := by rw [Table.contains, Table.contains, Table.find?_insert, if_neg (hname kind)]
  table kind := by rw [Volume.table, Volume.table, Table.find?_insert, if_neg (hname kind)]

theorem withTable (hother : other ≠ space) (kind : Kind) (t : Table String) :
    Spares space v (v.withTable other kind t) :=
  insert t fun _ h => hother (tableName_inj.1 h).1

/-- What is done to the store of one namespace spares that of another. -/
theorem lasting (hother : other ≠ space) (v : Volume) : Lasting other (Spares space v) where
  put h hput := by
    unfold Volume.put at hput
    split at hput
    · cases hput
    · cases hput
      exact h.trans (withTable hother _ _)
  keep h kind p := h.trans (withTable hother kind _)

/-- A table that is added is none of an open store. -/
theorem addTable (hv : v.Sound space) {name : String} (h : v.addTable name = .ok w) :
    Spares space v w := by
  unfold Volume.addTable at h
  split at h
  · cases h
    exact refl space v
  next hnew =>
    split at h
    · cases h
    split at h
    · cases h
    · cases h
      exact insert ∅ fun kind hname => hnew (hname ▸ hv.opened kind)

/-- A store that the other volume has as well is as sound there. -/
theorem sound (h : Spares space v w) (hv : v.Sound space) : w.Sound space where
  plain := hv.plain
  sized := openAgain_congr hv.sized h.megabytes
  opened kind := (h.opened kind).trans (hv.opened kind)
  bounded kind key text hfound := hv.bounded kind key text (h.table kind ▸ hfound)

theorem addStore (hv : v.Sound space) (h : v.addStore other = .ok w) : Spares space v w := by
  obtain ⟨v₁, h₁, h⟩ := exists_of_bind_ok h
  obtain ⟨v₂, h₂, h⟩ := exists_of_bind_ok h
  obtain ⟨v₃, h₃, h₄⟩ := exists_of_bind_ok h
  have hs₁ := addTable hv h₁
  have hs₂ := hs₁.trans (addTable (hs₁.sound hv) h₂)
  have hs₃ := hs₂.trans (addTable (hs₂.sound hv) h₃)
  exact hs₃.trans (addTable (hs₃.sound hv) h₄)

/-- Opening a namespace, be it this one or another, spares an open store. -/
theorem openSpace {megabytes : Nat} (hv : v.Sound space)
    (h : Rehearsal.openSpace (v.openAgain megabytes) other = .ok (.ok (.volume w other))) :
    Spares space v w := by
  cases hagain : v.openAgain megabytes with
  | error f =>
    rw [hagain] at h
    cases h
  | ok v₁ =>
    obtain ⟨rfl, -⟩ := eq_of_openAgain hagain
    rw [hagain, Rehearsal.openSpace] at h
    split at h
    · cases h
    cases hadd : v₁.addStore other with
    | error f =>
      rw [hadd] at h
      cases h
    | ok w₁ =>
      rw [hadd] at h
      obtain rfl : w₁ = w := by cases h; rfl
      exact addStore hv hadd

end Spares

end Volume

/-! ## Mirrors under all steps -/

namespace Mirrors

variable {ρ : Guid → Guid} {space : String} {v w : Volume} {m : Memory}

theorem spares (h : Mirrors ρ space v m) (hw : Volume.Spares space v w) : Mirrors ρ space w m :=
  { h with
    snapshots := (hw.table _).trans h.snapshots
    markers := (hw.table _).trans h.markers
    assets := (hw.table _).trans h.assets
    channels := (hw.table _).trans h.channels }

theorem answer_of_alike {g : Guid} {q : Query} (h : Alike ρ space v m g q) :
    Mirrors ρ space (v.answer (ρ g) space q).2 (m.answer g q).2 := by
  obtain ⟨a, v', m', hstep, hanswer, h'⟩ := h
  rwa [Volume.answer, hstep, hanswer]

/-- Nobody follows a case whose number is too long. -/
theorem followers_eq_empty (h : Mirrors ρ space v m) (hv : v.Sound space) {number : String}
    (hlong : Volume.longestKey < (octets number).length) : m.followers number = ∅ := by
  have hnone : (v.table space .channels).find? (octets number) = none := hv.find?_eq_none hlong
  rw [h.channels, Volume.written, Table.find?_mapValues, Table.find?_mapValues] at hnone
  rw [Memory.followers, Option.map_eq_none_iff.1 (Option.map_eq_none_iff.1 hnone)]
  rfl

/-- A step that leaves the volume as it is leaves what it mirrors. -/
theorem answer_of_same (h : Mirrors ρ space v m) {g : Guid} {q : Query}
    (hsame : ∀ a w, v.step (ρ g) space q = .ok (a, w) → w = v) :
    Mirrors ρ space (v.answer (ρ g) space q).2 m := by
  rw [Volume.answer]
  cases hq : v.step (ρ g) space q with
  | error f => exact h
  | ok r => exact hsame r.1 r.2 hq ▸ h

/-- Letting a channel no longer follow a case whose number does not fit. -/
theorem answer_untrack (h : Mirrors ρ space v m) (hv : v.Sound space) (g : Guid) {channel number : String}
    (hfits : ¬(Query.untrack channel number).Fits) :
    ∃ m', Mirrors ρ space (v.answer (ρ g) space (.untrack channel number)).2 m' ∧
      (m' = m ∨ m' = m.untrack channel number) := by
  by_cases hkey : octets number = []
  · refine ⟨m, h.answer_of_same fun b w hstep => ?_, .inl rfl⟩
    obtain ⟨before, hbefore, -⟩ := Volume.exists_of_bind_ok hstep
    rw [Volume.followers, Volume.getValue, Volume.get, if_pos (by simp [hkey])] at hbefore
    cases hbefore
  · have hlong : Volume.longestKey < (octets number).length := by
      refine Nat.not_le.1 fun hmost => hfits fun k hk => ?_
      rw [List.mem_singleton.1 hk]
      exact ⟨List.length_pos_of_ne_nil hkey, hmost⟩
    obtain ⟨v', huntrack, h'⟩ := h.exists_untrack channel hkey fun hold => by
      rw [h.followers_eq_empty hv hlong] at hold
      cases hold
    refine ⟨m.untrack channel number, ?_, .inr rfl⟩
    rw [Volume.answer, Volume.step, huntrack]
    exact h'

/-- A step that only looks or removes, with keys that do not fit, does what it does in memory or
nothing. -/
theorem answer_unfit (h : Mirrors ρ space v m) (hv : v.Sound space) (g : Guid) {q : Query}
    (hfits : ¬q.Fits) (hputs : ¬q.Puts) :
    ∃ m', Mirrors ρ space (v.answer (ρ g) space q).2 m' ∧ (m' = m ∨ m' = (m.answer g q).2) := by
  have hnone {key : Octets} (kind : Volume.Kind) (hkey : key = []) :
      v.remove space kind key = .error (.transaction Volume.badSize) := by
    rw [hkey]
    rfl
  cases q with
  | list | firstWriter | assets | channels =>
    refine ⟨m, h.answer_of_same fun a w hstep => ?_, .inl rfl⟩
    obtain ⟨_, -, hstep⟩ := Volume.exists_of_bind_ok hstep
    cases hstep
    rfl
  | write | upsertAsset | track => exact absurd trivial hputs
  | delete number =>
    by_cases hkey : octets number = []
    · refine ⟨m, h.answer_of_same fun a w hstep => ?_, .inl rfl⟩
      rw [Volume.step, Volume.delete, hnone _ hkey] at hstep
      cases hstep
    · obtain ⟨v', hdelete, h'⟩ := h.exists_delete hkey
      refine ⟨m.delete number, ?_, .inr ?_⟩
      · rw [Volume.answer, Volume.step, hdelete]
        exact h'
      · rw [Memory.answer, if_pos h.writable]
  | removeAsset a =>
    by_cases hkey : octets a.key = []
    · refine ⟨m, h.answer_of_same fun b w hstep => ?_, .inl rfl⟩
      rw [Volume.step, hnone _ hkey] at hstep
      cases hstep
    · exact ⟨_, answer_of_alike (h.removeAsset g hkey), .inr rfl⟩
  | untrack channel number => exact h.answer_untrack hv g hfits

/-- **After any step a volume still mirrors tables in memory**: those that the same step leaves there, or
those from before, if its keys do not fit. -/
theorem answer (h : Mirrors ρ space v m) (hv : v.Sound space) (g : Guid) (q : Query) :
    ∃ m', Mirrors ρ space (v.answer (ρ g) space q).2 m' ∧
      (m' = m ∧ ¬q.Fits ∨ m' = (m.answer g q).2 ∧ (q.Puts → q.Fits)) := by
  by_cases hfits : q.Fits
  · exact ⟨_, answer_of_alike (h.alike g hfits), .inr ⟨rfl, fun _ => hfits⟩⟩
  by_cases hputs : q.Puts
  · rw [hv.refuses (ρ g) hputs hfits]
    exact ⟨m, h, .inl ⟨rfl, hfits⟩⟩
  obtain ⟨m', h', hm⟩ := h.answer_unfit hv g hfits hputs
  exact ⟨m', h', hm.imp (fun hm => ⟨hm, hfits⟩) fun hm => ⟨hm, (absurd · hputs)⟩⟩

end Mirrors

end Store

namespace Rehearsal.Backing

open Store (Memory Volume Query Prolongs Mirrors)

/-! ## Stores that are reached -/

/-- The stores that come about from an empty one. A volume may hold other namespaces beside that of the
store. -/
inductive Reached : Backing → Prop
  /-- an empty store in memory -/
  | empty : Reached (.memory .empty)
  /-- a store on a volume that is opened for the first time -/
  | opened {v₀ v : Volume} {space : String} {megabytes : Nat}
      (hopen : openSpace (v₀.openAgain megabytes) space = .ok (.ok (.volume v space)))
      (hvacant : ∀ kind, v.table space kind = ∅) : Reached (.volume v space)
  /-- a step on the store -/
  | ask {b : Backing} (h : Reached b) (fresh : Guid) (q : Query) : Reached (b.answer fresh q).2
  /-- writing is allowed in memory, or no longer -/
  | switch {m : Memory} (h : Reached (.memory m)) (writable : Bool) :
      Reached (.memory { m with writable })
  /-- a namespace of the volume is opened, maybe that of the store once more -/
  | reopened {v w : Volume} {space other : String} {megabytes : Nat} (h : Reached (.volume v space))
      (hopen : openSpace (v.openAgain megabytes) other = .ok (.ok (.volume w other))) :
      Reached (.volume w space)
  /-- a step on the store of another namespace -/
  | elsewhere {v : Volume} {space other : String} (h : Reached (.volume v space))
      (hother : other ≠ space) (fresh : Guid) (q : Query) :
      Reached (.volume (v.answer fresh other q).2 space)

/-- The store keeps what is in the tables. -/
inductive Keeps : Backing → Memory → Prop
  | memory {m : Memory} (filed : m.Filed) : Keeps (.memory m) m
  | volume {v : Volume} {space : String} {m : Memory} (mirrors : Mirrors id space v m)
      (sound : v.Sound space) (filed : m.Filed) (nameless : m.Nameless) : Keeps (.volume v space) m

theorem Keeps.answer {b : Backing} {m : Memory} (h : b.Keeps m) (g : Guid) (q : Query) :
    ∃ m', (b.answer g q).2.Keeps m' ∧ (q.Fits → m' = (m.answer g q).2) := by
  cases h with
  | memory filed => exact ⟨_, .memory (filed.answer g q), fun _ => rfl⟩
  | volume mirrors sound filed nameless =>
    have sound' := (Volume.Sound.lasting _).answer sound g q
    obtain ⟨m', mirrors', ⟨rfl, hunfit⟩ | ⟨rfl, hputs⟩⟩ := mirrors.answer sound g q
    · exact ⟨_, .volume mirrors' sound' filed nameless, (absurd · hunfit)⟩
    · exact ⟨_, .volume mirrors' sound' (filed.answer g q) (nameless.answer g hputs), fun _ => rfl⟩

theorem Keeps.spares {v w : Volume} {space : String} {m : Memory} (h : Keeps (.volume v space) m)
    (hw : v.Sound space → Volume.Spares space v w) : Keeps (.volume w space) m := by
  cases h with
  | volume mirrors sound filed nameless =>
    exact .volume (mirrors.spares (hw sound)) ((hw sound).sound sound) filed nameless

/-- **A store that is reached keeps tables with every snapshot under its number.** -/
theorem Reached.keeps {b : Backing} (h : b.Reached) : ∃ m, b.Keeps m := by
  induction h with
  | empty => exact ⟨_, .memory Memory.filed_empty⟩
  | opened hopen hvacant =>
    exact ⟨.empty, .volume (.vacant hvacant) (.of_opened hopen hvacant) Memory.filed_empty
      Memory.nameless_empty⟩
  | ask _ g q ih =>
    obtain ⟨m, hm⟩ := ih
    exact (hm.answer g q).imp fun _ h => h.1
  | switch _ writable ih =>
    obtain ⟨m, ⟨filed⟩⟩ := ih
    exact ⟨_, .memory filed⟩
  | reopened _ hopen ih =>
    obtain ⟨m, hm⟩ := ih
    exact ⟨m, hm.spares fun hv => .openSpace hv hopen⟩
  | elsewhere _ hother g q ih =>
    obtain ⟨m, hm⟩ := ih
    exact ⟨m, hm.spares fun _ => (Volume.Spares.lasting hother _).answer (.refl _ _) g q⟩

/-! ## The law of deletions -/

/-- The snapshots of all cases. -/
def snapshots (b : Backing) : Except StoreFailure (List Snapshot) := (b.answer (.ofNat 0) .list).1

/-- The marker of a version of a case. -/
def marker (b : Backing) (number : String) (updated : Instant) : Except StoreFailure (Option Marker) :=
  (b.answer (.ofNat 0) (.firstWriter number updated)).1

/-- What is left of a store when a case is deleted. -/
structure Takes (c : String) (b b' : Backing) : Prop where
  /-- the snapshot of the case goes, and no other -/
  snapshots : ∃ l, b.snapshots = .ok l ∧ b'.snapshots = .ok (l.filter fun a => a.number != c)
  /-- the markers of the case go, and those of the cases whose numbers prolong its own -/
  marker : ∀ d t, b'.marker d t = if d = c ∨ Prolongs d c then .ok none else b.marker d t
  /-- nothing more goes when the case is deleted again -/
  again : ∀ g, b'.answer g (.delete c) = (.ok (), b')

/-- Why a store does not delete a case, and with what it fails. -/
inductive Refuses (c : String) : Backing → StoreFailure → Prop
  | unwritable {m : Memory} (h : m.writable = false) : Refuses c (.memory m) Memory.writesDisabled
  /-- a volume has no empty keys, so that there is nothing to delete -/
  | nameless {v : Volume} {space : String} (empty : c = "")
      (snapshots : ∃ l, (Backing.volume v space).snapshots = .ok l ∧ ∀ a ∈ l, a.number ≠ c)
      (marker : ∀ t, (Backing.volume v space).marker c t = .ok none) :
      Refuses c (.volume v space) (.transaction Volume.badSize)

namespace Keeps

variable {b b' : Backing} {m : Memory} {c : String}

theorem snapshots (h : b.Keeps m) : b.snapshots = .ok m.snapshots.values := by
  cases h with
  | memory => rfl
  | volume mirrors =>
    obtain ⟨a, v', m', hstep, hanswer, -⟩ := mirrors.list (.ofNat 0)
    cases hanswer
    have hsame : Query.rename id .list m.snapshots.values = m.snapshots.values := List.map_id _
    rw [id, hsame] at hstep
    rw [Backing.snapshots, Backing.answer, Volume.answer, hstep]
    rfl

theorem marker (h : b.Keeps m) (d : String) (t : Instant) : b.marker d t = .ok (m.marker? d t) := by
  cases h with
  | memory => rfl
  | volume mirrors =>
    have hkey : Store.markerKey d t ≠ [] := by simp [Store.markerKey_eq, Store.markerFront]
    obtain ⟨a, v', m', hstep, hanswer, -⟩ := mirrors.firstWriter (.ofNat 0) hkey
    cases hanswer
    have hsame : Query.rename id (.firstWriter d t) (m.marker? d t) = m.marker? d t :=
      congrFun Option.map_id _
    rw [Memory.marker?] at hsame
    rw [id, hsame] at hstep
    rw [Backing.marker, Backing.answer, Volume.answer, hstep]
    rfl

theorem takes (h : b.Keeps m) (h' : b'.Keeps (m.delete c)) (filed : m.Filed)
    (again : ∀ g, b'.answer g (.delete c) = (.ok (), b')) : Takes c b b' where
  snapshots := ⟨_, h.snapshots, by rw [h'.snapshots, Memory.values_delete filed]⟩
  marker d t := by
    rw [h'.marker, h.marker, Memory.marker?_delete]
    simp only [eq_comm (a := c)]
    split <;> rfl
  again := again

/-- A case is deleted in memory, unless writing is disabled. -/
theorem delete_memory (filed : m.Filed) (g : Guid) (c : String) :
    (∃ b', (Backing.memory m).answer g (.delete c) = (.ok (), b') ∧ Takes c (.memory m) b') ∨
      ∃ f, (Backing.memory m).answer g (.delete c) = (.error f, .memory m) ∧
        Refuses c (.memory m) f := by
  cases hwritable : m.writable with
  | true =>
    have hdelete (s : Memory) (hs : s.writable = true) (g : Guid) :
        (Backing.memory s).answer g (.delete c) = (.ok (), .memory (s.delete c)) := by
      simp [Backing.answer, Memory.answer, hs]
    refine .inl ⟨_, hdelete m hwritable g, ?_⟩
    refine (Keeps.memory filed).takes (.memory (filed.delete c)) filed fun g => ?_
    have hagain := hdelete (m.delete c) hwritable g
    rwa [Memory.delete_delete] at hagain
  | false =>
    exact .inr ⟨_, by simp [Backing.answer, Memory.answer, hwritable], .unwritable hwritable⟩

/-- On a volume nothing is deleted for the empty number, for which nothing is kept. -/
theorem refuses_nameless {v : Volume} {space : String} (h : Keeps (.volume v space) m) (filed : m.Filed)
    (nameless : m.Nameless) : Refuses "" (.volume v space) (.transaction Volume.badSize) := by
  refine .nameless rfl ⟨_, h.snapshots, fun a ha hnumber => ?_⟩ fun t => ?_
  · rw [Memory.mem_values_iff filed, hnumber, nameless.1] at ha
    cases ha
  · rw [h.marker, nameless.2]

/-- A case is deleted, unless the store refuses to. -/
theorem delete (h : b.Keeps m) (g : Guid) (c : String) :
    (∃ b', b.answer g (.delete c) = (.ok (), b') ∧ Takes c b b') ∨
      ∃ f, b.answer g (.delete c) = (.error f, b) ∧ Refuses c b f := by
  cases h with
  | memory filed => exact delete_memory filed g c
  | @volume v space _ mirrors sound filed nameless =>
    have hkeeps := Keeps.volume mirrors sound filed nameless
    by_cases hkey : octets c = []
    · obtain rfl : c = "" := octets_inj.1 hkey
      exact .inr ⟨.transaction Volume.badSize, rfl, hkeeps.refuses_nameless filed nameless⟩
    · obtain ⟨v', hdelete, mirrors'⟩ := mirrors.exists_delete hkey
      have hanswer (u : Volume) (hu : u.delete space c = .ok v') (g : Guid) :
          (Backing.volume u space).answer g (.delete c) = (.ok (), .volume v' space) := by
        rw [Backing.answer, Volume.answer, Volume.step, hu]
        rfl
      have nameless' : (m.delete c).Nameless := by
        have h := nameless.answer g (q := .delete c) fun hputs => hputs.elim
        rwa [Memory.answer, if_pos mirrors.writable] at h
      have sound' := (Volume.Sound.lasting space).delete sound hdelete
      refine .inl ⟨_, hanswer v hdelete g, ?_⟩
      exact hkeeps.takes (.volume mirrors' sound' (filed.delete c) nameless') filed
        (hanswer v' (sound.delete_delete hdelete))

end Keeps

/-- A deletion spares the markers of another case just if there are none of it or its number does not
prolong that of the deleted one. -/
theorem Takes.spares_iff {c d : String} {b b' : Backing} (h : Takes c b b') (hd : d ≠ c) :
    (∀ t, b'.marker d t = b.marker d t) ↔ ¬Prolongs d c ∨ ∀ t, b.marker d t = .ok none := by
  simp only [h.marker, hd, false_or]
  by_cases hprolongs : Prolongs d c
  · simp [hprolongs, eq_comm]
  · simp [hprolongs]

/-- **What a deletion takes from a store.** -/
theorem delete_takes {b : Backing} (h : b.Reached) (g : Guid) (c : String) :
    (∃ b', b.answer g (.delete c) = (.ok (), b') ∧ Takes c b b' ∧ ∀ d, d ≠ c →
      ((∀ t, b'.marker d t = b.marker d t) ↔ ¬Prolongs d c ∨ ∀ t, b.marker d t = .ok none)) ∨
    ∃ f, b.answer g (.delete c) = (.error f, b) ∧ Refuses c b f := by
  obtain ⟨m, hm⟩ := h.keeps
  refine (hm.delete g c).imp_left fun ⟨b', hanswer, htakes⟩ => ?_
  exact ⟨b', hanswer, htakes, fun d hd => htakes.spares_iff hd⟩

/-- A store on a volume with the cases `1` and `10`. -/
def twoKept : Backing :=
  (((Backing.volume Store.blankVolume "ns").answer (.ofNat 1) (.write (Store.plainRecord "1"))).2.answer
    (.ofNat 2) (.write (Store.plainRecord "10"))).2

theorem delete_takes_first :
    twoKept.Reached ∧ ∃ b', twoKept.answer (.ofNat 3) (.delete "1") = (.ok (), b') ∧
      Takes "1" twoKept b' ∧ ∀ t, b'.marker "10" t = twoKept.marker "10" t := by
  have hreached : twoKept.Reached :=
    ((Reached.opened Store.openSpace_blankVolume Store.vacant_blankVolume).ask _ _).ask _ _
  refine ⟨hreached, ?_⟩
  rcases delete_takes hreached (.ofNat 3) "1" with ⟨b', hanswer, htakes, hspares⟩ | ⟨f, -, hrefuses⟩
  · exact ⟨b', hanswer, htakes, (hspares "10" (by decide)).2 (.inl (by decide))⟩
  · cases hrefuses with
    | nameless hempty => exact absurd hempty (by decide)

/-- Stores that keep the case with a number that prolongs `1`. -/
def prolonged : List Backing :=
  [Backing.memory .empty, .volume Store.blankVolume "ns"].map fun b =>
    (b.answer (.ofNat 1) (.write (Store.plainRecord "1\x00x"))).2

theorem delete_takes_prolonged :
    "1\x00x" ≠ "1" ∧ ∀ b ∈ prolonged, b.Reached ∧
      b.marker "1\x00x" .closingMark = .ok (some ⟨.ofNat 1, Store.plainRecord "1\x00x"⟩) ∧
      ∃ b', b.answer (.ofNat 2) (.delete "1") = (.ok (), b') ∧
        b'.marker "1\x00x" .closingMark = .ok none := by
  refine ⟨by decide, fun b hb => ?_⟩
  obtain ⟨start, hmem, rfl⟩ := List.mem_map.1 hb
  have hstart : start.Reached ∧ start.Keeps .empty := by
    rcases List.mem_pair.1 hmem with rfl | rfl
    · exact ⟨.empty, .memory Memory.filed_empty⟩
    · have hopen := Store.openSpace_blankVolume
      have hvacant := Store.vacant_blankVolume
      exact ⟨.opened hopen hvacant, .volume (.vacant hvacant) (.of_opened hopen hvacant)
        Memory.filed_empty Memory.nameless_empty⟩
  obtain ⟨m, hm, hwritten⟩ := hstart.2.answer (.ofNat 1) (.write (Store.plainRecord "1\x00x"))
  refine ⟨hstart.1.ask _ _, ?_, ?_⟩
  · rw [hm.marker, hwritten (by decide +kernel)]
    rfl
  · rcases hm.delete (.ofNat 2) "1" with ⟨b', hanswer, htakes⟩ | ⟨f, -, hrefuses⟩
    · exact ⟨b', hanswer, by rw [htakes.marker, if_pos (.inr (by decide))]⟩
    · rcases List.mem_pair.1 hmem with rfl | rfl
      · cases hrefuses with
        | unwritable h => cases h
      · cases hrefuses with
        | nameless hempty => exact absurd hempty (by decide)

end Rehearsal.Backing

end CaseHerald
