import CaseHerald.Proofs.Mirror
import CaseHerald.Proofs.Store
import CaseHerald.Rehearsal.Session

/-!
# A store on a volume refines the one in memory

Whatever is asked of an empty store on a volume, and however often it is closed and opened again in
between, it answers like a store in memory, as long as the keys fit: `volume_refines_memory`. A step that
would keep something under a key that does not fit fails and leaves the volume as it is. For that the
volume never has a key that is too long, which `Volume.Sound` says and every step preserves.

## Main definitions

* `Act` - a step on a store, or the store is closed and opened again.
* `Memory.replies`, `Volume.perform?` - what a list of acts is answered with.
* `Volume.Sound v space` - the store of the namespace is open and has no key that is too long.
-/
namespace CaseHerald.Store

open Rehearsal (openSpace)
open Text (Octets octets)

/-- The key of a marker is as much longer than the number as that of a marker without number. -/
theorem length_markerKey (number : String) (t : Instant) :
    (markerKey number t).length = (octets number).length + (markerKey "" t).length := by
  have hblank : octets "" = [] := rfl
  rw [markerKey_eq, markerKey_eq, markerFront, markerFront, hblank, List.append_assoc,
    List.length_append, List.nil_append]

/-! ## Acts -/

/-- Something that is done with a store. -/
inductive Act
  /-- a step, with the token in case that it writes -/
  | ask (fresh : Guid) (q : Query)
  /-- the store is closed and opened again -/
  | reopen

namespace Act

/-- The act with another token. -/
def rename (ρ : Guid → Guid) : Act → Act
  | .ask fresh q => .ask (ρ fresh) q
  | .reopen => .reopen

/-- A volume can have every key that the act is about. -/
def Fits : Act → Prop
  | .ask _ q => q.Fits
  | .reopen => True

instance : (a : Act) → Decidable a.Fits
  | .ask _ q => inferInstanceAs (Decidable q.Fits)
  | .reopen => .isTrue trivial

end Act

/-- The answer to a step. -/
structure Reply where
  query : Query
  answer : Except StoreFailure query.Answer

/-- The answer with other tokens. -/
def Reply.rename (ρ : Guid → Guid) (r : Reply) : Reply := ⟨r.query, r.answer.map (r.query.rename ρ)⟩

/-- What a store in memory answers. It stays open. -/
def Memory.replies : List Act → Memory → List Reply
  | [], _ => []
  | .ask fresh q :: acts, m => ⟨q, (m.answer fresh q).1⟩ :: replies acts (m.answer fresh q).2
  | .reopen :: acts, m => replies acts m

/-- The step would keep something. -/
def Query.Puts : Query → Prop
  | .write _ | .upsertAsset _ | .track .. => True
  | _ => False

namespace Volume

/-- The store of the namespace after it was closed and opened again, if it can be. -/
def reopen? (v : Volume) (space : String) : Option Volume :=
  match openSpace (v.openAgain v.megabytes) space with
  | .ok (.ok (.volume v _)) => some v
  | _ => none

/-- What the store of the namespace answers, and the volume after that. -/
def perform? (space : String) : List Act → Volume → Option (List Reply × Volume)
  | [], v => some ([], v)
  | .ask fresh q :: acts, v =>
    (perform? space acts (v.answer fresh space q).2).map fun r =>
      (⟨q, (v.answer fresh space q).1⟩ :: r.1, r.2)
  | .reopen :: acts, v => (v.reopen? space).bind (perform? space acts)

/-! ## What lasts through every step -/

/-- What a computation does first, if it succeeds. -/
theorem exists_of_bind_ok {α β : Type} {x : Except VolumeFailure α}
    {f : α → Except VolumeFailure β} {b : β} (h : (x >>= f) = .ok b) :
    ∃ a, x = .ok a ∧ f a = .ok b := by
  cases x with
  | error e => cases h
  | ok a => exact ⟨a, rfl, h⟩

/-- What holds of a volume lasts if it outlives every text that is put into a table of the namespace
and every key that is taken from one. -/
structure Lasting (space : String) (P : Volume → Prop) : Prop where
  put : ∀ {v w : Volume} {kind : Kind} {key : Octets} {text : String}, P v →
    v.put space kind key text = .ok w → P w
  keep : ∀ {v : Volume}, P v → ∀ (kind : Kind) (p : Octets → Bool),
    P (v.withTable space kind ((v.table space kind).keep p))

namespace Lasting

variable {space : String} {P : Volume → Prop} {v w : Volume}

theorem remove (hP : Lasting space P) (h : P v) {kind : Kind} {key : Octets} {b : Bool}
    (hremove : v.remove space kind key = .ok (b, w)) : P w := by
  unfold Volume.remove at hremove
  split at hremove
  · cases hremove
  · cases hremove
    exact hP.keep h kind _

theorem write (hP : Lasting space P) (h : P v) {g : Guid} {r : CaseRecord}
    (hwrite : v.write space g r = .ok w) : P w := by
  obtain ⟨v₁, hput, hwrite⟩ := exists_of_bind_ok hwrite
  obtain ⟨found, -, hwrite⟩ := exists_of_bind_ok hwrite
  have h₁ := hP.put h hput
  cases found with
  | some text =>
    cases hwrite
    exact h₁
  | none => exact hP.put h₁ hwrite

theorem delete (hP : Lasting space P) (h : P v) {number : String}
    (hdelete : v.delete space number = .ok w) : P w := by
  obtain ⟨⟨b, v₁⟩, hremove, hdelete⟩ := exists_of_bind_ok hdelete
  cases hdelete
  exact hP.keep (hP.remove h hremove) .markers _

theorem track (hP : Lasting space P) (h : P v) {channel number : String}
    (htrack : v.track space channel number = .ok w) : P w := by
  obtain ⟨channels, -, htrack⟩ := exists_of_bind_ok htrack
  split at htrack
  · cases htrack
    exact h
  · exact hP.put h htrack

theorem untrack (hP : Lasting space P) (h : P v) {channel number : String} {b : Bool}
    (huntrack : v.untrack space channel number = .ok (b, w)) : P w := by
  obtain ⟨before, -, huntrack⟩ := exists_of_bind_ok huntrack
  simp only at huntrack
  split at huntrack
  · obtain ⟨⟨c, v₁⟩, hremove, huntrack⟩ := exists_of_bind_ok huntrack
    cases huntrack
    exact hP.remove h hremove
  split at huntrack
  · obtain ⟨v₁, hput, huntrack⟩ := exists_of_bind_ok huntrack
    cases huntrack
    exact hP.put h hput
  · cases huntrack
    exact h

theorem step (hP : Lasting space P) (h : P v) {g : Guid} {q : Query} {a : q.Answer}
    (hstep : v.step g space q = .ok (a, w)) : P w := by
  cases q with
  | list | firstWriter | assets | channels =>
    obtain ⟨_, -, hstep⟩ := exists_of_bind_ok hstep
    cases hstep
    exact h
  | write r =>
    obtain ⟨v₁, hwrite, hstep⟩ := exists_of_bind_ok hstep
    cases hstep
    exact hP.write h hwrite
  | delete number =>
    obtain ⟨v₁, hdelete, hstep⟩ := exists_of_bind_ok hstep
    cases hstep
    exact hP.delete h hdelete
  | upsertAsset a =>
    obtain ⟨v₁, hput, hstep⟩ := exists_of_bind_ok hstep
    cases hstep
    exact hP.put h hput
  | removeAsset a => exact hP.remove h hstep
  | track channel number =>
    obtain ⟨v₁, htrack, hstep⟩ := exists_of_bind_ok hstep
    cases hstep
    exact hP.track h htrack
  | untrack channel number => exact hP.untrack h hstep

theorem answer (hP : Lasting space P) (h : P v) (g : Guid) (q : Query) :
    P (v.answer g space q).2 := by
  unfold Volume.answer
  split
  next hstep => exact hP.step h hstep
  · exact h

end Lasting

/-! ## Sound volumes -/

/-- The store of the namespace is open and has no key that is too long. -/
structure Sound (v : Volume) (space : String) : Prop where
  plain : space.contains '\x00' = false
  sized : v.openAgain v.megabytes = .ok v
  opened : ∀ kind, v.tables.contains (octets (tableName space kind)) = true
  bounded : ∀ kind key text, (v.table space kind).find? key = some text → key.length ≤ longestKey

/-- A volume is opened once more as it is, and can be so again. -/
theorem eq_of_openAgain {v₀ v : Volume} {megabytes : Nat} (h : v₀.openAgain megabytes = .ok v) :
    v = v₀ ∧ megabytes = v.megabytes := by
  unfold openAgain at h
  split at h
  · cases h
  split at h
  next hsame =>
    cases h
    exact ⟨rfl, hsame⟩
  · cases h

theorem openAgain_congr {v w : Volume} (h : v.openAgain v.megabytes = .ok v)
    (hsize : w.megabytes = v.megabytes) : w.openAgain w.megabytes = .ok w := by
  unfold openAgain at h ⊢
  split at h
  · cases h
  next hrange => rw [hsize, if_neg hrange, if_pos rfl]

theorem addTable_eq_self {v : Volume} {name : String} (h : v.tables.contains (octets name) = true) :
    v.addTable name = .ok v := if_pos h

/-- A table that is added is there, and no other goes. -/
theorem contains_of_addTable {v w : Volume} {name : String} (h : v.addTable name = .ok w) :
    w.megabytes = v.megabytes ∧ w.tables.contains (octets name) = true ∧
      ∀ k, v.tables.contains k = true → w.tables.contains k = true := by
  unfold addTable at h
  split at h
  next hold =>
    cases h
    exact ⟨rfl, hold, fun _ hk => hk⟩
  split at h
  · cases h
  split at h
  · cases h
  · cases h
    refine ⟨rfl, by simp [Table.contains, Table.find?_insert], fun k hk => ?_⟩
    simp only [Table.contains, Table.find?_insert] at hk ⊢
    split
    · rfl
    · exact hk

/-- A store that is added has its four tables. -/
theorem contains_of_addStore {v w : Volume} {space : String} (h : v.addStore space = .ok w) :
    w.megabytes = v.megabytes ∧
      ∀ kind, w.tables.contains (octets (tableName space kind)) = true := by
  obtain ⟨v₁, h₁, h⟩ := exists_of_bind_ok h
  obtain ⟨v₂, h₂, h⟩ := exists_of_bind_ok h
  obtain ⟨v₃, h₃, h₄⟩ := exists_of_bind_ok h
  obtain ⟨hsize₁, hsnapshots, -⟩ := contains_of_addTable h₁
  obtain ⟨hsize₂, hmarkers, hkeep₂⟩ := contains_of_addTable h₂
  obtain ⟨hsize₃, hassets, hkeep₃⟩ := contains_of_addTable h₃
  obtain ⟨hsize₄, hchannels, hkeep₄⟩ := contains_of_addTable h₄
  refine ⟨by rw [hsize₄, hsize₃, hsize₂, hsize₁], fun kind => ?_⟩
  cases kind with
  | snapshots => exact hkeep₄ _ (hkeep₃ _ (hkeep₂ _ hsnapshots))
  | markers => exact hkeep₄ _ (hkeep₃ _ hmarkers)
  | assets => exact hkeep₄ _ hassets
  | channels => exact hchannels

/-- Opening a store that is there leaves the volume as it is. -/
theorem addStore_eq_self {v : Volume} {space : String}
    (h : ∀ kind, v.tables.contains (octets (tableName space kind)) = true) :
    v.addStore space = .ok v := by
  simp only [addStore, addTable_eq_self (h _), bind, Except.bind]

namespace Sound

variable {v : Volume} {space : String}

/-- An empty store that has been opened is sound. -/
theorem of_opened {v₀ : Volume} {megabytes : Nat}
    (hopen : openSpace (v₀.openAgain megabytes) space = .ok (.ok (.volume v space)))
    (hvacant : ∀ kind, v.table space kind = ∅) : v.Sound space := by
  cases hagain : v₀.openAgain megabytes with
  | error f =>
    rw [hagain] at hopen
    cases hopen
  | ok v₁ =>
    obtain ⟨rfl, hsize⟩ := eq_of_openAgain hagain
    rw [hagain, openSpace] at hopen
    split at hopen
    · cases hopen
    next hplain =>
      cases hadd : v₁.addStore space with
      | error f =>
        rw [hadd] at hopen
        cases hopen
      | ok w =>
        rw [hadd] at hopen
        obtain rfl : w = v := by cases hopen; rfl
        obtain ⟨hsame, hopened⟩ := contains_of_addStore hadd
        refine ⟨by simpa using hplain, openAgain_congr (hsize ▸ hagain) hsame, hopened, ?_⟩
        intro kind key text hfound
        rw [hvacant kind] at hfound
        cases hfound

/-- A store that is closed is opened again as it was. -/
theorem reopen?_eq_some (h : v.Sound space) : v.reopen? space = some v := by
  simp only [reopen?, h.sized, openSpace, h.plain, addStore_eq_self h.opened]
  rfl

/-- Replacing a table by one without long keys leaves the volume sound. -/
theorem withTable (h : v.Sound space) {kind : Kind} {t : Table String}
    (ht : ∀ key text, t.find? key = some text → key.length ≤ longestKey) :
    (v.withTable space kind t).Sound space where
  plain := h.plain
  sized := openAgain_congr h.sized rfl
  opened k := by
    have hk := h.opened k
    simp only [Table.contains, Volume.withTable, Table.find?_insert] at hk ⊢
    split
    · rfl
    · exact hk
  bounded k key text hfound := by
    rw [table_withTable] at hfound
    split at hfound
    · exact ht key text hfound
    · exact h.bounded k key text hfound

theorem put (h : v.Sound space) {kind : Kind} {key : Octets} {text : String} {w : Volume}
    (hput : v.put space kind key text = .ok w) : w.Sound space := by
  unfold Volume.put at hput
  split at hput
  · cases hput
  next hfits =>
    cases hput
    refine h.withTable fun k s hfound => ?_
    rw [Table.find?_insert] at hfound
    split at hfound
    next hk => rw [← hk]; omega
    · exact h.bounded kind k s hfound

theorem keep (h : v.Sound space) (kind : Kind) (p : Octets → Bool) :
    (v.withTable space kind ((v.table space kind).keep p)).Sound space := by
  refine h.withTable fun k s hfound => ?_
  rw [Table.find?_keep] at hfound
  split at hfound
  · exact h.bounded kind k s hfound
  · cases hfound

/-- Every step leaves a volume sound. -/
theorem lasting (space : String) : Lasting space fun v => v.Sound space where
  put h hput := h.put hput
  keep h kind p := h.keep kind p

/-- Every list of acts can be performed. -/
theorem exists_perform (h : v.Sound space) (acts : List Act) :
    ∃ replies w, perform? space acts v = some (replies, w) ∧ w.Sound space := by
  induction acts generalizing v with
  | nil => exact ⟨[], v, rfl, h⟩
  | cons act acts ih =>
    cases act with
    | ask g q =>
      obtain ⟨replies, w, hperform, hw⟩ := ih ((lasting space).answer h g q)
      exact ⟨_, w, by rw [perform?, hperform]; rfl, hw⟩
    | reopen =>
      obtain ⟨replies, w, hperform, hw⟩ := ih h
      exact ⟨replies, w, by rw [perform?, h.reopen?_eq_some]; exact hperform, hw⟩

/-! ### Keys that do not fit -/

theorem find?_eq_none (h : v.Sound space) {kind : Kind} {key : Octets} (hlong : longestKey < key.length) :
    (v.table space kind).find? key = none := by
  cases hfound : (v.table space kind).find? key with
  | none => rfl
  | some text =>
    have hshort := h.bounded kind key text hfound
    omega

theorem refuses_write (h : v.Sound space) (g : Guid) {r : CaseRecord} (hunfit : ¬(Query.write r).Fits) :
    v.write space g r = .error (.transaction badSize) := by
  by_cases hnumber : 1 ≤ (octets r.number).length ∧ (octets r.number).length ≤ longestKey
  · -- the snapshot is put before the marker is refused
    have hlong : longestKey < (markerKey r.number r.updated).length := by
      refine Nat.not_le.1 fun hshort => hunfit fun k hk => ?_
      simp only [Query.keys, List.mem_cons, List.not_mem_nil, or_false] at hk
      rcases hk with rfl | rfl
      · exact hnumber
      · refine ⟨?_, hshort⟩
        rw [length_markerKey]
        omega
    have hget : (v.withTable space .snapshots ((v.table space .snapshots).insert (octets r.number)
        (Snapshot.toJson ⟨r, g⟩).render)).get space .markers (markerKey r.number r.updated) =
        .ok none := by
      rw [get_eq (List.ne_nil_of_length_pos (by omega)), table_withTable, if_neg (by decide),
        h.find?_eq_none hlong]
    simp only [Volume.write, put_eq hnumber.1 hnumber.2, bind, Except.bind, hget]
    exact put_eq_error (by omega)
  · simp only [Volume.write, put_eq_error hnumber, bind, Except.bind]

theorem refuses_track (h : v.Sound space) (channel : String) {number : String}
    (hunfit : ¬(1 ≤ (octets number).length ∧ (octets number).length ≤ longestKey)) :
    v.track space channel number = .error (.transaction badSize) := by
  by_cases hempty : octets number = []
  · simp [Volume.track, Volume.followers, getValue, Volume.get, hempty, bind, Except.bind]
  · have hpos := List.length_pos_of_ne_nil hempty
    have hnobody : v.followers space number = .ok [] := by
      simp only [Volume.followers, getValue, get_eq hempty, bind, Except.bind,
        h.find?_eq_none (show longestKey < (octets number).length by omega)]
      rfl
    simp only [Volume.track, hnobody, bind, Except.bind]
    exact put_eq_error hunfit

/-- Nothing is kept under a key that does not fit, and the step that would do so changes nothing. -/
theorem refuses (h : v.Sound space) (g : Guid) {q : Query} (hputs : q.Puts) (hunfit : ¬q.Fits) :
    v.answer g space q = (.error (.transaction badSize), v) := by
  have hstep : v.step g space q = .error (.transaction badSize) := by
    cases q with
    | write r =>
      rw [Volume.step, h.refuses_write g hunfit]
      rfl
    | upsertAsset a =>
      rw [Volume.step, put_eq_error fun hfits => hunfit fun k hk => ?_]
      · rfl
      · rwa [List.mem_singleton.1 hk]
    | track channel number =>
      rw [Volume.step, h.refuses_track channel fun hfits => hunfit fun k hk => ?_]
      · rfl
      · rwa [List.mem_singleton.1 hk]
    | _ => exact hputs.elim
  rw [Volume.answer, hstep]
  rfl

end Sound

end Volume

/-! ## The refinement -/

/-- Stores that mirror each other answer acts that fit alike. -/
theorem Mirrors.exists_perform {ρ : Guid → Guid} {space : String} {acts : List Act}
    (hacts : ∀ act ∈ acts, act.Fits) {v : Volume} {m : Memory} (h : Mirrors ρ space v m)
    (hv : v.Sound space) :
    ∃ v', Volume.perform? space (acts.map (Act.rename ρ)) v =
      some ((m.replies acts).map (Reply.rename ρ), v') := by
  induction acts generalizing v m with
  | nil => exact ⟨v, rfl⟩
  | cons act acts ih =>
    have hrest : ∀ act ∈ acts, act.Fits := fun a ha => hacts a (List.mem_cons_of_mem _ ha)
    cases act with
    | ask g q =>
      obtain ⟨a, w, m', hstep, hanswer, h'⟩ := h.alike g (hacts _ List.mem_cons_self)
      have hvolume : v.answer (ρ g) space q = (.ok (q.rename ρ a), w) := by
        rw [Volume.answer, hstep]
      obtain ⟨v', hperform⟩ := ih hrest h' ((Volume.Sound.lasting space).step hv hstep)
      refine ⟨v', ?_⟩
      rw [List.map_cons, Act.rename, Volume.perform?, hvolume, hperform, Memory.replies, hanswer]
      rfl
    | reopen =>
      obtain ⟨v', hperform⟩ := ih hrest h hv
      refine ⟨v', ?_⟩
      rw [List.map_cons, Act.rename, Volume.perform?, hv.reopen?_eq_some]
      exact hperform

/-- **An empty store on a volume answers like one in memory.** Acts that fit are answered alike, up to the
tokens that the two stores draw, however often the one on the volume is closed and opened again. After
any acts, a step that would keep something under a key that does not fit fails and changes nothing. -/
theorem volume_refines_memory {v₀ v : Volume} {space : String} {megabytes : Nat}
    (hopen : openSpace (v₀.openAgain megabytes) space = .ok (.ok (.volume v space)))
    (hvacant : ∀ kind, v.table space kind = ∅) :
    (∀ (ρ : Guid → Guid) (acts : List Act), (∀ act ∈ acts, act.Fits) →
      ∃ v', v.perform? space (acts.map (Act.rename ρ)) =
        some ((Memory.empty.replies acts).map (Reply.rename ρ), v')) ∧
    ∀ acts : List Act, ∃ replies v', v.perform? space acts = some (replies, v') ∧
      ∀ g q, q.Puts → ¬q.Fits → v'.answer g space q = (.error (.transaction Volume.badSize), v') := by
  have hsound := Volume.Sound.of_opened hopen hvacant
  refine ⟨fun ρ acts hacts => (Mirrors.vacant hvacant).exists_perform hacts hsound, fun acts => ?_⟩
  obtain ⟨replies, v', hperform, hv'⟩ := hsound.exists_perform acts
  exact ⟨replies, v', hperform, fun g q hputs hunfit => hv'.refuses g hputs hunfit⟩

/-- A volume of ten mebibytes with an empty store. -/
def blankVolume : Volume :=
  ⟨10, (((∅ : Table (Table String)).insert (octets "ns:snapshots") ∅ |>.insert
    (octets "ns:first_writers") ∅).insert (octets "ns:assets") ∅).insert (octets "ns:channels") ∅⟩

theorem openSpace_blankVolume :
    openSpace ((⟨10, ∅⟩ : Volume).openAgain 10) "ns" = .ok (.ok (.volume blankVolume "ns")) := by
  have hplain : "ns".contains '\x00' = false := by simp
  have hagain : (⟨10, ∅⟩ : Volume).openAgain 10 = .ok ⟨10, ∅⟩ := rfl
  have hadd : (⟨10, ∅⟩ : Volume).addStore "ns" = .ok blankVolume := rfl
  simp [openSpace, hplain, hagain, hadd]

theorem vacant_blankVolume (kind : Volume.Kind) : blankVolume.table "ns" kind = ∅ := by
  cases kind <;> rfl

/-- A record of the case with the number. -/
def plainRecord (number : String) : CaseRecord :=
  ⟨number, "", "", .active, ⟨2⟩, false, .closingMark, []⟩

/-- A case is written twice and followed, and looked at after the store was opened again. -/
def reopening : List Act :=
  [.ask (.ofNat 1) (.write (plainRecord "1")), .ask (.ofNat 2) (.write (plainRecord "1")),
    .ask (.ofNat 3) (.track "b" "1"), .reopen, .ask (.ofNat 3) .list,
    .ask (.ofNat 3) (.firstWriter "1" .closingMark), .ask (.ofNat 3) (.untrack "b" "1")]

/-- A text of so many letters. -/
def letters (n : Nat) : String := String.ofList (List.replicate n 'a')

theorem length_letters (n : Nat) : (octets (letters n)).length = n := by
  have hone : (String.utf8EncodeChar 'a').length = 1 := rfl
  rw [octets, letters, String.toList_ofList, List.length_flatMap, List.map_replicate, hone,
    List.sum_replicate_nat, Nat.mul_one]

/-- The marker of a case whose number has 490 octets would have a key of 521. -/
theorem volume_refines_memory_reopened :
    openSpace ((⟨10, ∅⟩ : Volume).openAgain 10) "ns" = .ok (.ok (.volume blankVolume "ns")) ∧
      (∀ kind, blankVolume.table "ns" kind = ∅) ∧ (∀ act ∈ reopening, act.Fits) ∧
      (Query.write (plainRecord (letters 490))).Puts ∧ ¬(Query.write (plainRecord (letters 490))).Fits ∧
      (∃ v', blankVolume.perform? "ns" (reopening.map (Act.rename fun g => .ofNat (g.bits.toNat + 7))) =
        some ((Memory.empty.replies reopening).map
          (Reply.rename fun g => .ofNat (g.bits.toNat + 7)), v')) ∧
      ∃ replies v', blankVolume.perform? "ns" reopening = some (replies, v') ∧
        v'.answer (.ofNat 4) "ns" (.write (plainRecord (letters 490))) =
          (.error (.transaction Volume.badSize), v') := by
  have hopen := openSpace_blankVolume
  have hvacant := vacant_blankVolume
  have hfits : ∀ act ∈ reopening, act.Fits := by decide +kernel
  have hunfit : ¬(Query.write (plainRecord (letters 490))).Fits := by
    intro hwrite
    have hmarker := (hwrite (markerKey (letters 490) .closingMark)
      (List.mem_cons_of_mem _ List.mem_cons_self)).2
    have htime : (markerKey "" .closingMark).length = 31 := rfl
    rw [length_markerKey, length_letters, htime] at hmarker
    exact absurd hmarker (by decide)
  obtain ⟨hrefines, hrefuses⟩ := volume_refines_memory hopen hvacant
  obtain ⟨replies, v', hperform, hanswer⟩ := hrefuses reopening
  have hputs : (Query.write (plainRecord (letters 490))).Puts := trivial
  exact ⟨hopen, hvacant, hfits, hputs, hunfit, hrefines _ reopening hfits, replies, v', hperform,
    hanswer (.ofNat 4) (.write (plainRecord (letters 490))) hputs hunfit⟩

end CaseHerald.Store
