import CaseHerald.Proofs.Codec
import CaseHerald.Proofs.Tables
import CaseHerald.Store.Memory
import CaseHerald.Store.Volume

/-!
# A store on a volume mirrors one in memory

A volume keeps in writing what a store in memory keeps in types. `Mirrors` relates the two: each table of
the namespace holds the texts of the values in memory, and the channels of a case are the list of a set.
The two stores draw their tokens apart, so that the relation takes a renaming of tokens.
`Mirrors.alike` is the step lemma: as long as the keys fit the volume, both stores answer a query alike
and still mirror each other.

## Main definitions

* `Query.Fits q` - every key that `q` is about has 1 to 511 octets.
* `Mirrors ρ space v m` - the namespace `space` of `v` is `m` in writing, up to the renaming `ρ`.
-/
namespace CaseHerald

open Json (Value Document Decoder Lossless)
open Text (Octets octets gapless)

/-! ## Renamed tokens -/

/-- The snapshot with another token. -/
def Snapshot.rename (ρ : Guid → Guid) (s : Snapshot) : Snapshot := { s with guid := ρ s.guid }

/-- The marker with another token. -/
def Marker.rename (ρ : Guid → Guid) (m : Marker) : Marker := { m with guid := ρ m.guid }

namespace Store

namespace Query

/-- The answer with other tokens. -/
def rename (ρ : Guid → Guid) : (q : Query) → q.Answer → q.Answer
  | .list, snapshots => List.map (Snapshot.rename ρ) snapshots
  | .write _, token => ρ token
  | .firstWriter .., marker => Option.map (Marker.rename ρ) marker
  | .delete _, a | .assets, a | .upsertAsset _, a | .removeAsset _, a | .channels _, a | .track .., a
  | .untrack .., a => a

/-- The keys that the step is about. -/
def keys : Query → List Octets
  | .list | .assets => []
  | .write r => [octets r.number, markerKey r.number r.updated]
  | .firstWriter number updated => [markerKey number updated]
  | .delete number | .channels number | .track _ number | .untrack _ number => [octets number]
  | .upsertAsset a | .removeAsset a => [octets a.key]

/-- A volume can have every key that the step is about. -/
def Fits (q : Query) : Prop := ∀ k ∈ q.keys, 1 ≤ k.length ∧ k.length ≤ Volume.longestKey

instance (q : Query) : Decidable q.Fits :=
  inferInstanceAs (Decidable (∀ k ∈ q.keys, 1 ≤ k.length ∧ k.length ≤ Volume.longestKey))

end Query

namespace Volume

/-! ## Single accesses -/

/-- What the name of a table ends with, after its last colon. -/
def Kind.ending : Kind → List Char
  | .snapshots => "snapshots".toList
  | .markers => "first_writers".toList
  | .assets => "assets".toList
  | .channels => "channels".toList

theorem toList_tableName (space : String) (kind : Kind) :
    (tableName space kind).toList = space.toList ++ ':' :: kind.ending := by
  cases kind <;> exact String.toList_append

/-- The name of a table tells the namespace and the kind. -/
theorem tableName_inj {s t : String} {j k : Kind} :
    octets (tableName s j) = octets (tableName t k) ↔ s = t ∧ j = k := by
  constructor
  · intro h
    have hcolon (k : Kind) : ':' ∉ k.ending := by cases k <;> decide
    have hlist := congrArg String.toList (octets_inj.1 h)
    rw [toList_tableName, toList_tableName] at hlist
    obtain ⟨hspace, hending⟩ := append_last_inj (hcolon j) (hcolon k) hlist
    refine ⟨String.toList_inj.1 hspace, ?_⟩
    cases j <;> cases k <;> first | rfl | exact absurd hending (by decide)
  · rintro ⟨rfl, rfl⟩
    rfl

variable {v : Volume} {space : String} {kind : Kind} {key : Octets} {text : String}

/-- Only the table that is replaced changes. -/
theorem table_withTable (v : Volume) (space : String) (j k : Kind) (t : Table String) :
    (v.withTable space j t).table space k = if j = k then t else v.table space k := by
  simp only [table, withTable, Table.find?_insert, tableName_inj, true_and]
  split <;> rfl

theorem get_eq (hkey : key ≠ []) : v.get space kind key = .ok ((v.table space kind).find? key) := by
  simp [get, hkey]

theorem put_eq (hleast : 1 ≤ key.length) (hmost : key.length ≤ longestKey) :
    v.put space kind key text =
      .ok (v.withTable space kind ((v.table space kind).insert key text)) := by
  have hnonempty : key ≠ [] := List.ne_nil_of_length_pos hleast
  rw [put, if_neg]
  simp [hnonempty, hmost]

theorem put_eq_error (h : ¬(1 ≤ key.length ∧ key.length ≤ longestKey)) :
    v.put space kind key text = .error (.transaction badSize) := by
  rw [put, if_pos]
  rw [List.isEmpty_iff_length_eq_zero]
  omega

theorem remove_eq (hkey : key ≠ []) :
    v.remove space kind key = .ok ((v.table space kind).contains key,
      v.withTable space kind ((v.table space kind).erase key)) := by
  simp [remove, hkey]

/-! ## Values in writing -/

/-- The table with every value in writing. -/
def written {α : Type} (write : α → Value) (t : Table α) : Table String :=
  t.mapValues fun a => (write a).render

section Written

variable {α : Type} {write : α → Value} {d : Decoder α} {t : Table α}

theorem written_keep (write : α → Value) (t : Table α) (p : Octets → Bool) :
    written write (t.keep p) = (written write t).keep p := Table.mapValues_keep _ t p

theorem decode_render (hd : Lossless write d) (key : Octets) (a : α) :
    decode d key (write a).render = .ok a := by
  rw [decode, hd.ofJsonText?]

theorem getValue_written (ht : v.table space kind = written write t) (hd : Lossless write d)
    (hkey : key ≠ []) : v.getValue space kind d key = .ok (t.find? key) := by
  rw [getValue, get_eq hkey, ht, written, Table.find?_mapValues]
  cases h : t.find? key with
  | none => rfl
  | some a =>
    change (do return some (← decode d key (write a).render)) = _
    rw [decode_render hd]
    rfl

theorem allValues_written (ht : v.table space kind = written write t) (hd : Lossless write d) :
    v.allValues space kind d = .ok t.values := by
  have hdecode : (fun e : Octets × α => decode d e.1 (write e.2).render) = fun e => pure e.2 :=
    funext fun e => decode_render hd e.1 e.2
  have hall := congrArg (fun f => t.entries.mapM f) hdecode
  rw [allValues, ht, written, Table.mapValues, List.mapM_map]
  exact hall.trans List.mapM_pure

theorem put_written (ht : v.table space kind = written write t) (hleast : 1 ≤ key.length)
    (hmost : key.length ≤ longestKey) (a : α) :
    v.put space kind key (write a).render =
      .ok (v.withTable space kind (written write (t.insert key a))) := by
  rw [put_eq hleast hmost, ht, written, written, Table.mapValues_insert]

theorem remove_written (ht : v.table space kind = written write t) (hkey : key ≠ []) :
    v.remove space kind key =
      .ok (t.contains key, v.withTable space kind (written write (t.erase key))) := by
  rw [remove_eq hkey, ht, written, written, Table.mapValues_erase, Table.contains_mapValues]

end Written

end Volume

/-! ## Mirrors -/

open Volume (written table_withTable longestKey)

/-- The volume has in the namespace what the store in memory has, in writing and with other tokens. -/
structure Mirrors (ρ : Guid → Guid) (space : String) (v : Volume) (m : Memory) : Prop where
  snapshots : v.table space .snapshots =
    written Snapshot.toJson (m.snapshots.mapValues (Snapshot.rename ρ))
  markers : v.table space .markers =
    written Marker.toJson (m.markers.mapValues (Marker.rename ρ))
  assets : v.table space .assets = written Asset.toJson m.assets
  channels : v.table space .channels =
    written Document.texts (m.channels.mapValues Table.values)
  /-- the channels of a case are kept under their own names -/
  named : ∀ number t, m.channels.find? number = some t → t.Named
  writable : m.writable = true

/-- A step that both stores take alike. -/
def Alike (ρ : Guid → Guid) (space : String) (v : Volume) (m : Memory) (g : Guid) (q : Query) : Prop :=
  ∃ a v' m', v.step (ρ g) space q = .ok (q.rename ρ a, v') ∧ m.answer g q = (.ok a, m') ∧
    Mirrors ρ space v' m'

namespace Mirrors

variable {ρ : Guid → Guid} {space : String} {v : Volume} {m : Memory}

/-- Empty stores mirror each other. -/
theorem vacant (h : ∀ kind, v.table space kind = ∅) : Mirrors ρ space v .empty where
  snapshots := h .snapshots
  markers := h .markers
  assets := h .assets
  channels := h .channels
  named _ _ h := by cases h
  writable := rfl

theorem texts_lossless : Lossless Document.texts (.list .text) := .list .text

/-! ### One table on both sides -/

theorem withSnapshots (h : Mirrors ρ space v m) (t : Table Snapshot) :
    Mirrors ρ space (v.withTable space .snapshots
      (written Snapshot.toJson (t.mapValues (Snapshot.rename ρ)))) { m with snapshots := t } :=
  { h with
    snapshots := by simp [table_withTable]
    markers := by simp [table_withTable, h.markers]
    assets := by simp [table_withTable, h.assets]
    channels := by simp [table_withTable, h.channels] }

theorem withMarkers (h : Mirrors ρ space v m) (t : Table Marker) :
    Mirrors ρ space (v.withTable space .markers
      (written Marker.toJson (t.mapValues (Marker.rename ρ)))) { m with markers := t } :=
  { h with
    snapshots := by simp [table_withTable, h.snapshots]
    markers := by simp [table_withTable]
    assets := by simp [table_withTable, h.assets]
    channels := by simp [table_withTable, h.channels] }

theorem withAssets (h : Mirrors ρ space v m) (t : Table Asset) :
    Mirrors ρ space (v.withTable space .assets (written Asset.toJson t)) { m with assets := t } :=
  { h with
    snapshots := by simp [table_withTable, h.snapshots]
    markers := by simp [table_withTable, h.markers]
    assets := by simp [table_withTable]
    channels := by simp [table_withTable, h.channels] }

theorem withChannels (h : Mirrors ρ space v m) {t : Table (Table String)}
    (ht : ∀ number u, t.find? number = some u → u.Named) :
    Mirrors ρ space (v.withTable space .channels (written Document.texts (t.mapValues Table.values)))
      { m with channels := t } :=
  { h with
    snapshots := by simp [table_withTable, h.snapshots]
    markers := by simp [table_withTable, h.markers]
    assets := by simp [table_withTable, h.assets]
    channels := by simp [table_withTable]
    named := ht }

/-! ### Snapshots and markers -/

theorem list (h : Mirrors ρ space v m) (g : Guid) : Alike ρ space v m g .list := by
  refine ⟨m.snapshots.values, v, m, ?_, rfl, h⟩
  have hvalues : (m.snapshots.mapValues (Snapshot.rename ρ)).values =
      m.snapshots.values.map (Snapshot.rename ρ) := by
    simp [Table.values, Table.mapValues]
  rw [Volume.step, Volume.allValues_written h.snapshots Snapshot.lossless, hvalues]
  rfl

theorem firstWriter (h : Mirrors ρ space v m) (g : Guid) {number : String} {updated : Instant}
    (hkey : markerKey number updated ≠ []) :
    Alike ρ space v m g (.firstWriter number updated) := by
  refine ⟨m.markers.find? (markerKey number updated), v, m, ?_, rfl, h⟩
  rw [Volume.step, Volume.getValue_written h.markers Marker.lossless hkey, Table.find?_mapValues]
  rfl

theorem putSnapshot (h : Mirrors ρ space v m) {key : Octets} (hleast : 1 ≤ key.length)
    (hmost : key.length ≤ longestKey) (s : Snapshot) :
    ∃ v', v.put space .snapshots key (s.rename ρ).toJson.render = .ok v' ∧
      Mirrors ρ space v' { m with snapshots := m.snapshots.insert key s } := by
  refine ⟨_, ?_, h.withSnapshots (m.snapshots.insert key s)⟩
  rw [Volume.put_written h.snapshots hleast hmost, Table.mapValues_insert]

theorem putMarker (h : Mirrors ρ space v m) {key : Octets} (hleast : 1 ≤ key.length)
    (hmost : key.length ≤ longestKey) (a : Marker) :
    ∃ v', v.put space .markers key (a.rename ρ).toJson.render = .ok v' ∧
      Mirrors ρ space v' { m with markers := m.markers.insert key a } := by
  refine ⟨_, ?_, h.withMarkers (m.markers.insert key a)⟩
  rw [Volume.put_written h.markers hleast hmost, Table.mapValues_insert]

/-- A write keeps the snapshot, and the marker unless there is one. -/
theorem exists_write (h : Mirrors ρ space v m) (g : Guid) {r : CaseRecord}
    (hq : (Query.write r).Fits) :
    ∃ v', v.write space (ρ g) r = .ok v' ∧ Mirrors ρ space v' (m.write g r) := by
  have hnumber := hq (octets r.number) (by simp [Query.keys])
  have hmarker := hq (markerKey r.number r.updated) (by simp [Query.keys])
  obtain ⟨v₁, hput, h₁⟩ := h.putSnapshot hnumber.1 hnumber.2 ⟨r, g⟩
  have hget : v₁.get space .markers (markerKey r.number r.updated) =
      .ok ((written Marker.toJson (m.markers.mapValues (Marker.rename ρ))).find?
        (markerKey r.number r.updated)) := by
    rw [Volume.get_eq (List.ne_nil_of_length_pos hmarker.1), h₁.markers]
  rw [written, Table.find?_mapValues, Table.find?_mapValues] at hget
  have hput' : v.put space .snapshots (octets r.number) (Snapshot.toJson ⟨r, ρ g⟩).render = .ok v₁ :=
    hput
  simp only [Volume.write, hput', bind, Except.bind, hget, Memory.write]
  cases hset : m.markers.find? (markerKey r.number r.updated) with
  | some a =>
    refine ⟨v₁, rfl, ?_⟩
    simpa [Table.contains, hset] using h₁
  | none =>
    obtain ⟨v₂, hput₂, h₂⟩ := h₁.putMarker hmarker.1 hmarker.2 ⟨g, r⟩
    refine ⟨v₂, hput₂, ?_⟩
    simpa [Table.contains, hset] using h₂

/-- A deletion removes the snapshot and every marker that starts like those of the case. -/
theorem exists_delete (h : Mirrors ρ space v m) {number : String} (hkey : octets number ≠ []) :
    ∃ v', v.delete space number = .ok v' ∧ Mirrors ρ space v' (m.delete number) := by
  have h₁ := h.withSnapshots (m.snapshots.erase (octets number))
  refine ⟨_, ?_, h₁.withMarkers (m.markers.keep fun key => !isMarkerOf number key)⟩
  rw [Volume.delete, Volume.remove_written h.snapshots hkey, ← Table.mapValues_erase]
  change Except.ok _ = _
  rw [h₁.markers, Table.mapValues_keep, Volume.written_keep]

/-! ### Assets -/

theorem listAssets (h : Mirrors ρ space v m) (g : Guid) : Alike ρ space v m g .assets := by
  refine ⟨m.assets.values, v, m, ?_, rfl, h⟩
  rw [Volume.step, Volume.allValues_written h.assets Asset.lossless]
  rfl

theorem upsertAsset (h : Mirrors ρ space v m) (g : Guid) {a : Asset}
    (hq : (Query.upsertAsset a).Fits) : Alike ρ space v m g (.upsertAsset a) := by
  have hkey := hq _ List.mem_cons_self
  refine ⟨(), _, _, ?_, rfl, h.withAssets (m.assets.insert (octets a.key) a)⟩
  rw [Volume.step, Volume.put_written h.assets hkey.1 hkey.2]
  rfl

theorem removeAsset (h : Mirrors ρ space v m) (g : Guid) {a : Asset} (hkey : octets a.key ≠ []) :
    Alike ρ space v m g (.removeAsset a) := by
  refine ⟨m.assets.contains (octets a.key), _, _, ?_, rfl,
    h.withAssets (m.assets.erase (octets a.key))⟩
  rw [Volume.step, Volume.remove_written h.assets hkey]
  rfl

/-! ### Channels -/

theorem followers_eq (h : Mirrors ρ space v m) {number : String} (hkey : octets number ≠ []) :
    v.followers space number = .ok (m.followers number).values := by
  rw [Volume.followers, Volume.getValue_written h.channels texts_lossless hkey,
    Table.find?_mapValues, Memory.followers]
  cases m.channels.find? (octets number) <;> rfl

theorem named_followers (h : Mirrors ρ space v m) (number : String) :
    (m.followers number).Named := by
  rw [Memory.followers]
  cases hfound : m.channels.find? (octets number) with
  | none => exact .empty
  | some t => exact h.named _ _ hfound

/-- The channels of a case are replaced on both sides. -/
theorem putFollowers (h : Mirrors ρ space v m) {number : String}
    (hleast : 1 ≤ (octets number).length) (hmost : (octets number).length ≤ longestKey)
    {t : Table String} (ht : t.Named) :
    ∃ v', v.put space .channels (octets number) (Document.texts t.values).render = .ok v' ∧
      Mirrors ρ space v' { m with channels := m.channels.insert (octets number) t } := by
  refine ⟨_, ?_, h.withChannels (t := m.channels.insert (octets number) t) fun k u hk => ?_⟩
  · rw [Volume.put_written h.channels hleast hmost, Table.mapValues_insert]
  · rw [Table.find?_insert] at hk
    split at hk
    · cases hk
      exact ht
    · exact h.named k u hk

/-- A case that somebody follows has its channels kept. -/
theorem find?_channels {number s : String} (hs : s ∈ (m.followers number).values) :
    m.channels.find? (octets number) = some (m.followers number) := by
  rw [Memory.followers] at hs ⊢
  cases hfound : m.channels.find? (octets number) with
  | none =>
    rw [hfound] at hs
    cases hs
  | some t => rfl

theorem exists_track (h : Mirrors ρ space v m) {number : String}
    (hleast : 1 ≤ (octets number).length) (hmost : (octets number).length ≤ longestKey)
    (channel : String) :
    ∃ v', v.track space channel number = .ok v' ∧ Mirrors ρ space v' (m.track channel number) := by
  have hnamed := h.named_followers number
  simp only [Volume.track, h.followers_eq (List.ne_nil_of_length_pos hleast), bind, Except.bind,
    Memory.track, List.contains_iff_mem]
  by_cases hold : channel ∈ (m.followers number).values
  · have hsame : (m.followers number).insert (octets channel) channel = m.followers number :=
      Table.insert_eq_self (hnamed.mem_values_iff.1 hold)
    rw [if_pos hold, hsame, Table.insert_eq_self (find?_channels hold)]
    exact ⟨v, rfl, h⟩
  · rw [if_neg hold, ← hnamed.values_insert hold]
    exact h.putFollowers hleast hmost (hnamed.insert channel)

/-- Removing a channel from a list shortens it just when the channel was there. -/
theorem length_filter_bne (channel : String) (channels : List String) :
    ((channels.filter (· != channel)).length != channels.length) =
      decide (channel ∈ channels) := by
  rw [Bool.eq_iff_iff, bne_iff_ne, Ne, List.length_filter_eq_length_iff, decide_eq_true_iff]
  simp

/-- A channel goes; the key is put again only for the channels that stay. -/
theorem exists_untrack (h : Mirrors ρ space v m) {number : String} (channel : String)
    (hkey : octets number ≠ [])
    (hmost : (m.followers number).contains (octets channel) → (octets number).length ≤ longestKey) :
    ∃ v', v.untrack space channel number =
        .ok ((m.followers number).contains (octets channel), v') ∧
      Mirrors ρ space v' (m.untrack channel number) := by
  have hnamed := h.named_followers number
  have hrest : ((m.followers number).erase (octets channel)).Named := hnamed.erase _
  have hremoved : (((m.followers number).values.filter (· != channel)).length !=
      (m.followers number).values.length) = (m.followers number).contains (octets channel) := by
    rw [length_filter_bne, Bool.eq_iff_iff, decide_eq_true_iff, hnamed.contains_iff]
  have hempty : ((m.followers number).erase (octets channel)).values.isEmpty =
      decide (((m.followers number).erase (octets channel)).size = 0) := by
    rw [Bool.eq_iff_iff, List.isEmpty_iff_length_eq_zero, Table.length_values, decide_eq_true_iff]
  simp only [Volume.untrack, h.followers_eq hkey, bind, Except.bind, Memory.untrack, hremoved]
  rw [← hnamed.values_erase, hempty]
  by_cases hnone : ((m.followers number).erase (octets channel)).size = 0
  · -- the last channel goes and takes the entry of the case with it
    have hchannels (k : Octets) (t : Table String)
        (ht : (m.channels.erase (octets number)).find? k = some t) : t.Named := by
      rw [Table.find?_erase] at ht
      split at ht
      · cases ht
      · exact h.named k t ht
    rw [if_pos (decide_eq_true hnone), if_pos hnone, Volume.remove_written h.channels hkey,
      ← Table.mapValues_erase]
    exact ⟨_, rfl, h.withChannels hchannels⟩
  rw [if_neg (by simpa using hnone), if_neg hnone]
  by_cases hold : (m.followers number).contains (octets channel) = true
  · obtain ⟨v', hput, h'⟩ := h.putFollowers (List.length_pos_of_ne_nil hkey) (hmost hold) hrest
    rw [if_pos hold, hput]
    exact ⟨v', rfl, h'⟩
  · have hsame : (m.followers number).erase (octets channel) = m.followers number :=
      Table.erase_eq_self (by simpa [Table.contains] using hold)
    obtain ⟨s, hs⟩ : ∃ s, s ∈ (m.followers number).values := by
      refine List.exists_mem_of_ne_nil _ fun hnil => hnone ?_
      rw [hsame, ← Table.length_values, hnil, List.length_nil]
    rw [if_neg hold, hsame, Table.insert_eq_self (find?_channels hs)]
    exact ⟨v, rfl, h⟩

/-! ### All queries -/

/-- **Stores that mirror each other answer a query that fits alike, and mirror each other after it.** -/
theorem alike (h : Mirrors ρ space v m) (g : Guid) {q : Query} (hq : q.Fits) :
    Alike ρ space v m g q := by
  have hkey (k : Octets) (hk : k ∈ q.keys) : k ≠ [] := List.ne_nil_of_length_pos (hq k hk).1
  cases q with
  | list => exact h.list g
  | write r =>
    obtain ⟨v', hwrite, h'⟩ := h.exists_write g hq
    refine ⟨g, v', m.write g r, ?_, ?_, h'⟩
    · rw [Volume.step, hwrite]
      rfl
    · rw [Memory.answer, if_pos h.writable]
  | firstWriter number updated => exact h.firstWriter g (hkey _ List.mem_cons_self)
  | delete number =>
    obtain ⟨v', hdelete, h'⟩ := h.exists_delete (hkey _ List.mem_cons_self)
    refine ⟨(), v', m.delete number, ?_, ?_, h'⟩
    · rw [Volume.step, hdelete]
      rfl
    · rw [Memory.answer, if_pos h.writable]
  | assets => exact h.listAssets g
  | upsertAsset a => exact h.upsertAsset g hq
  | removeAsset a => exact h.removeAsset g (hkey _ List.mem_cons_self)
  | channels number =>
    refine ⟨(m.followers number).values, v, m, ?_, rfl, h⟩
    rw [Volume.step, h.followers_eq (hkey _ List.mem_cons_self)]
    rfl
  | track channel number =>
    obtain ⟨hleast, hmost⟩ := hq _ List.mem_cons_self
    obtain ⟨v', htrack, h'⟩ := h.exists_track hleast hmost channel
    refine ⟨(), v', _, ?_, rfl, h'⟩
    rw [Volume.step, htrack]
    rfl
  | untrack channel number =>
    obtain ⟨v', huntrack, h'⟩ := h.exists_untrack channel
      (hkey _ List.mem_cons_self) fun _ => (hq _ List.mem_cons_self).2
    exact ⟨_, v', _, huntrack, rfl, h'⟩

end Mirrors

end Store

end CaseHerald
