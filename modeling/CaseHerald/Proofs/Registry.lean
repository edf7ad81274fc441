import CaseHerald.Proofs.Pasts

/-!
# The registry of assets

An asset is kept under a text, its channel, its kind and its bare id with colons in between. The store is
a map by this text: it lists the assets that were kept last under their keys. It is one by channel, kind
and id as well, as it is meant to be, among assets none of which overlaps another: then only do assets
with the same key agree in all three (`Asset.key_eq_iff`). An overlap takes a colon in a channel, which
nothing forbids, and then one asset replaces another one or is removed in its place
(`registry_overlapping`).

## Main definitions

* `Asset.Overlaps a b` - the key of `b` is that of `a`, with more of it in the channel.
* `Backing.IsMapBy key among log b` - the store keeps the last asset under each key, among some assets.
-/
namespace CaseHerald

open Text (Octets octets)

/-! ## Separators that may come again -/

/-- Texts that are split at the same character, maybe at different places. -/
theorem append_cons_eq_append_cons_iff {α : Type} {c : α} {xs ys r s : List α} :
    xs ++ c :: r = ys ++ c :: s ↔ xs = ys ∧ r = s ∨
      (∃ mid, ys = xs ++ c :: mid ∧ r = mid ++ c :: s) ∨
      ∃ mid, xs = ys ++ c :: mid ∧ s = mid ++ c :: r := by
  rw [List.append_eq_append_iff]
  constructor
  · rintro (⟨mid, rfl, h⟩ | ⟨mid, rfl, h⟩)
    all_goals
      cases mid with
      | nil => simp_all
      | cons d mid =>
        obtain ⟨rfl, rfl⟩ := List.cons.inj h
        simp
  · rintro (⟨rfl, rfl⟩ | ⟨mid, rfl, rfl⟩ | ⟨mid, rfl, rfl⟩)
    · exact .inl ⟨[], by simp⟩
    · exact .inl ⟨c :: mid, by simp⟩
    · exact .inr ⟨c :: mid, by simp⟩

namespace AssetKind

theorem colon_notMem_name (k : AssetKind) : ':' ∉ k.name.toList := by
  cases k <;> decide

theorem name_inj {j k : AssetKind} : j.name.toList = k.name.toList ↔ j = k := by
  cases j <;> cases k <;> decide

end AssetKind

namespace Asset

/-! ## Keys of assets -/

/-- What an asset is meant to be known by. -/
def triple (a : Asset) : String × AssetKind × String := (a.channel, a.kind, a.bareId)

/-- Whether the key of `b` is that of `a`, where more of it is the channel: this goes on over the kind
of `a` and maybe some of its id, and what is left of the id begins with the kind of `b`. -/
def Overlaps (a b : Asset) : Prop :=
  (b.channel = a.channel ++ ":" ++ a.kind.name ∧ a.bareId = b.kind.name ++ ":" ++ b.bareId) ∨
    ∃ mid, b.channel = a.channel ++ ":" ++ a.kind.name ++ ":" ++ mid ∧
      a.bareId = mid ++ ":" ++ b.kind.name ++ ":" ++ b.bareId

theorem toList_key (a : Asset) :
    a.key.toList = a.channel.toList ++ ':' :: (a.kind.name.toList ++ ':' :: a.bareId.toList) := by
  simp [key, String.toList_append]

/-- A key never lacks its colons. -/
theorem octets_key_ne_nil (a : Asset) : octets a.key ≠ [] := by
  intro hempty
  have hkey : a.key = "" := octets_inj.1 hempty
  have hlist := toList_key a
  simp [hkey] at hlist

/-- The keys of two assets, where the channel of one goes on with a colon after that of the other. -/
theorem overlaps_iff {a b : Asset} : a.Overlaps b ↔
    ∃ mid, b.channel.toList = a.channel.toList ++ ':' :: mid ∧
      a.kind.name.toList ++ ':' :: a.bareId.toList =
        mid ++ ':' :: (b.kind.name.toList ++ ':' :: b.bareId.toList) := by
  have hchars {s t : String} : s = t ↔ s.toList = t.toList := String.toList_inj.symm
  constructor
  · rintro (⟨hchannel, hid⟩ | ⟨mid, hchannel, hid⟩)
    · exact ⟨a.kind.name.toList, by simp [hchannel], by simp [hid]⟩
    · exact ⟨a.kind.name.toList ++ ':' :: mid.toList, by simp [hchannel], by simp [hid]⟩
  · rintro ⟨mid, hchannel, hrest⟩
    rcases append_cons_eq_append_cons_iff.1 hrest with
      ⟨rfl, hid⟩ | ⟨more, rfl, hid⟩ | ⟨more, hname, -⟩
    · left
      constructor
      · rw [hchars]
        simp [hchannel]
      · rw [hchars]
        simp [hid]
    · right
      refine ⟨String.ofList more, ?_, ?_⟩
      · rw [hchars]
        simp [hchannel]
      · rw [hchars]
        simp [hid]
    · exact absurd (hname ▸ List.mem_append_right _ List.mem_cons_self) a.kind.colon_notMem_name

/-- **Which assets share a key**: those with the same channel, kind and id, and those that overlap. -/
theorem key_eq_iff {a b : Asset} :
    a.key = b.key ↔ a.triple = b.triple ∨ a.Overlaps b ∨ b.Overlaps a := by
  rw [← String.toList_inj, toList_key, toList_key, append_cons_eq_append_cons_iff, ← overlaps_iff,
    ← overlaps_iff]
  refine or_congr ?_ Iff.rfl
  constructor
  · rintro ⟨hchannel, hrest⟩
    obtain ⟨hname, hid⟩ := append_first_inj a.kind.colon_notMem_name b.kind.colon_notMem_name hrest
    rw [triple, triple, String.toList_inj.1 hchannel, AssetKind.name_inj.1 hname,
      String.toList_inj.1 hid]
  · intro h
    rw [triple, triple, Prod.mk.injEq, Prod.mk.injEq] at h
    obtain ⟨hchannel, hkind, hid⟩ := h
    exact ⟨by rw [hchannel], by rw [hkind, hid]⟩

/-- No asset overlaps one whose channel has no colon. -/
theorem not_overlaps {a b : Asset} (h : ':' ∉ b.channel.toList) : ¬a.Overlaps b := by
  rw [overlaps_iff]
  rintro ⟨mid, hchannel, -⟩
  exact h (hchannel ▸ List.mem_append_right _ List.mem_cons_self)

end Asset

namespace Store

open Rehearsal.Backing (Abides)

/-! ## What has been done to the assets -/

/-- The asset that a step is about, and what it leaves in its place, unless it fails. -/
def Reply.asset? : Reply → Option (Asset × Option Asset)
  | ⟨.upsertAsset a, .ok _⟩ => some (a, some a)
  | ⟨.removeAsset a, .ok _⟩ => some (a, none)
  | _ => none

/-- What has been done to the assets, one after another. -/
def assetsOf (log : List Reply) : List (Asset × Option Asset) := log.filterMap Reply.asset?

/-- What the assets' keys have been set to, one after another. -/
def settings {κ : Type} (key : Asset → κ) (log : List Reply) : List (κ × Option Asset) :=
  (assetsOf log).map fun x => (key x.1, x.2)

theorem assetsOf_concat (log : List Reply) (r : Reply) :
    assetsOf (log ++ [r]) = assetsOf log ++ r.asset?.toList := by
  cases h : r.asset? <;> simp [assetsOf, h]

theorem settings_concat {κ : Type} (key : Asset → κ) (log : List Reply) (r : Reply) :
    settings key (log ++ [r]) =
      settings key log ++ (r.asset?.map fun x => (key x.1, x.2)).toList := by
  rw [settings, assetsOf_concat, List.map_append, settings]
  cases r.asset? <;> rfl

/-- Keeping or removing an asset is about this asset, if about any. -/
theorem eq_of_mem_asset? {q : Query} {a : Asset} {answer : Except StoreFailure q.Answer}
    (hq : q = .upsertAsset a ∨ q = .removeAsset a) {x : Asset × Option Asset}
    (hx : x ∈ (⟨q, answer⟩ : Reply).asset?) : x.1 = a := by
  rcases hq with rfl | rfl <;> cases answer <;> cases hx <;> rfl

/-- Only the asset itself is put in an asset's place. -/
theorem eq_of_mem_assetsOf {log : List Reply} {x a : Asset} (h : (x, some a) ∈ assetsOf log) : x = a := by
  obtain ⟨⟨q, r⟩, -, hr⟩ := List.mem_filterMap.1 h
  cases q <;> cases r <;> cases hr
  rfl

/-- Nothing else changes the assets. -/
theorem Memory.assets_answer (m : Memory) (g : Guid) (q : Query) : (m.answer g q).2.assets =
    match q with
    | .upsertAsset a => m.assets.insert (octets a.key) a
    | .removeAsset a => m.assets.erase (octets a.key)
    | _ => m.assets := by
  cases q with
  | write | delete =>
    simp only [answer]
    split <;> rfl
  | _ => rfl

/-- The tables in memory hold what the keys of the assets have been set to. -/
theorem abides_assets : Abides fun log m =>
    ∀ k, m.assets.find? k = lastSetting (settings (fun a => octets a.key) log) k where
  empty _ := rfl
  switch h _ := h
  fails h q f k := by
    have hnone : (⟨q, .error f⟩ : Reply).asset? = none := by cases q <;> rfl
    rw [settings_concat, hnone, Option.map_none, Option.toList_none, List.append_nil]
    exact h k
  answers {log m m' g q a} h hanswer k := by
    obtain rfl : (m.answer g q).2 = m' := congrArg Prod.snd hanswer
    rw [settings_concat, m.assets_answer]
    cases q with
    | upsertAsset x =>
      simp only [Reply.asset?, Option.map_some, Option.toList_some, lastSetting_concat, Table.find?_insert,
        h]
    | removeAsset x =>
      simp only [Reply.asset?, Option.map_some, Option.toList_some, lastSetting_concat, Table.find?_erase,
        h]
    | _ => simpa [Reply.asset?] using h k

end Store

namespace Rehearsal.Backing

open Store (Memory Volume Query assetsOf assetsOf_concat settings settings_concat eq_of_mem_assetsOf
  eq_of_mem_asset? abides_assets)

variable {b : Backing} {m : Memory} {log : List Store.Reply} {κ : Type} [DecidableEq κ]
  {key : Asset → κ} {among : Asset → Prop}

/-- The assets in the store. -/
def assets (b : Backing) : Except StoreFailure (List Asset) := (b.answer (.ofNat 0) .assets).1

/-- Whether the store lists the asset. -/
def Lists (b : Backing) (a : Asset) : Prop := ∃ l, b.assets = .ok l ∧ a ∈ l

/-- Why a store does not keep an asset, and with what it fails. -/
inductive RefusesAsset (a : Asset) : Backing → StoreFailure → Prop
  /-- no table of a volume has a key of this length -/
  | overlong {v : Volume} {space : String} (h : Volume.longestKey < (octets a.key).length) :
      RefusesAsset a (.volume v space) (.transaction Volume.badSize)

/-- Whether the store is a map of assets by such keys, after what it has been asked, as long as only some
assets are kept and removed. -/
structure IsMapBy (key : Asset → κ) (among : Asset → Prop) (log : List Store.Reply) (b : Backing) :
    Prop where
  /-- it lists one asset for each key, the one that was kept there last and has not been removed -/
  lists : ∃ l, b.assets = .ok l ∧ (l.map key).Nodup ∧
    ∀ a, a ∈ l ↔ lastSetting (settings key log) (key a) = some a
  /-- an asset that is kept is listed, unless the store refuses it -/
  keeps : ∀ g a, among a →
    (b.answer g (.upsertAsset a)).1 = .ok () ∧ (b.answer g (.upsertAsset a)).2.Lists a ∨
      ∃ f, b.answer g (.upsertAsset a) = (.error f, b) ∧ RefusesAsset a b f
  /-- whoever removes an asset learns whether there was one with its key -/
  removes : ∀ g a, among a → ∃ r : Bool, (b.answer g (.removeAsset a)).1 = .ok r ∧
    (r = true ↔ ∃ x, b.Lists x ∧ key x = key a)
  /-- an asset is neither replaced nor removed by way of one with another key -/
  spares : ∀ g q a, q = .upsertAsset a ∨ q = .removeAsset a → among a →
    ∀ x, b.Lists x → key x ≠ key a → (b.answer g q).2.Lists x

namespace Keeps

theorem assets (h : b.Keeps m) : b.assets = .ok m.assets.values := by
  cases h with
  | memory => rfl
  | volume mirrors =>
    rw [Backing.assets, Backing.answer, Volume.answer, Volume.step,
      Volume.allValues_written mirrors.assets Asset.lossless]
    rfl

theorem upsertAsset (h : b.Keeps m) (g : Guid) (a : Asset) :
    (b.answer g (.upsertAsset a)).1 = .ok () ∨
      ∃ f, b.answer g (.upsertAsset a) = (.error f, b) ∧ RefusesAsset a b f := by
  refine (h.answers_or_lacksKey (q := .upsertAsset a) trivial).imp (fun hanswer => hanswer g) ?_
  rintro ⟨hunfit, v, space, rfl, hrefuses⟩
  refine ⟨_, hrefuses g, .overlong (Nat.not_le.1 fun hmost => hunfit fun k hk => ?_)⟩
  rw [List.mem_singleton.1 hk]
  exact ⟨List.length_pos_of_ne_nil a.octets_key_ne_nil, hmost⟩

/-- An asset is removed in every store, since its key is not empty. -/
theorem removeAsset (h : b.Keeps m) (g : Guid) (a : Asset) :
    (b.answer g (.removeAsset a)).1 = .ok (m.assets.contains (octets a.key)) := by
  cases h with
  | memory => rfl
  | volume mirrors =>
    rw [Backing.answer, Volume.answer, Volume.step,
      Volume.remove_written mirrors.assets a.octets_key_ne_nil]

end Keeps

/-- One more asset is kept or removed that is among the same. -/
theorem among_of_mem_concat (hlog : ∀ x ∈ assetsOf log, among x.1) {g : Guid} {q : Query} {a : Asset}
    (hq : q = .upsertAsset a ∨ q = .removeAsset a) (ha : among a) :
    ∀ x ∈ assetsOf (log ++ [⟨q, (b.answer g q).1⟩]), among x.1 := by
  intro x hx
  rw [assetsOf_concat, List.mem_append, Option.mem_toList] at hx
  rcases hx with hx | hx
  · exact hlog x hx
  · exact eq_of_mem_asset? hq hx ▸ ha

theorem mem_assetsOf_of_lastSetting {a : Asset} {k : κ} (h : lastSetting (settings key log) k = some a) :
    (a, some a) ∈ assetsOf log ∧ key a = k := by
  obtain ⟨⟨x, v⟩, hmem, heq⟩ := List.mem_map.1 (mem_of_lastSetting h)
  obtain ⟨rfl, rfl⟩ := Prod.mk.inj heq
  obtain rfl := eq_of_mem_assetsOf hmem
  exact ⟨hmem, rfl⟩

/-- Whether keys of one kind tell the assets apart like the keys under which they are kept. -/
def TellsApart (key : Asset → κ) (among : Asset → Prop) : Prop :=
  ∀ x y, among x → among y → (x.key = y.key ↔ key x = key y)

section Among

variable (hkey : TellsApart key among) (hlog : ∀ x ∈ assetsOf log, among x.1)
include hkey hlog

theorem lastSetting_octets_key {a : Asset} (ha : among a) :
    lastSetting (settings (fun x => octets x.key) log) (octets a.key) =
      lastSetting (settings key log) (key a) :=
  lastSetting_map_congr fun x hx => by rw [octets_inj, hkey x.1 a (hlog x hx) ha]

/-- The tables in memory hold what the assets' keys have been set to. -/
theorem find?_assets_eq
    (hassets : ∀ k, m.assets.find? k = lastSetting (settings (fun a => octets a.key) log) k)
    {k : Octets} {a : Asset} :
    m.assets.find? k = some a ↔ octets a.key = k ∧ lastSetting (settings key log) (key a) = some a := by
  rw [hassets]
  constructor
  · intro ha
    obtain ⟨hmem, rfl⟩ := mem_assetsOf_of_lastSetting ha
    exact ⟨rfl, (lastSetting_octets_key hkey hlog (hlog _ hmem)).symm.trans ha⟩
  · rintro ⟨rfl, ha⟩
    rw [lastSetting_octets_key hkey hlog (hlog _ (mem_assetsOf_of_lastSetting ha).1), ha]

/-- What is listed, if the keys tell the assets apart that have been kept and removed. -/
theorem Past.lists (h : Past log b) :
    ∃ l, b.assets = .ok l ∧ (l.map key).Nodup ∧
      ∀ a, a ∈ l ↔ lastSetting (settings key log) (key a) = some a := by
  obtain ⟨m, hm, hassets⟩ := h.keeps abides_assets
  refine ⟨m.assets.values, hm.assets, ?_, fun a => ?_⟩
  · rw [Table.values, List.map_map]
    refine List.pairwise_map.2 (m.assets.sorted.imp_of_mem fun {e d} he hd hlt heq => ?_)
    obtain ⟨hek, hea⟩ := (find?_assets_eq hkey hlog hassets).1 (Table.find?_eq_some_iff.2 he)
    obtain ⟨hdk, hda⟩ := (find?_assets_eq hkey hlog hassets).1 (Table.find?_eq_some_iff.2 hd)
    have hsame := (hkey _ _ (hlog _ (mem_assetsOf_of_lastSetting hea).1)
      (hlog _ (mem_assetsOf_of_lastSetting hda).1)).2 heq
    rw [← hek, ← hdk, hsame] at hlt
    exact List.lt_irrefl _ hlt
  · simp [Table.mem_values, find?_assets_eq hkey hlog hassets]

theorem Past.lists_iff (h : Past log b) {a : Asset} :
    b.Lists a ↔ lastSetting (settings key log) (key a) = some a := by
  obtain ⟨l, hl, -, hmem⟩ := h.lists hkey hlog
  rw [← hmem, Lists, hl]
  simp

/-- **A store is a map of assets** by every key that tells those apart that are kept and removed. -/
theorem Past.isMapBy (h : Past log b) : IsMapBy key among log b where
  lists := h.lists hkey hlog
  keeps g a ha := by
    obtain ⟨m, hm, -⟩ := h.keeps abides_assets
    refine (hm.upsertAsset g a).imp_left fun hok => ⟨hok, ?_⟩
    have hset : Store.Reply.asset? ⟨.upsertAsset a, (b.answer g (.upsertAsset a)).1⟩ =
        some (a, some a) := by
      rw [hok]
      rfl
    rw [(h.ask g _).lists_iff hkey (among_of_mem_concat hlog (.inl rfl) ha), settings_concat, hset,
      Option.map_some, Option.toList_some, lastSetting_concat, if_pos rfl]
  removes g a ha := by
    obtain ⟨m, hm, hassets⟩ := h.keeps abides_assets
    refine ⟨_, hm.removeAsset g a, ?_⟩
    rw [Table.contains, hassets, lastSetting_octets_key hkey hlog ha]
    refine Option.isSome_iff_exists.trans ⟨?_, ?_⟩
    · rintro ⟨x, hx⟩
      have hkeys := (mem_assetsOf_of_lastSetting hx).2
      exact ⟨x, (h.lists_iff hkey hlog).2 (hkeys ▸ hx), hkeys⟩
    · rintro ⟨x, hx, hkeys⟩
      exact ⟨x, hkeys ▸ (h.lists_iff hkey hlog).1 hx⟩
  spares g q a hq ha x hx hne := by
    rw [(h.ask g q).lists_iff hkey (among_of_mem_concat hlog hq ha), settings_concat,
      ← (h.lists_iff hkey hlog).1 hx]
    cases hy : Store.Reply.asset? ⟨q, (b.answer g q).1⟩ with
    | none => simp
    | some y =>
      have hya : y.1 = a := eq_of_mem_asset? hq hy
      rw [Option.map_some, Option.toList_some, lastSetting_concat, hya, if_neg hne.symm]

end Among

/-- The keys under which assets are kept tell all assets apart. -/
theorem tellsApart_key : TellsApart Asset.key fun _ => True := fun _ _ _ _ => Iff.rfl

theorem Past.lists_iff_key (h : Past log b) {a : Asset} :
    b.Lists a ↔ lastSetting (settings Asset.key log) a.key = some a :=
  h.lists_iff tellsApart_key fun _ _ => trivial

/-- An asset is lost to another one that is kept or removed under its key. -/
theorem Past.not_lists (h : Past log b) {g : Guid} {q : Query} {a x : Asset} {v : Option Asset}
    (hq : Store.Reply.asset? ⟨q, (b.answer g q).1⟩ = some (a, v)) (hsame : a.key = x.key)
    (hv : v ≠ some x) : ¬(b.answer g q).2.Lists x := by
  rw [(h.ask g q).lists_iff_key, settings_concat, hq, Option.map_some, Option.toList_some,
    lastSetting_concat, if_pos hsame]
  exact hv

/-- **What a store knows of assets.** It is a map of assets by their keys. Assets share a key if they agree
in channel, kind and bare id, or if they overlap. So the store is a map by channel, kind and bare id among
any assets that do not overlap, if no others are kept and removed. -/
theorem maps_assets (h : Past log b) :
    IsMapBy Asset.key (fun _ => True) log b ∧
      (∀ a a' : Asset, a.key = a'.key ↔ a.triple = a'.triple ∨ a.Overlaps a' ∨ a'.Overlaps a) ∧
      ∀ among : Asset → Prop, (∀ x ∈ assetsOf log, among x.1) →
        (∀ x y, among x → among y → ¬x.Overlaps y) → IsMapBy Asset.triple among log b := by
  refine ⟨h.isMapBy tellsApart_key fun _ _ => trivial, fun _ _ => Asset.key_eq_iff,
    fun among hlog hapart => h.isMapBy (fun x y hx hy => ?_) hlog⟩
  rw [Asset.key_eq_iff, or_iff_left]
  exact not_or.2 ⟨hapart x y hx hy, hapart y x hy hx⟩

/-- An asset of the channel, without user. -/
def plainAsset (channel : String) (kind : AssetKind) (id : String) (ccList : List String) : Asset :=
  ⟨channel, kind, id, ccList, ""⟩

/-- A folder is kept by its path, kept again by its id, and removed, after a project with the same id has
been kept. -/
def registering : List Query :=
  [.upsertAsset (plainAsset "C" .folder "folders/7" ["a"]), .upsertAsset (plainAsset "C" .folder "7" ["b"]),
    .upsertAsset (plainAsset "C" .project "7" []), .removeAsset (plainAsset "C" .folder "folders/7" [])]

/-- What has been answered to that, and the store after it. -/
def registered : List Store.Reply × Backing := (Backing.memory .empty).asked (.ofNat 0) registering

theorem maps_assets_removed :
    Past registered.1 registered.2 ∧ (∀ x ∈ assetsOf registered.1, ':' ∉ x.1.channel.toList) ∧
      IsMapBy Asset.triple (fun a => ':' ∉ a.channel.toList) registered.1 registered.2 ∧
      registered.2.assets = .ok [plainAsset "C" .project "7" []] := by
  have hpast : Past registered.1 registered.2 := Past.empty.asked (.ofNat 0) registering
  have hcolon : ∀ x ∈ assetsOf registered.1, ':' ∉ x.1.channel.toList := by decide +kernel
  obtain ⟨-, -, hmap⟩ := maps_assets hpast
  exact ⟨hpast, hcolon, hmap _ hcolon fun x y _ hy => Asset.not_overlaps hy, by rfl⟩

/-- A folder whose id goes on after a colon. -/
def shorter : Asset := plainAsset "C" .folder "project:p" []

/-- The project whose key is read off that of the folder, with more of it as the channel. -/
def longer : Asset := plainAsset "C:folder" .project "p" []

/-- **One asset is removed in place of another**, and replaced by it: they differ in channel, kind and id,
but not in their keys. -/
theorem registry_overlapping :
    shorter.triple ≠ longer.triple ∧ ∀ b ∈ [Backing.memory .empty, .volume Store.blankVolume "ns"],
      ∃ log b', Past log b' ∧ assetsOf log = [(shorter, some shorter)] ∧ b'.Lists shorter ∧
        (b'.answer (.ofNat 0) (.removeAsset longer)).1 = .ok true ∧
        ¬(b'.answer (.ofNat 0) (.removeAsset longer)).2.Lists shorter ∧
        (b'.answer (.ofNat 0) (.upsertAsset longer)).1 = .ok () ∧
        ¬(b'.answer (.ofNat 0) (.upsertAsset longer)).2.Lists shorter := by
  refine ⟨by decide, fun b hb => ?_⟩
  have hkey : longer.key = shorter.key := by decide
  have hother : some longer ≠ some shorter := by decide
  -- both stores answer alike
  have hanswers : Past [] b ∧
      (b.answer (.ofNat 0) (.upsertAsset shorter)).1 = .ok () ∧
      ((b.answer (.ofNat 0) (.upsertAsset shorter)).2.answer (.ofNat 0) (.removeAsset longer)).1 =
        .ok true ∧
      ((b.answer (.ofNat 0) (.upsertAsset shorter)).2.answer (.ofNat 0) (.upsertAsset longer)).1 =
        .ok () := by
    rcases List.mem_pair.1 hb with rfl | rfl
    · exact ⟨.empty, rfl, rfl, rfl⟩
    · exact ⟨.opened Store.openSpace_blankVolume Store.vacant_blankVolume, rfl, rfl, rfl⟩
  obtain ⟨hstart, hkept, hremoved, hreplaced⟩ := hanswers
  have hpast := hstart.ask (.ofNat 0) (.upsertAsset shorter)
  rw [hkept, List.nil_append] at hpast
  refine ⟨_, _, hpast, rfl, hpast.lists_iff_key.2 rfl, hremoved, ?_, hreplaced, ?_⟩
  · refine hpast.not_lists (a := longer) (v := none) ?_ hkey nofun
    rw [hremoved]
    rfl
  · refine hpast.not_lists (a := longer) (v := some longer) ?_ hkey hother
    rw [hreplaced]
    rfl

end Rehearsal.Backing

end CaseHerald
