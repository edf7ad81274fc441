import CaseHerald.Proofs.Pasts

/-!
# Who follows a case

A channel follows a case from when it is let to until it no longer is: `Follows log channel number` says so
of what a store has been asked. `Past.tellsFollowers` is the law of the registry: a store answers with the
channels that follow a case, in byte order and each of them once. A volume answers with a failure for the
empty number, which no channel follows there.
-/
namespace CaseHerald

open Text (Octets octets)

namespace Table

theorem eq_empty_of_size {α : Type} {t : Table α} (h : t.size = 0) : t = ∅ := by
  obtain ⟨entries, sorted⟩ := t
  obtain rfl : entries = [] := List.length_eq_zero_iff.1 h
  rfl

namespace Named

variable {t : Table String} {s a : String}

theorem mem_values_insert (h : t.Named) :
    a ∈ (t.insert (octets s) s).values ↔ s = a ∨ a ∈ t.values := by
  rw [(h.insert s).mem_values_iff, find?_insert, h.mem_values_iff]
  by_cases hsame : s = a <;> simp [hsame, octets_inj]

theorem mem_values_erase (h : t.Named) :
    a ∈ (t.erase (octets s)).values ↔ s ≠ a ∧ a ∈ t.values := by
  rw [h.values_erase, List.mem_filter, bne_iff_ne, and_comm, ne_comm]

end Named

end Table

namespace Store

open Rehearsal.Backing (Abides)

namespace Memory

variable (m : Memory) (channel : String) {c d : String}

theorem followers_track : (m.track channel c).followers d =
    if c = d then (m.followers d).insert (octets channel) channel else m.followers d := by
  rw [track, followers, Table.find?_insert]
  by_cases h : c = d
  · simp [h]
  · simp [h, octets_inj, followers]

/-- A case that nobody follows any more has no entry. -/
theorem followers_untrack : (m.untrack channel c).followers d =
    if c = d then (m.followers d).erase (octets channel) else m.followers d := by
  rw [untrack, followers]
  by_cases h : c = d
  · subst h
    split
    next hnone => simp [Table.find?_erase, Table.eq_empty_of_size hnone]
    next => simp [Table.find?_insert]
  · split <;> simp [h, octets_inj, Table.find?_erase, Table.find?_insert, followers]

/-- Nothing else changes who follows a case. -/
theorem followers_answer (g : Guid) (q : Query) : (m.answer g q).2.followers d =
    match q with
    | .track channel c =>
      if c = d then (m.followers d).insert (octets channel) channel else m.followers d
    | .untrack channel c =>
      if c = d then (m.followers d).erase (octets channel) else m.followers d
    | _ => m.followers d := by
  cases q with
  | track => exact m.followers_track _
  | untrack => exact m.followers_untrack _
  | write | delete =>
    simp only [answer]
    split <;> rfl
  | _ => rfl

end Memory

/-! ## What has been done to the followers -/

/-- The channel and the case that a step is about, and whether the one follows the other after it, unless
the step fails. -/
def Reply.follow? : Reply → Option ((String × String) × Option Unit)
  | ⟨.track channel number, .ok _⟩ => some ((channel, number), some ())
  | ⟨.untrack channel number, .ok _⟩ => some ((channel, number), none)
  | _ => none

/-- Whether the channel follows the case after what a store has been asked. -/
def Follows (log : List Reply) (channel number : String) : Prop :=
  lastSetting (log.filterMap Reply.follow?) (channel, number) = some ()

/-- The channels that follow a case, in byte order and each of them once. -/
structure Followers (log : List Reply) (number : String) (channels : List String) : Prop where
  sorted : channels.Pairwise fun a b => octets a < octets b
  mem_iff : ∀ channel, channel ∈ channels ↔ Follows log channel number

variable {log : List Reply} {channel number : String}

theorem not_follows_nil : ¬Follows [] channel number := by simp [Follows]

theorem follows_concat {r : Reply} : Follows (log ++ [r]) channel number ↔
    match r.follow? with
    | some (k, v) => if k = (channel, number) then v = some () else Follows log channel number
    | none => Follows log channel number := by
  rw [Follows, List.filterMap_append]
  cases h : r.follow? with
  | none => simp [h, Follows]
  | some x =>
    obtain ⟨k, v⟩ := x
    simp only [List.filterMap_cons, h, List.filterMap_nil, lastSetting_concat]
    split <;> rfl

theorem eq_of_follow?_eq_some {r : Reply} (h : r.follow? = some ((channel, number), some ())) :
    r = ⟨.track channel number, .ok ()⟩ := by
  obtain ⟨q, a⟩ := r
  cases q <;> cases a <;> cases h
  rfl

/-- A step that fails changes nothing. -/
theorem follows_concat_error {q : Query} {f : StoreFailure} :
    Follows (log ++ [⟨q, .error f⟩]) channel number ↔ Follows log channel number := by
  have hnone : (⟨q, .error f⟩ : Reply).follow? = none := by cases q <;> rfl
  rw [follows_concat, hnone]

/-- The tables in memory hold the channels that follow each case. -/
theorem abides_followers : Abides fun log m => ∀ c, (m.followers c).Named ∧
    ∀ channel, channel ∈ (m.followers c).values ↔ Follows log channel c where
  empty c := ⟨.empty, fun channel => iff_of_false List.not_mem_nil not_follows_nil⟩
  switch h _ := h
  fails h q f c := by
    simp only [follows_concat_error]
    exact h c
  answers {log m m' g q a} h hanswer c := by
    obtain rfl : (m.answer g q).2 = m' := congrArg Prod.snd hanswer
    obtain ⟨named, hmem⟩ := h c
    -- the same key decides on both sides: the case in the tables, the channel in the set of the case
    simp only [follows_concat]
    rw [m.followers_answer]
    cases q with
    | track channel number =>
      simp only [Reply.follow?, Prod.mk.injEq]
      by_cases hnumber : number = c
      · simp only [if_pos hnumber]
        refine ⟨named.insert channel, fun d => ?_⟩
        rw [named.mem_values_insert, hmem]
        by_cases hd : channel = d <;> simp [hd, hnumber]
      · simp only [hnumber, and_false, if_false]
        exact ⟨named, hmem⟩
    | untrack channel number =>
      simp only [Reply.follow?, Prod.mk.injEq]
      by_cases hnumber : number = c
      · simp only [if_pos hnumber]
        refine ⟨named.erase _, fun d => ?_⟩
        rw [named.mem_values_erase, hmem]
        by_cases hd : channel = d <;> simp [hd, hnumber]
      · simp only [hnumber, and_false, if_false]
        exact ⟨named, hmem⟩
    | _ => exact ⟨named, hmem⟩

end Store

namespace Rehearsal.Backing

open Store (Memory Volume Query Follows Followers)

variable {b : Backing} {m : Memory} {log : List Store.Reply} {number channel : String}

/-- What a store tells of the channels that follow the cases, after what it has been asked. -/
structure TellsFollowers (b : Backing) (log : List Store.Reply) : Prop where
  /-- it lists those that follow a case -/
  lists : ∀ number, ∃ channels, Followers log number channels ∧
    ((∀ g, b.answer g (.channels number) = (.ok channels, b)) ∨
      number = "" ∧ channels = [] ∧ b.LacksKey (.channels number))
  /-- it lets every channel follow every case -/
  tracks : ∀ channel number, (∀ g, (b.answer g (.track channel number)).1 = .ok ()) ∨
    ¬(Query.track channel number).Fits ∧ b.LacksKey (.track channel number)
  /-- who lets a channel go learns whether it followed the case -/
  untracks : ∀ channel number, (∃ r : Bool, (r = true ↔ Follows log channel number) ∧
      ∀ g, (b.answer g (.untrack channel number)).1 = .ok r) ∨
    number = "" ∧ b.LacksKey (.untrack channel number)

namespace Keeps

theorem channels (h : b.Keeps m) (number : String) :
    (∀ g, b.answer g (.channels number) = (.ok (m.followers number).values, b)) ∨
      number = "" ∧ b.LacksKey (.channels number) := by
  cases h with
  | memory => exact .inl fun _ => rfl
  | @volume v space _ mirrors =>
    by_cases hkey : octets number = []
    · obtain rfl : number = "" := octets_inj.1 hkey
      exact .inr ⟨rfl, v, space, rfl, fun _ => rfl⟩
    · refine .inl fun g => ?_
      rw [Backing.answer, Volume.answer, Volume.step, mirrors.followers_eq hkey]
      rfl

theorem track (h : b.Keeps m) (channel number : String) :
    (∀ g, (b.answer g (.track channel number)).1 = .ok ()) ∨
      ¬(Query.track channel number).Fits ∧ b.LacksKey (.track channel number) :=
  h.answers_or_lacksKey (q := .track channel number) trivial

theorem untrack (h : b.Keeps m) (channel number : String) :
    (∀ g, (b.answer g (.untrack channel number)).1 =
        .ok ((m.followers number).contains (octets channel))) ∨
      number = "" ∧ b.LacksKey (.untrack channel number) := by
  cases h with
  | memory => exact .inl fun _ => rfl
  | @volume v space _ mirrors sound filed nameless =>
    by_cases hkey : octets number = []
    · obtain rfl : number = "" := octets_inj.1 hkey
      exact .inr ⟨rfl, v, space, rfl, fun _ => rfl⟩
    · refine .inl fun g => ?_
      obtain ⟨_, _, _, hanswer, hmemory, -⟩ := (Keeps.volume mirrors sound filed nameless).of_alike
        (mirrors.alike_untrack sound g channel hkey)
      cases hmemory
      exact congrArg Prod.fst hanswer

end Keeps

/-- On a volume, nobody follows the case with the empty number. -/
theorem Past.not_follows_empty (h : Past log b) {v : Volume} {space : String} (hb : b = .volume v space) :
    ¬Follows log channel "" := by
  induction h generalizing v space with
  | empty => cases hb
  | opened => exact Store.not_follows_nil
  | @ask log b _ g q ih =>
    have hbefore : ∃ v space, b = .volume v space := by
      cases b with
      | volume v space => exact ⟨v, space, rfl⟩
      | memory | closed => cases hb
    obtain ⟨v, space, rfl⟩ := hbefore
    rw [Store.follows_concat]
    cases hfollow : Store.Reply.follow? ⟨q, ((Backing.volume v space).answer g q).1⟩ with
    | none => exact ih rfl
    | some x =>
      -- only a step that succeeds lets a channel follow the case, and this one is refused
      obtain ⟨k, follows⟩ := x
      change ¬if k = (channel, "") then follows = some () else Follows log channel ""
      split
      next hk =>
        rintro rfl
        obtain ⟨rfl, hok⟩ := Store.Reply.mk.inj (Store.eq_of_follow?_eq_some (hk ▸ hfollow))
        cases eq_of_heq hok
      · exact ih rfl
  | switch => cases hb
  | reopened _ _ ih => exact ih rfl
  | elsewhere _ _ _ _ ih => exact ih rfl

/-- **Every store tells who follows a case.** -/
theorem Past.tellsFollowers (h : Past log b) : b.TellsFollowers log := by
  obtain ⟨m, hm, hfollowers⟩ := h.keeps Store.abides_followers
  refine ⟨fun number => ?_, hm.track, fun channel number => ?_⟩
  · obtain ⟨named, hmem⟩ := hfollowers number
    refine ⟨_, ⟨named.pairwise_values, hmem⟩, (hm.channels number).imp_right ?_⟩
    rintro ⟨rfl, v, space, rfl, hrefuses⟩
    refine ⟨rfl, List.eq_nil_iff_forall_not_mem.2 fun channel hchannel => ?_, v, space, rfl, hrefuses⟩
    exact h.not_follows_empty rfl ((hmem channel).1 hchannel)
  · obtain ⟨named, hmem⟩ := hfollowers number
    refine (hm.untrack channel number).imp_left fun hanswer => ⟨_, ?_, hanswer⟩
    rw [named.contains_iff, hmem]

end Rehearsal.Backing

end CaseHerald
