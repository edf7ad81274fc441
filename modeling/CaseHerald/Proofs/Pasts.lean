import CaseHerald.Proofs.Purge

/-!
# Stores and what they have answered

`Backing.Past log b` says that `b` has come about from an empty store, and that `log` is what it has been
asked on the way, with its answers. Whatever a store is asked, it answers like the tables in memory that
it keeps, or it fails and stays as it was (`Keeps.answers`). So what tables in memory have to do with
what they have answered holds of every store (`Past.keeps`). Mostly it is `lastSetting`: what a key has been
set to by the last of its settings.
-/
namespace CaseHerald

open Text (Octets octets)

/-! ## The last setting of a key -/

section Latest

variable {κ μ α : Type} [DecidableEq κ] [DecidableEq μ]

/-- What the last setting of the key sets it to. -/
def lastSetting (settings : List (κ × Option α)) (k : κ) : Option α :=
  (settings.filter fun x => x.1 = k).getLast?.bind Prod.snd

@[simp] theorem lastSetting_nil (k : κ) : lastSetting ([] : List (κ × Option α)) k = none := rfl

theorem lastSetting_concat (settings : List (κ × Option α)) (j k : κ) (v : Option α) :
    lastSetting (settings ++ [(j, v)]) k = if j = k then v else lastSetting settings k := by
  unfold lastSetting
  by_cases h : j = k <;> simp [h]

/-- A key is set to what one of the settings says. -/
theorem mem_of_lastSetting {settings : List (κ × Option α)} {k : κ} {a : α}
    (h : lastSetting settings k = some a) : (k, some a) ∈ settings := by
  obtain ⟨⟨j, v⟩, hlast, rfl⟩ := Option.bind_eq_some_iff.1 h
  obtain ⟨hmem, hj⟩ := List.mem_filter.1 (List.mem_of_getLast? hlast)
  obtain rfl : j = k := of_decide_eq_true hj
  exact hmem

/-- Other keys tell the same settings apart, if they tell those of the one key from the rest. -/
theorem lastSetting_map_congr {β : Type} {f : β → κ} {g : β → μ} {v : β → Option α}
    {settings : List β} {k : κ} {m : μ} (h : ∀ x ∈ settings, f x = k ↔ g x = m) :
    lastSetting (settings.map fun x => (f x, v x)) k =
      lastSetting (settings.map fun x => (g x, v x)) m := by
  have hfilter : settings.filter (fun x => f x = k) = settings.filter fun x => g x = m :=
    List.filter_congr fun x hx => by simp [h x hx]
  have hmap {ν : Type} [DecidableEq ν] (e : β → ν) (n : ν) :
      (settings.map fun x => (e x, v x)).filter (fun x => x.1 = n) =
        (settings.filter fun x => e x = n).map fun x => (e x, v x) := List.filter_map
  unfold lastSetting
  rw [hmap, hmap, hfilter]
  simp only [List.getLast?_map, Option.bind_map]
  rfl

end Latest

namespace Store

/-! ## Steps that a volume takes like a store in memory -/

theorem Query.rename_id (q : Query) (a : q.Answer) : q.rename id a = a := by
  cases q with
  | list => exact List.map_id _
  | firstWriter => exact congrFun Option.map_id _
  | _ => rfl

namespace Mirrors

variable {ρ : Guid → Guid} {space : String} {v : Volume} {m : Memory}

/-- A channel is let go of a case with any number that is not empty, since nobody follows a case whose
number is too long. -/
theorem alike_untrack (h : Mirrors ρ space v m) (hv : v.Sound space) (g : Guid) (channel : String)
    {number : String} (hkey : octets number ≠ []) : Alike ρ space v m g (.untrack channel number) := by
  by_cases hmost : (octets number).length ≤ Volume.longestKey
  · refine h.alike g fun k hk => ?_
    rw [List.mem_singleton.1 hk]
    exact ⟨List.length_pos_of_ne_nil hkey, hmost⟩
  · obtain ⟨v', huntrack, h'⟩ := h.exists_untrack channel hkey fun hold => by
      rw [h.followers_eq_empty hv (Nat.not_le.1 hmost)] at hold
      cases hold
    exact ⟨_, v', _, huntrack, rfl, h'⟩

theorem alike_channels (h : Mirrors ρ space v m) (g : Guid) {number : String}
    (hkey : octets number ≠ []) : Alike ρ space v m g (.channels number) := by
  refine ⟨(m.followers number).values, v, m, ?_, rfl, h⟩
  rw [Volume.step, h.followers_eq hkey]
  rfl

/-- **A volume takes a step like the tables in memory that it mirrors**, or it refuses to, and then nothing
changes. -/
theorem alike_or_refuses (h : Mirrors ρ space v m) (hv : v.Sound space) (g : Guid) (q : Query) :
    Alike ρ space v m g q ∨ ∃ f, v.answer (ρ g) space q = (.error f, v) := by
  by_cases hfits : q.Fits
  · exact .inl (h.alike g hfits)
  by_cases hputs : q.Puts
  · exact .inr ⟨_, hv.refuses (ρ g) hputs hfits⟩
  have hbad : ∀ {e : VolumeFailure}, v.step (ρ g) space q = .error e →
      ∃ f, v.answer (ρ g) space q = (.error f, v) := fun {e} hstep =>
    ⟨e.toStore, by rw [Volume.answer, hstep]⟩
  cases q with
  | list | assets => exact absurd (List.forall_mem_nil _) hfits
  | write | upsertAsset | track => exact absurd trivial hputs
  | firstWriter number updated =>
    exact .inl (h.firstWriter g (by simp [markerKey_eq, markerFront]))
  | removeAsset a =>
    by_cases hkey : octets a.key = []
    · exact .inr (hbad (by rw [Volume.step, hkey]; rfl))
    · exact .inl (h.removeAsset g hkey)
  | delete number =>
    by_cases hkey : octets number = []
    · exact .inr (hbad (by rw [Volume.step, Volume.delete, hkey]; rfl))
    · obtain ⟨v', hdelete, h'⟩ := h.exists_delete hkey
      refine .inl ⟨(), v', m.delete number, ?_, ?_, h'⟩
      · rw [Volume.step, hdelete]
        rfl
      · rw [Memory.answer, if_pos h.writable]
  | channels number =>
    by_cases hkey : octets number = []
    · exact .inr (hbad (by rw [Volume.step, Volume.followers, Volume.getValue, hkey]; rfl))
    · exact .inl (h.alike_channels g hkey)
  | untrack channel number =>
    by_cases hkey : octets number = []
    · exact .inr (hbad (by
        rw [Volume.step, Volume.untrack, Volume.followers, Volume.getValue, hkey]; rfl))
    · exact .inl (h.alike_untrack hv g channel hkey)

end Mirrors

end Store

namespace Rehearsal.Backing

open Store (Memory Volume Query Mirrors)

variable {b : Backing} {m : Memory} {log : List Store.Reply}

/-- A step in memory that does not fail, told of the tables in memory that a volume mirrors. -/
theorem Keeps.of_alike {v : Volume} {space : String} {g : Guid} {q : Query}
    (h : Keeps (.volume v space) m) (halike : Store.Alike id space v m g q) :
    ∃ a m' b', (Backing.volume v space).answer g q = (.ok a, b') ∧ m.answer g q = (.ok a, m') ∧
      b'.Keeps m' := by
  obtain ⟨a, v', m', hstep, hanswer, mirrors'⟩ := halike
  rw [id, Query.rename_id] at hstep
  have hvolume : v.answer g space q = (.ok a, v') := by rw [Volume.answer, hstep]
  cases h with
  | volume mirrors sound filed nameless =>
    have hputs : q.Puts → q.Fits := fun hputs => Decidable.not_not.1 fun hunfit => by
      rw [sound.refuses g hputs hunfit] at hvolume
      cases hvolume
    have filed' := filed.answer g q
    have nameless' := nameless.answer g hputs
    rw [hanswer] at filed' nameless'
    have sound' := (Volume.Sound.lasting _).step sound hstep
    refine ⟨a, m', .volume v' space, ?_, hanswer, .volume mirrors' sound' filed' nameless'⟩
    rw [Backing.answer, hvolume]

/-- **A store answers like the tables in memory that it keeps**, or it fails and stays as it was. -/
theorem Keeps.answers (h : b.Keeps m) (g : Guid) (q : Query) :
    (∃ f, b.answer g q = (.error f, b)) ∨
      ∃ a m' b', b.answer g q = (.ok a, b') ∧ m.answer g q = (.ok a, m') ∧ b'.Keeps m' := by
  cases h with
  | memory filed =>
    have filed' := filed.answer g q
    cases hanswer : m.answer g q with
    | mk r m' =>
      rw [hanswer] at filed'
      cases r with
      | error f =>
        obtain rfl := Memory.eq_of_answer_error hanswer
        exact .inl ⟨f, by rw [Backing.answer, hanswer]⟩
      | ok a => exact .inr ⟨a, m', .memory m', by rw [Backing.answer, hanswer], rfl, .memory filed'⟩
  | @volume v space _ mirrors sound filed nameless =>
    rcases mirrors.alike_or_refuses sound g q with halike | ⟨f, hf⟩
    · exact .inr ((Keeps.volume mirrors sound filed nameless).of_alike halike)
    · refine .inl ⟨f, ?_⟩
      rw [id] at hf
      rw [Backing.answer, hf]

/-- A volume has no key for a step: it refuses it and stays as it was. -/
def LacksKey (b : Backing) (q : Query) : Prop :=
  ∃ v space, b = .volume v space ∧ ∀ g, b.answer g q = (.error (.transaction Volume.badSize), b)

/-- What is put into a store is answered like in memory, unless its keys do not fit a volume. -/
theorem Keeps.answers_or_lacksKey (h : b.Keeps m) {q : Query} (hputs : q.Puts) :
    (∀ g, (b.answer g q).1 = (m.answer g q).1) ∨ ¬q.Fits ∧ b.LacksKey q := by
  cases h with
  | memory => exact .inl fun _ => rfl
  | @volume v space _ mirrors sound filed nameless =>
    by_cases hfits : q.Fits
    · refine .inl fun g => ?_
      obtain ⟨_, _, _, hanswer, hmemory, -⟩ :=
        (Keeps.volume mirrors sound filed nameless).of_alike (mirrors.alike g hfits)
      rw [hanswer, hmemory]
    · refine .inr ⟨hfits, v, space, rfl, fun g => ?_⟩
      rw [Backing.answer, sound.refuses g hputs hfits]

/-! ## Stores with their past -/

/-- The stores that come about from an empty one, with what each of them has been asked and answered on
the way. A volume may hold other namespaces beside that of the store. -/
inductive Past : List Store.Reply → Backing → Prop
  /-- an empty store in memory -/
  | empty : Past [] (.memory .empty)
  /-- a store on a volume that is opened for the first time -/
  | opened {v₀ v : Volume} {space : String} {megabytes : Nat}
      (hopen : openSpace (v₀.openAgain megabytes) space = .ok (.ok (.volume v space)))
      (hvacant : ∀ kind, v.table space kind = ∅) : Past [] (.volume v space)
  /-- a step on the store -/
  | ask {log : List Store.Reply} {b : Backing} (h : Past log b) (fresh : Guid) (q : Query) :
      Past (log ++ [⟨q, (b.answer fresh q).1⟩]) (b.answer fresh q).2
  /-- writing is allowed in memory, or no longer -/
  | switch {log : List Store.Reply} {m : Memory} (h : Past log (.memory m)) (writable : Bool) :
      Past log (.memory { m with writable })
  /-- a namespace of the volume is opened, maybe that of the store once more -/
  | reopened {log : List Store.Reply} {v w : Volume} {space other : String} {megabytes : Nat}
      (h : Past log (.volume v space))
      (hopen : openSpace (v.openAgain megabytes) other = .ok (.ok (.volume w other))) :
      Past log (.volume w space)
  /-- a step on the store of another namespace -/
  | elsewhere {log : List Store.Reply} {v : Volume} {space other : String}
      (h : Past log (.volume v space)) (hother : other ≠ space) (fresh : Guid) (q : Query) :
      Past log (.volume (v.answer fresh other q).2 space)

/-- The answers of a store that is asked one thing after another, and the store after that. All writes get
the same token. -/
def asked (g : Guid) : List Query → Backing → List Store.Reply × Backing
  | [], b => ([], b)
  | q :: qs, b =>
    let (replies, b') := asked g qs (b.answer g q).2
    (⟨q, (b.answer g q).1⟩ :: replies, b')

theorem Past.asked (h : Past log b) (g : Guid) (qs : List Query) :
    Past (log ++ (b.asked g qs).1) (b.asked g qs).2 := by
  induction qs generalizing log b with
  | nil => simpa [Backing.asked] using h
  | cons q qs ih => simpa [Backing.asked] using ih (h.ask g q)

/-- What tables in memory have to do with what they have been asked and answered, if nothing but the
answers to come changes it. -/
structure Abides (P : List Store.Reply → Memory → Prop) : Prop where
  empty : P [] .empty
  switch : ∀ {log m}, P log m → ∀ writable, P log { m with writable }
  fails : ∀ {log m}, P log m → ∀ (q : Query) f, P (log ++ [⟨q, .error f⟩]) m
  answers : ∀ {log m m' g} {q : Query} {a}, P log m → m.answer g q = (.ok a, m') →
    P (log ++ [⟨q, .ok a⟩]) m'

/-- **Every store keeps tables in memory with the same past.** -/
theorem Past.keeps (h : Past log b) {P : List Store.Reply → Memory → Prop} (hP : Abides P) :
    ∃ m, b.Keeps m ∧ P log m := by
  induction h with
  | empty => exact ⟨_, .memory Memory.filed_empty, hP.empty⟩
  | opened hopen hvacant =>
    exact ⟨.empty, .volume (.vacant hvacant) (.of_opened hopen hvacant) Memory.filed_empty
      Memory.nameless_empty, hP.empty⟩
  | ask _ g q ih =>
    obtain ⟨m, hm, hpast⟩ := ih
    rcases hm.answers g q with ⟨f, hf⟩ | ⟨a, m', b', hb, hanswer, hm'⟩
    · rw [hf]
      exact ⟨m, hm, hP.fails hpast q f⟩
    · rw [hb]
      exact ⟨m', hm', hP.answers hpast hanswer⟩
  | switch _ writable ih =>
    obtain ⟨m, ⟨filed⟩, hpast⟩ := ih
    exact ⟨_, .memory filed, hP.switch hpast writable⟩
  | reopened _ hopen ih =>
    obtain ⟨m, hm, hpast⟩ := ih
    exact ⟨m, hm.spares fun hv => .openSpace hv hopen, hpast⟩
  | elsewhere _ hother g q ih =>
    obtain ⟨m, hm, hpast⟩ := ih
    exact ⟨m, hm.spares fun _ => (Volume.Spares.lasting hother _).answer (.refl _ _) g q, hpast⟩

end Rehearsal.Backing

end CaseHerald
