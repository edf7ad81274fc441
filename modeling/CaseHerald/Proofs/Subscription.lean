import CaseHerald.Proofs.Addresses
import CaseHerald.Proofs.Handled
import CaseHerald.Rehearsal.World
import Mathlib.Logic.Function.Basic

/-!
# What subscribing to a new case comes to

The lists of the assets above a case are subscribed one after the other, against subscribers that grow
with each. Some channels may fail, and which asset signs the comment depends on who added the first
address. The invariant of the loop (`Gathered`) says in closed form what is there after some of the
assets: the addresses on their lists that are new to the first subscribers, each once. So the order in
which channels fail and lists overlap makes no difference to the rest (`subscribes_exactly`): the assets
with failing channels might as well not be there, and doing it again adds nothing.

## Main definitions

* `Roster` - the subscribers of each case, and the channels that fail.
* `Serves h roster` - subscriptions add the addresses that are new and answer them.
* `Announces` - the comment that is made of the new addresses, and the count of failures.
* `SubscribesExactly` - what subscribing to a case does to a roster, and answers.
-/
namespace CaseHerald.Watch

variable {σ : Type}

/-! ## Rosters -/

/-- The subscribers of each case, and the channels through which nobody can be subscribed. -/
structure Roster where
  subscribers : String → List String
  failing : String → Bool

namespace Roster

/-- The roster with the addresses that are new to a case. -/
def add (d : Roster) (number : String) (emails : List String) : Roster :=
  ⟨Function.update d.subscribers number (d.subscribers number ++ newTo (d.subscribers number) emails),
    d.failing⟩

variable (d : Roster) (number : String)

@[simp] theorem failing_add (emails : List String) : (d.add number emails).failing = d.failing := rfl

@[simp] theorem subscribers_add (emails : List String) :
    (d.add number emails).subscribers number =
      d.subscribers number ++ newTo (d.subscribers number) emails := Function.update_self ..

theorem add_of_known {emails : List String} (h : newTo (d.subscribers number) emails = []) :
    d.add number emails = d := by
  rw [add, h, List.append_nil, Function.update_eq_self]

theorem add_add (emails es : List String) :
    (d.add number emails).add number es = d.add number (emails ++ es) := by
  rw [add, subscribers_add, add, add, Function.update_idem, newTo_append, List.append_assoc]

end Roster

/-- The subscriptions of a handler add the addresses that are new and answer them, except through the
channels that fail, and nothing else changes its roster. -/
structure Serves (h : Proc.Handler interface σ) (roster : σ → Roster) : Prop where
  refuses : ∀ channel number emails user s, (roster s).failing channel = true →
    ∃ f t, h (.subscribe channel number emails user) s = (.error f, t) ∧ roster t = roster s
  adds : ∀ channel number emails user s, (roster s).failing channel = false →
    ∃ t, h (.subscribe channel number emails user) s =
      (.ok (newTo ((roster s).subscribers number) emails), t) ∧ roster t = (roster s).add number emails
  aside : ∀ q s, (∀ channel number emails user, q ≠ .subscribe channel number emails user) →
    roster (h q s).2 = roster s

/-! ## The desk for rehearsals -/

end CaseHerald.Watch

namespace CaseHerald.Rehearsal

open Watch

theorem World.desk_ask (w : World) (q : Store.Query) : (w.ask q).2.desk = w.desk := by
  obtain ⟨_, _, _, hask⟩ := w.exists_ask q
  rw [hask]

namespace Desk

/-- The subscribers at a desk, and the channels that fail there. -/
def roster (d : Desk) : Roster := ⟨d.subscribersOf, d.failingChannels.contains⟩

theorem subscribersOf_withSubscribers (d : Desk) (number : String) (emails : List String) :
    (d.withSubscribers number emails).subscribersOf = Function.update d.subscribersOf number emails := by
  funext other
  by_cases hother : other = number
  · subst hother
    simp [subscribersOf, withSubscribers, valueOf?]
  · have hrest : ∀ e : String × List String, decide ((e.1 != number) = true ∧ (e.1 == other) = true) =
        (e.1 == other) := by
      intro e
      by_cases he : e.1 = other <;> simp [he, hother]
    have hne : (number == other) = false := by simpa using fun h => hother h.symm
    rw [Function.update_of_ne hother, subscribersOf, withSubscribers, valueOf?, List.find?_cons, hne,
      List.find?_filter, funext hrest]
    rfl

theorem subscribe_fail {d : Desk} {channel : String} (hf : d.roster.failing channel = true)
    (number : String) (emails : List String) :
    d.subscribe channel number emails = (.error (refusal channel), d) := if_pos hf

theorem subscribe_add {d : Desk} {channel : String} (hf : d.roster.failing channel = false)
    (number : String) (emails : List String) :
    ∃ d', d.subscribe channel number emails = (.ok (newTo (d.roster.subscribers number) emails), d') ∧
      d'.roster = d.roster.add number emails := by
  have hafter := foldl_addAddress (d.subscribersOf number) emails
  have hworks : ¬d.failingChannels.contains channel = true := by
    rw [show d.failingChannels.contains channel = false from hf]
    exact Bool.false_ne_true
  refine ⟨d.withSubscribers number (d.subscribersOf number ++ newTo (d.subscribersOf number) emails),
    ?_, ?_⟩
  · rw [subscribe, if_neg hworks]
    simp only [hafter, List.drop_left, roster]
  · exact congrArg (Roster.mk · d.roster.failing) (subscribersOf_withSubscribers d number _)

end Desk

/-- **The desk for rehearsals serves.** -/
theorem World.serves_handler (name : String) : Serves (handler name) fun w => w.desk.roster where
  refuses channel number emails user w hf := by
    have hdesk := Desk.subscribe_fail hf number emails
    exact ⟨Desk.refusal channel, w, by simp only [handler, hdesk], rfl⟩
  adds channel number emails user w hf := by
    obtain ⟨d, hdesk, hroster⟩ := Desk.subscribe_add hf number emails
    exact ⟨{ w with desk := d }, by simp only [handler, hdesk], hroster⟩
  aside q w hq := by
    cases q with
    | subscribe channel number emails user => exact absurd rfl (hq channel number emails user)
    | store q => exact congrArg Desk.roster (w.desk_ask q)
    | find l =>
      simp only [handler]
      split <;> rfl
    | comment c =>
      simp only [handler, Desk.comment]
      split <;> rfl
    | _ => rfl

end CaseHerald.Rehearsal

namespace CaseHerald.Watch

variable {σ : Type}

/-! ## The lists of some assets -/

/-- The lists of the assets whose channels work, one after the other. -/
def served (failing : String → Bool) (assets : List Asset) : List String :=
  (assets.filter fun a => !failing a.channel).flatMap Asset.ccList

/-- Whether the channel of an asset works and its list has an address that is not known. -/
def contributes (failing : String → Bool) (known : List String) (a : Asset) : Bool :=
  !failing a.channel && a.ccList.any fun e => !decide (Knows known e)

section Lists

variable {failing : String → Bool} {known : List String} {assets : List Asset} {a : Asset}
  {e : String}

theorem served_concat_fail (front : List Asset) (ha : failing a.channel = true) :
    served failing (front ++ [a]) = served failing front := by
  simp [served, ha]

theorem served_concat_work (front : List Asset) (ha : failing a.channel = false) :
    served failing (front ++ [a]) = served failing front ++ a.ccList := by
  simp [served, ha]

theorem mem_served : e ∈ served failing assets ↔
    ∃ a ∈ assets, failing a.channel = false ∧ e ∈ a.ccList := by
  simp [served, List.mem_flatMap, and_assoc]

theorem contributes_iff : contributes failing known a = true ↔
    failing a.channel = false ∧ newTo known a.ccList ≠ [] := by
  rw [contributes, Bool.and_eq_true, Ne, newTo_eq_nil_iff]
  simp

/-- Nothing is added by assets of which none contributes, and by no others. -/
theorem newTo_served_eq_nil_iff : newTo known (served failing assets) = [] ↔
    assets.find? (contributes failing known) = none := by
  simp only [newTo_eq_nil_iff, mem_served, List.find?_eq_none, contributes_iff, not_and, not_not]
  constructor
  · intro h a ha hworks e he
    exact h e ⟨a, ha, hworks, he⟩
  · rintro h e ⟨a, ha, hworks, he⟩
    exact h a ha hworks e he

end Lists

/-! ## One asset after another -/

/-- The comment that is tried, and whether it is made. -/
def Exchange.comment? : Exchange → Option (CommentRequest × Bool)
  | ⟨.comment c, .ok _⟩ => some (c, true)
  | ⟨.comment c, .error _⟩ => some (c, false)
  | _ => none

/-- What has been gathered when the list of one more asset has been tried. -/
def Gathering.after (g : Gathering) (a : Asset) : Except Failure (List String) → Gathering
  | .error _ => { g with sofar := { g.sofar with failures := g.sofar.failures + 1 } }
  | .ok emails =>
    let added := emails.foldl addAddress g.sofar.added
    ⟨{ g.sofar with added },
      if added.length = g.sofar.added.length then g.first else g.first.or (some a)⟩

/-- What has been gathered from some assets, if the roster was `d` before. -/
structure Gathered (d : Roster) (number : String) (front : List Asset) (g : Gathering) : Prop where
  added : g.sofar.added = newTo (d.subscribers number) (served d.failing front)
  commented : g.sofar.commented = false
  failures : g.sofar.failures = front.countP fun a => d.failing a.channel
  first : g.first = front.find? (contributes d.failing (d.subscribers number))

section Loop

variable {h : Proc.Handler interface σ} {roster : σ → Roster} {s t : σ} {d : Roster} {number : String}
  {front : List Asset} {g : Gathering} {a : Asset}

/-- An asset whose channel fails is counted. -/
theorem Gathered.fail (hg : Gathered d number front g) (ha : d.failing a.channel = true) (f : Failure) :
    Gathered d number (front ++ [a]) (g.after a (.error f)) where
  added := by rw [Gathering.after, hg.added, served_concat_fail front ha]
  commented := hg.commented
  failures := by simp [Gathering.after, hg.failures, List.countP_append, ha]
  first := by
    have hnot : contributes d.failing (d.subscribers number) a = false := by simp [contributes, ha]
    simp [Gathering.after, hg.first, List.find?_append, hnot]

/-- An asset whose channel works adds what is new on its list. -/
theorem Gathered.serve (hg : Gathered d number front g) (ha : d.failing a.channel = false)
    {emails : List String}
    (hemails : emails = newTo (d.subscribers number ++ g.sofar.added) a.ccList) :
    Gathered d number (front ++ [a]) (g.after a (.ok emails)) := by
  have hnew : newTo g.sofar.added emails = emails := by
    have hstrange := newTo_strange (d.subscribers number ++ g.sofar.added) a.ccList
    rw [← hemails] at hstrange
    exact (hstrange.mono (List.subset_append_right _ _)).newTo_eq
  rw [Gathering.after, foldl_addAddress, hnew]
  refine ⟨?_, hg.commented, ?_, ?_⟩
  · rw [served_concat_work front ha, newTo_append, ← hg.added, ← hemails]
  · simp [hg.failures, List.countP_append, ha]
  · rw [List.find?_append, hg.first, List.length_append]
    cases hfirst : front.find? (contributes d.failing (d.subscribers number)) with
    | some b => simp
    | none =>
      -- nobody has added anything yet, so that the list meets the first subscribers
      have hnone : g.sofar.added = [] := by rw [hg.added, newTo_served_eq_nil_iff, hfirst]
      rw [hnone, List.append_nil] at hemails
      have hone : contributes d.failing (d.subscribers number) a = decide (emails ≠ []) := by
        rw [Bool.eq_iff_iff, contributes_iff, decide_eq_true_iff, hemails]
        exact and_iff_right ha
      cases emails <;> simp [hone]

theorem handled_subscribe {channel user : String} {emails : List String}
    {reply : Except Failure (List String)}
    (hr : h (.subscribe channel number emails user) s = (reply, t)) :
    Handled h (subscribe channel number emails user).run s
      [⟨.subscribe channel number emails user, reply⟩] reply t :=
  (Handled.request hr).ask_id

theorem handled_subscribeAsset {reply : Except Failure (List String)}
    (hr : h (.subscribe a.channel number a.ccList a.user) s = (reply, t)) :
    Handled h (subscribeAsset number g a).run s
      [⟨.subscribe a.channel number a.ccList a.user, reply⟩] (.ok (g.after a reply)) t := by
  refine (handled_subscribe hr).caught.bind_ok_done ?_
  cases reply <;> rfl

/-- **One asset keeps the invariant.** -/
theorem gathers_one (hs : Serves h roster) (hg : Gathered d number front g)
    (hd : roster s = d.add number (served d.failing front)) (a : Asset) :
    ∃ log g' t, Handled h (subscribeAsset number g a).run s log (.ok g') t ∧
      log.filterMap Exchange.comment? = [] ∧ Gathered d number (front ++ [a]) g' ∧
      roster t = d.add number (served d.failing (front ++ [a])) := by
  have hfailing : (roster s).failing = d.failing := by rw [hd, Roster.failing_add]
  have hknown : (roster s).subscribers number = d.subscribers number ++ g.sofar.added := by
    rw [hd, Roster.subscribers_add, hg.added]
  cases ha : d.failing a.channel with
  | true =>
    obtain ⟨f, t, hr, hroster⟩ := hs.refuses a.channel number a.ccList a.user s (hfailing ▸ ha)
    refine ⟨_, _, t, handled_subscribeAsset hr, rfl, hg.fail ha f, ?_⟩
    rw [hroster, hd, served_concat_fail front ha]
  | false =>
    obtain ⟨t, hr, hroster⟩ := hs.adds a.channel number a.ccList a.user s (hfailing ▸ ha)
    refine ⟨_, _, t, handled_subscribeAsset hr, rfl, hg.serve ha (by rw [hknown]), ?_⟩
    rw [hroster, hd, Roster.add_add, served_concat_work front ha]

/-- **Any assets keep the invariant**, by induction on them. -/
theorem gathers (hs : Serves h roster) (hg : Gathered d number front g)
    (hd : roster s = d.add number (served d.failing front)) (assets : List Asset) :
    ∃ log g' t, Handled h (assets.foldlM (subscribeAsset number) g).run s log (.ok g') t ∧
      log.filterMap Exchange.comment? = [] ∧ Gathered d number (front ++ assets) g' ∧
      roster t = d.add number (served d.failing (front ++ assets)) := by
  induction assets generalizing front g s with
  | nil =>
    rw [List.append_nil]
    exact ⟨[], g, s, .done h _ s, rfl, hg, hd⟩
  | cons a assets ih =>
    obtain ⟨first, g₁, t, hone, hfirst, hg₁, hd₁⟩ := gathers_one hs hg hd a
    obtain ⟨rest, g₂, u, hall, hrest, hg₂, hd₂⟩ := ih hg₁ hd₁
    rw [← List.append_cons] at hg₂ hd₂
    refine ⟨first ++ rest, g₂, u, hone.bind_ok hall, ?_, hg₂, hd₂⟩
    rw [List.filterMap_append, hfirst, hrest, List.append_nil]

/-! ## The comment -/

/-- The comment that an asset signs. It lists the addresses in order and is announced to nobody. -/
def commentOf (number : String) (added : List String) (a : Asset) : CommentRequest :=
  { channel := a.channel
    caseNumber := number
    body := "The following emails have been added automatically through asset subscription: " ++
      String.intercalate ", " added
    user := a.user
    author := "Auto Asset Subscription"
    announced := false }

/-- What is answered and which comments are tried, if `n` assets have failed and the addresses have been
added, from the first asset on: none if there are none, and one that names them all otherwise. -/
inductive Announces (number : String) (n : Nat) :
    List String → Option Asset → Subscribed → List (CommentRequest × Bool) → Prop
  | silent : Announces number n [] none ⟨[], false, n⟩ []
  | once {added : List String} {a : Asset} {made : Bool} (new : added ≠ []) :
      Announces number n added (some a) ⟨added, made, n + if made then 0 else 1⟩
        [(commentOf number added a, made)]

namespace Announces

variable {n : Nat} {added : List String} {first : Option Asset} {out : Subscribed}
  {comments : List (CommentRequest × Bool)}

theorem added_eq (ha : Announces number n added first out comments) : out.added = added := by
  cases ha <;> rfl

theorem asked_eq (ha : Announces number n added first out comments) :
    comments.map Prod.fst = (first.map (commentOf number added)).toList := by
  cases ha <;> rfl

theorem eq_nil (ha : Announces number n [] first out comments) : comments = [] := by
  cases ha with
  | silent => rfl
  | once new => exact absurd rfl new

end Announces

/-- The end of `autoSubscribe`, when the lists have been gone through. -/
def announceNew (number : String) (g : Gathering) : Step Subscribed :=
  match g.first with
  | none => return g.sofar
  | some a => do
    match ← (comment (commentOf number g.sofar.added a)).caught with
    | .ok () => return { g.sofar with commented := true }
    | .error _ => return { g.sofar with failures := g.sofar.failures + 1 }

theorem handled_comment {c : CommentRequest} {reply : Except Failure Unit}
    (hr : h (.comment c) s = (reply, t)) :
    Handled h (comment c).run s [⟨.comment c, reply⟩] reply t := (Handled.request hr).ask_id

/-- **The comment names what has been gathered.** -/
theorem Gathered.announces (hs : Serves h roster) (hg : Gathered d number front g) (s : σ) :
    ∃ log out t, Handled h (announceNew number g).run s log (.ok out) t ∧
      Announces number (front.countP fun a => d.failing a.channel) g.sofar.added g.first out
        (log.filterMap Exchange.comment?) ∧ roster t = roster s := by
  have hnone : g.sofar.added = [] ↔ g.first = none := by
    rw [hg.added, hg.first, newTo_served_eq_nil_iff]
  obtain ⟨⟨added, commented, failures⟩, first⟩ := g
  obtain ⟨-, rfl, rfl, -⟩ := hg
  cases first with
  | none =>
    cases hnone.2 rfl
    exact ⟨[], _, s, .done h _ s, .silent, rfl⟩
  | some a =>
    have hnew : added ≠ [] := fun hnil => nomatch hnone.1 hnil
    have hroster : roster (h (.comment (commentOf number added a)) s).2 = roster s :=
      hs.aside _ s nofun
    cases hr : h (.comment (commentOf number added a)) s with
    | mk reply t =>
      rw [hr] at hroster
      cases reply with
      | ok => exact ⟨_, _, t, (handled_comment hr).caught.bind_ok_done rfl, .once hnew, hroster⟩
      | error f =>
        exact ⟨_, _, t, (handled_comment hr).caught.bind_ok_done rfl, .once hnew, hroster⟩

end Loop

/-! ## Whole runs -/

/-- The assets that a place lies below and whose lists are not empty. -/
def concerned (place : Ancestry) (assets : List Asset) : List Asset :=
  assets.filter fun a => place.isBelow a && !a.ccList.isEmpty

/-- What is told of a case before anybody is subscribed: the assets, and where the case lies. -/
structure Briefed (h : Proc.Handler interface σ) (r : CaseRecord) (s : σ) (assets : List Asset)
    (place : Ancestry) : Prop where
  registered : (h (.store .assets) s).1 = .ok assets
  placed : ((ancestry r).outcome.run h (h (.store .assets) s).2).1 = .ok (.ok place)

/-- The program answers after it has tried the comments. -/
def Subscribes (h : Proc.Handler interface σ) (r : CaseRecord) (s : σ)
    (comments : List (CommentRequest × Bool)) (out : Subscribed) (t : σ) : Prop :=
  ∃ log, Handled h (autoSubscribe r).outcome s log (.ok out) t ∧
    log.filterMap Exchange.comment? = comments

/-- What the lists of some assets come to, in closed form. -/
structure Settles (before : Roster) (number : String) (below : List Asset)
    (comments : List (CommentRequest × Bool)) (out : Subscribed) (after : Roster) : Prop where
  after_eq : after = before.add number (served before.failing below)
  announces : Announces number (below.countP fun a => before.failing a.channel)
    (newTo (before.subscribers number) (served before.failing below))
    (below.find? (contributes before.failing (before.subscribers number))) out comments

section Runs

variable {h : Proc.Handler interface σ} {roster : σ → Roster} {r : CaseRecord} {s : σ}
  {assets : List Asset} {place : Ancestry}

/-- Placing a case makes no comment, and subscribes nobody. -/
theorem handled_placed (hs : Serves h roster)
    (hp : ((ancestry r).outcome.run h s).1 = .ok (.ok place)) :
    ∃ log t, Handled h ((ancestry r).wrap Failure.hierarchy).run s log (.ok place) t ∧
      log.filterMap Exchange.comment? = [] ∧ roster t = roster s := by
  have hplaced := Handled.of_run hp
  refine ⟨_, _, hplaced.ask_ok, List.filterMap_eq_nil_iff.2 fun x hx => ?_,
    hplaced.view_eq (asks_ancestry r) fun q s hq => ?_⟩
  · obtain ⟨q, reply⟩ := x
    obtain ⟨l, hl⟩ := hplaced.asks (asks_ancestry r) _ hx
    cases hl
    rfl
  · obtain ⟨l, rfl⟩ := hq
    exact hs.aside _ s nofun

/-- **The program goes through the lists that concern the case.** -/
theorem exists_subscribes (hs : Serves h roster) (hb : Briefed h r s assets place) :
    ∃ comments out t, Subscribes h r s comments out t ∧
      Settles (roster s) r.number (concerned place assets) comments out (roster t) := by
  obtain ⟨hregistered, hplaced⟩ := hb
  have hstore : Handled h (store .assets).run s [⟨.store .assets, .ok assets⟩] (.ok assets)
      (h (.store .assets) s).2 := (Handled.request (Prod.ext hregistered rfl)).ask_ok
  have hroster : roster (h (.store .assets) s).2 = roster s := hs.aside _ s nofun
  cases assets with
  | nil =>
    refine ⟨_, .none, _, ⟨_, hstore.bind_ok_done rfl, rfl⟩, ?_, .silent⟩
    rw [hroster]
    exact ((roster s).add_of_known r.number rfl).symm
  | cons first rest =>
    obtain ⟨walk, t, hwalk, hsilent, ht⟩ := handled_placed hs hplaced
    have hstart : Gathered (roster s) r.number [] ⟨.none, none⟩ := ⟨rfl, rfl, rfl, rfl⟩
    have hbefore : roster t = (roster s).add r.number (served (roster s).failing []) := by
      rw [ht, hroster]
      exact ((roster s).add_of_known r.number rfl).symm
    obtain ⟨middle, g, u, hmiddle, hquiet, hg, hu⟩ :=
      gathers hs hstart hbefore (concerned place (first :: rest))
    obtain ⟨last, out, v, hlast, hannounces, hv⟩ := hg.announces hs u
    rw [List.nil_append] at hu hg hannounces
    refine ⟨_, out, v, ⟨_, hstore.bind_ok (hwalk.bind_ok (hmiddle.bind_ok hlast)), rfl⟩, ?_, ?_⟩
    · rw [hv, hu]
    · rw [hg.added, hg.first] at hannounces
      rwa [List.filterMap_append, List.filterMap_append, List.filterMap_append, hsilent, hquiet]

end Runs

/-! ## The law -/

/-- The asset is the organization of the place, or one of its folders or ids of its project. -/
def Above (place : Ancestry) (a : Asset) : Prop :=
  (a.kind = .organization ∧ place.organization = some a.bareId) ∨
    (a.kind = .folder ∧ a.bareId ∈ place.folders) ∨ (a.kind = .project ∧ a.bareId ∈ place.project)

theorem isBelow_iff {place : Ancestry} {a : Asset} : place.isBelow a = true ↔ Above place a := by
  obtain ⟨channel, kind, id, ccList, user⟩ := a
  cases kind <;> simp [Ancestry.isBelow, Above]

/-- What subscribing to a case does to a roster, and answers. -/
structure SubscribesExactly (before : Roster) (number : String) (place : Ancestry) (assets : List Asset)
    (comments : List (CommentRequest × Bool)) (out : Subscribed) (after : Roster) : Prop where
  /-- the case has the subscribers that it had, and after them those that were added -/
  subscribers : after.subscribers number = before.subscribers number ++ out.added
  /-- other cases keep theirs -/
  others : ∀ other, other ≠ number → after.subscribers other = before.subscribers other
  /-- nobody is added who was there, in any letter case -/
  new : ∀ e ∈ out.added, ∀ k ∈ before.subscribers number, ¬sameAddress k e = true
  /-- nobody is added twice, in any letter case -/
  distinct : out.added.Pairwise fun e d => ¬sameAddress e d = true
  /-- everybody on a list that concerns the case is there, unless its channel fails -/
  complete : ∀ a ∈ assets, Above place a → before.failing a.channel = false →
    ∀ e ∈ a.ccList, ∃ k ∈ after.subscribers number, sameAddress k e = true
  /-- nobody else is added -/
  sound : ∀ e ∈ out.added, ∃ a ∈ assets, Above place a ∧
    before.failing a.channel = false ∧ e ∈ a.ccList
  /-- one comment is tried if anybody is added, through the first asset that adds somebody -/
  announces : Announces number
    (assets.countP fun a => place.isBelow a && !a.ccList.isEmpty && before.failing a.channel) out.added
    (assets.find? fun a => place.isBelow a && contributes before.failing (before.subscribers number) a)
    out comments

section Law

variable {before after : Roster} {number : String} {place : Ancestry} {assets : List Asset}
  {comments : List (CommentRequest × Bool)} {out : Subscribed} {failing : String → Bool} {a : Asset}
  {e : String}

theorem mem_served_concerned : e ∈ served failing (concerned place assets) ↔
    ∃ a ∈ assets, Above place a ∧ failing a.channel = false ∧ e ∈ a.ccList := by
  simp only [mem_served, concerned, List.mem_filter, Bool.and_eq_true, isBelow_iff]
  constructor
  · rintro ⟨a, ⟨ha, hbelow, -⟩, hworks, he⟩
    exact ⟨a, ha, hbelow, hworks, he⟩
  · rintro ⟨a, ha, hbelow, hworks, he⟩
    exact ⟨a, ⟨ha, hbelow, by simpa using List.ne_nil_of_mem he⟩, hworks, he⟩

theorem find?_contributes_concerned (known : List String) :
    (concerned place assets).find? (contributes failing known) =
      assets.find? fun a => place.isBelow a && contributes failing known a := by
  rw [concerned, List.find?_filter]
  congr 1
  funext a
  -- the list of an asset that contributes is not empty
  cases hlist : a.ccList with
  | nil => simp [contributes, hlist]
  | cons e es => simp

theorem Settles.added_eq (hs : Settles before number (concerned place assets) comments out after) :
    out.added = newTo (before.subscribers number) (served before.failing (concerned place assets)) :=
  hs.announces.added_eq

theorem Settles.exactly (hs : Settles before number (concerned place assets) comments out after) :
    SubscribesExactly before number place assets comments out after := by
  have hstrange := newTo_strange (before.subscribers number)
    (served before.failing (concerned place assets))
  rw [← hs.added_eq, strange_iff] at hstrange
  have hafter : after.subscribers number = before.subscribers number ++ out.added := by
    rw [hs.after_eq, Roster.subscribers_add, hs.added_eq]
  refine ⟨hafter, fun other hother => ?_, fun e he k hk hsame => hstrange.1 e he ⟨k, hk, hsame⟩,
    hstrange.2, fun a ha hbelow hworks e he => ?_, fun e he => ?_, ?_⟩
  · rw [hs.after_eq]
    exact Function.update_of_ne hother _ _
  · rw [hafter, hs.added_eq]
    exact knows_newTo _ (mem_served_concerned.2 ⟨a, ha, hbelow, hworks, he⟩)
  · rw [hs.added_eq] at he
    exact mem_served_concerned.1 ((newTo_sublist _ _).subset he)
  · have hannounces := hs.announces
    rw [find?_contributes_concerned, ← hs.added_eq, concerned, List.countP_filter] at hannounces
    simpa only [Bool.and_comm, Bool.and_assoc] using hannounces

/-- The assets whose channels fail might as well not be there. -/
theorem Settles.working {below : List Asset} {after' : Roster} {comments' : List (CommentRequest × Bool)}
    {out' : Subscribed} (hs : Settles before number below comments out after)
    (hs' : Settles before number (below.filter fun a => !before.failing a.channel) comments' out' after') :
    out'.added = out.added ∧ after' = after ∧ comments'.map Prod.fst = comments.map Prod.fst := by
  have hserved : served before.failing (below.filter fun a => !before.failing a.channel) =
      served before.failing below := by
    simp only [served, List.filter_filter, Bool.and_self]
  have hfirst : (below.filter fun a => !before.failing a.channel).find?
      (contributes before.failing (before.subscribers number)) =
        below.find? (contributes before.failing (before.subscribers number)) := by
    rw [List.find?_filter]
    congr 1
    funext a
    cases hworks : before.failing a.channel with
    | true => simp [contributes, hworks]
    | false => simp
  obtain ⟨rfl, hannounces⟩ := hs
  obtain ⟨rfl, hannounces'⟩ := hs'
  rw [hserved, hfirst] at hannounces'
  refine ⟨?_, by rw [hserved], ?_⟩
  · rw [hannounces.added_eq, hannounces'.added_eq]
  · rw [hannounces.asked_eq, hannounces'.asked_eq]

/-- Subscribing the same lists again changes nothing. -/
theorem Settles.again {below : List Asset} {after' : Roster} {comments' : List (CommentRequest × Bool)}
    {out' : Subscribed} (hs : Settles before number below comments out after)
    (hs' : Settles after number below comments' out' after') :
    out'.added = [] ∧ comments' = [] ∧ after' = after := by
  obtain ⟨rfl, -⟩ := hs
  obtain ⟨rfl, hannounces⟩ := hs'
  have hnone : newTo ((before.add number (served before.failing below)).subscribers number)
      (served before.failing below) = [] := by
    rw [Roster.subscribers_add, newTo_newTo]
  rw [Roster.failing_add, hnone] at hannounces
  exact ⟨hannounces.added_eq, hannounces.eq_nil, Roster.add_of_known _ _ hnone⟩

end Law

section Runs

variable {h : Proc.Handler interface σ} {roster : σ → Roster} {r : CaseRecord} {s : σ}
  {assets : List Asset} {place : Ancestry}

/-- **Subscribing to a case is complete and free of duplicates**, the assets whose channels fail might as
well not be there, and doing it again adds nothing and makes no comment. -/
theorem subscribes_exactly (hs : Serves h roster) (hb : Briefed h r s assets place) :
    ∃ comments out t, Subscribes h r s comments out t ∧
      SubscribesExactly (roster s) r.number place assets comments out (roster t) ∧
      (∀ s', roster s' = roster s →
        Briefed h r s' (assets.filter fun a => !(roster s).failing a.channel) place →
          ∃ comments' out' t', Subscribes h r s' comments' out' t' ∧ out'.added = out.added ∧
            roster t' = roster t ∧ comments'.map Prod.fst = comments.map Prod.fst) ∧
      ∀ s', roster s' = roster t → Briefed h r s' assets place →
        ∃ out' t', Subscribes h r s' [] out' t' ∧ out'.added = [] ∧ roster t' = roster t := by
  obtain ⟨comments, out, t, hrun, hsettles⟩ := exists_subscribes hs hb
  refine ⟨comments, out, t, hrun, hsettles.exactly, fun s' hs' hb' => ?_, fun s' hs' hb' => ?_⟩
  · obtain ⟨comments', out', t', hrun', hsettles'⟩ := exists_subscribes hs hb'
    rw [hs', concerned, List.filter_comm] at hsettles'
    exact ⟨comments', out', t', hrun', hsettles.working hsettles'⟩
  · obtain ⟨comments', out', t', hrun', hsettles'⟩ := exists_subscribes hs hb'
    rw [hs'] at hsettles'
    obtain ⟨hadded, rfl, hroster⟩ := hsettles.again hsettles'
    exact ⟨out', t', hrun', hadded, hroster⟩

end Runs

/-! ## Lists that overlap -/

open Rehearsal (World)

/-- A case in a project of a folder. -/
def posted : CaseRecord := ⟨"7", "projects/555", "", .active, ⟨Fin.last 4⟩, false, .closingMark, []⟩

/-- Assets on the way up from the project, of which the first has a channel that fails, and one
elsewhere. -/
def overlapping : List Asset :=
  [⟨"C0", .project, "p", ["d@x.org"], "U0"⟩, ⟨"C1", .folder, "11", ["a@x.org", "B@x.org"], "U1"⟩,
    ⟨"C2", .organization, "9", ["b@X.org", "c@x.org"], "U2"⟩, ⟨"C3", .folder, "12", ["z@x.org"], "U3"⟩]

/-- A store with the assets. -/
def registry (assets : List Asset) : Store.Memory :=
  assets.foldl (fun m a => (m.answer (.ofNat 0) (.upsertAsset a)).2) .empty

/-- Surroundings with the assets, in which somebody has subscribed to the case. -/
def subscribed (assets : List Asset) : World :=
  { World.new (.memory (registry assets)) with
    tree := ⟨[], [("555", ⟨⟨"projects/555", "p", "folders/11"⟩, true⟩)],
      [("11", ⟨"folders/11", "organizations/9"⟩)]⟩
    desk := ⟨[("7", ["A@x.org"])], [], ["C0"], false⟩ }

theorem subscribes_exactly_overlapping :
    Briefed (World.handler "a") posted (subscribed overlapping) overlapping
        ⟨some "9", ["11"], ["555", "p"]⟩ ∧
      ∃ comments out t, Subscribes (World.handler "a") posted (subscribed overlapping) comments out t ∧
        out = ⟨["B@x.org", "c@x.org"], true, 1⟩ ∧
        (∃ comments' out' t', Subscribes (World.handler "a") posted (subscribed overlapping.tail)
          comments' out' t' ∧ out'.added = out.added ∧
            t'.desk.roster = t.desk.roster ∧ comments'.map Prod.fst = comments.map Prod.fst) ∧
        ∃ out' t', Subscribes (World.handler "a") posted t [] out' t' ∧ out'.added = [] := by
  have hbriefed : Briefed (World.handler "a") posted (subscribed overlapping) overlapping
      ⟨some "9", ["11"], ["555", "p"]⟩ := ⟨rfl, by decide +kernel⟩
  obtain ⟨comments, out, t, hrun, -, hworking, hagain⟩ :=
    subscribes_exactly (World.serves_handler "a") hbriefed
  obtain ⟨log, ⟨hresult, -⟩, -⟩ := id hrun
  have ht : t = ((autoSubscribe posted).outcome.run (World.handler "a") (subscribed overlapping)).2 :=
    (congrArg Prod.snd hresult).symm
  have hout : ((autoSubscribe posted).outcome.run (World.handler "a") (subscribed overlapping)).1 =
      .ok (.ok ⟨["B@x.org", "c@x.org"], true, 1⟩) := by decide +kernel
  rw [hresult] at hout
  cases hout
  refine ⟨hbriefed, comments, _, t, hrun, rfl, hworking (subscribed overlapping.tail) rfl ?_, ?_⟩
  · exact ⟨rfl, by decide +kernel⟩
  · obtain ⟨out', t', hrun', hadded, -⟩ := hagain t rfl (by
      rw [ht]
      exact ⟨rfl, by decide +kernel⟩)
    exact ⟨out', t', hrun', hadded⟩

end CaseHerald.Watch
