import CaseHerald.Daemon
import CaseHerald.Proofs.Followers
import CaseHerald.Proofs.Subscribers
import CaseHerald.Rehearsal.Site

/-!
# Who hears of an event

An announcement gives every sink its turn, in order, whatever the others come to (`Sink.Turns`), and what it
comes to tells of each sink that failed (`Sink.Sums`). In its turn the chat service makes one post for each
channel that it finds to follow the case (`Slack.Posts`), whatever the posts before came to. The channels
that it finds are those that follow the case at that time, in any surroundings with a store
(`Notify.Surroundings`): so every follower hears of every event once (`every_follower_hears_once`).
-/
namespace CaseHerald

open Proc (Exchange Met)

namespace Proc.Met

variable {P : Interface} {α σ : Type} {h : Handler P σ} {p : Proc P α} {s t u : σ}
  {log log' : List (Exchange P)} {r r' : Except Crash α}

theorem unique (hp : Met h p s log r t) (hp' : Met h p s log' r' u) : log = log' ∧ r = r' ∧ t = u := by
  obtain ⟨hr, ht⟩ := Prod.mk.inj (hp.run.symm.trans hp'.run)
  exact ⟨hp.log.symm.trans hp'.log, hr, ht⟩

end Proc.Met

/-! ## Sinks that end -/

namespace Proc

variable {P Q : Interface} {α : Type}

/-- The program does not crash, whatever the replies are. -/
def Ends (p : Proc P α) : Prop := p.CrashesOn fun _ => False

namespace Ends

theorem request (q : P.Request) : (Proc.request q).Ends := CrashesOn.request fun _ => id

theorem bind {β : Type} {p : Proc P α} {f : α → Proc P β} (hp : p.Ends) (hf : ∀ a, (f a).Ends) :
    (p >>= f).Ends := CrashesOn.bind hp hf

theorem via {h : (q : P.Request) → Proc Q (P.Reply q)} {p : Proc P α} (hp : p.Ends)
    (hh : ∀ q, (h q).Ends) : (p.via h).Ends := by
  induction p with
  | done a => trivial
  | ask q next ih => exact bind (hh q) fun reply => ih reply ((hp reply).2 id)
  | halt crash => exact hp.elim

theorem mapM {β : Type} {f : β → Proc P α} (hf : ∀ b, (f b).Ends) (l : List β) : (l.mapM f).Ends := by
  induction l with
  | nil =>
    rw [List.mapM_nil]
    trivial
  | cons b l ih =>
    rw [List.mapM_cons]
    exact (hf b).bind fun a => ih.bind fun as => trivial

theorem exists_met {p : Proc P α} (hp : p.Ends) {σ : Type} (h : Handler P σ) (s : σ) :
    ∃ log a t, Met h p s log (.ok a) t := by
  obtain ⟨a, ha⟩ := (CrashesOn.ends hp h s).ok_iff.2 fun _ _ => id
  exact ⟨_, a, _, Prod.ext ha rfl, rfl⟩

end Ends

end Proc

theorem Notify.ends_net {α : Type} {p : Proc Net.interface α} (hp : p.Ends) : (Notify.net p).Ends :=
  hp.via fun _ => Proc.Ends.request _

namespace Webhook

theorem ends_tryAfter {tryOnce : Proc Net.interface (Except String Unit)} (h : tryOnce.Ends)
    (delays : List Span) : (tryAfter tryOnce delays).Ends := by
  induction delays with
  | nil => exact h
  | cons delay delays ih =>
    refine h.bind fun r => ?_
    cases r with
    | ok => trivial
    | error => exact (Proc.Ends.request _).bind fun _ => ih

theorem ends_deliver (w : Webhook) (id : Guid) (time : Instant) (e : Event) :
    (w.deliver id time e).Ends := by
  have htry : (tryOnce (w.request id time e)).Ends := by
    unfold tryOnce
    split
    · trivial
    · refine (Proc.Ends.request _).bind fun r => ?_
      cases r <;> trivial
  refine (ends_tryAfter htry _).bind fun r => ?_
  cases r <;> trivial

theorem ends_notify (w : Webhook) (e : Event) : (w.notify e).Ends := by
  refine (Notify.ends_net (Proc.Ends.request _)).bind fun (id, time) => ?_
  change Proc.Ends (if _ then _ else _)
  split
  · exact (Proc.Ends.request _).bind fun _ => trivial
  · exact Notify.ends_net (w.ends_deliver id time e)

end Webhook

/-! ## The turns of the sinks -/

namespace Sink

variable {P : Interface} {σ : Type} {h : Proc.Handler P σ} {e : Event} {s t : σ}

/-- A sink and its delivery of an announcement. -/
structure Turn (P : Interface) (σ : Type) where
  sink : Sink P
  start : σ
  log : List (Exchange P)
  outcome : Except NotifyFailure Unit
  stop : σ

/-- The turn as its failure tells of it, unless it went well. -/
def Turn.complaint? (x : Turn P σ) : Option String :=
  match x.outcome with
  | .error f => some (x.sink.name ++ ": " ++ f.message)
  | .ok () => none

/-- The sinks deliver an announcement one after another. -/
inductive Turns (h : Proc.Handler P σ) (e : Event) : σ → List (Turn P σ) → σ → Prop
  | nil (s : σ) : Turns h e s [] s
  | cons {x : Turn P σ} {rest : List (Turn P σ)} {t : σ}
      (first : Met h (x.sink.notify e) x.start x.log (.ok x.outcome) x.stop)
      (others : Turns h e x.stop rest t) : Turns h e x.start (x :: rest) t

/-- What the turns come to together: to a failure just if one of them does, which tells of every turn that
failed, in order. -/
structure Sums (turns : List (Turn P σ)) (outcome : Except NotifyFailure Unit) : Prop where
  ok_iff : outcome = .ok () ↔ ∀ x ∈ turns, x.outcome = .ok ()
  failure : ∀ f, outcome = .error f →
    f = .delivery "fanout" (String.intercalate "; " (turns.filterMap Turn.complaint?))

theorem exists_turns {sinks : List (Sink P)} (hsinks : ∀ k ∈ sinks, ∀ e, (k.notify e).Ends)
    (h : Proc.Handler P σ) (e : Event) (s : σ) :
    ∃ turns t, Turns h e s turns t ∧ turns.map Turn.sink = sinks := by
  induction sinks generalizing s with
  | nil => exact ⟨[], s, .nil s, rfl⟩
  | cons k sinks ih =>
    obtain ⟨hk, hsinks⟩ := List.forall_mem_cons.1 hsinks
    obtain ⟨log, r, t, first⟩ := (hk e).exists_met h s
    obtain ⟨rest, u, others, hrest⟩ := ih hsinks t
    exact ⟨⟨k, s, log, r, t⟩ :: rest, u, .cons (x := ⟨k, s, log, r, t⟩) first others,
      congrArg (k :: ·) hrest⟩

theorem Turns.met_of_mem {turns : List (Turn P σ)} (hturns : Turns h e s turns t) {x : Turn P σ}
    (hx : x ∈ turns) : Met h (x.sink.notify e) x.start x.log (.ok x.outcome) x.stop := by
  induction hturns with
  | nil => cases hx
  | cons first _ ih =>
    rcases List.mem_cons.1 hx with rfl | hx
    · exact first
    · exact ih hx

/-- The outcomes under the names of the sinks. -/
def Turn.result (x : Turn P σ) : String × Except NotifyFailure Unit := (x.sink.name, x.outcome)

theorem Turns.met_mapM {turns : List (Turn P σ)} (hturns : Turns h e s turns t) :
    Met h ((turns.map Turn.sink).mapM fun k => do return (k.name, ← k.notify e)) s
      (turns.flatMap Turn.log) (.ok (turns.map Turn.result)) t := by
  induction hturns with
  | nil s => exact Met.done h [] s
  | @cons x rest t first others ih =>
    have hfirst : Met h (do return (x.sink.name, ← x.sink.notify e)) x.start x.log (.ok x.result) x.stop :=
      first.bind_done rfl
    rw [List.map_cons, List.mapM_cons]
    exact hfirst.bind (ih.bind_done rfl)

/-- **Every sink gets its turn**, and the delivery comes to what the turns come to. -/
theorem Turns.met_notifyAll {turns : List (Turn P σ)} (hturns : Turns h e s turns t) :
    Met h (notifyAll (turns.map Turn.sink) e) s (turns.flatMap Turn.log)
      (.ok (combine (turns.map Turn.result))) t := hturns.met_mapM.bind_done rfl

/-- What is said of the sinks that failed. -/
theorem combine_result (turns : List (Turn P σ)) : combine (turns.map Turn.result) =
    if turns.filterMap Turn.complaint? = [] then .ok ()
    else .error (.delivery "fanout" (String.intercalate "; " (turns.filterMap Turn.complaint?))) := by
  unfold combine
  rw [List.filterMap_map, List.filterMap_congr (g := Turn.complaint?)]
  · simp only [List.isEmpty_iff]
  · intro x _
    rw [Function.comp_apply, Turn.result, Turn.complaint?]
    cases x.outcome <;> rfl

theorem Turn.complaint?_eq_none_iff {x : Turn P σ} : x.complaint? = none ↔ x.outcome = .ok () := by
  rw [complaint?]
  cases x.outcome <;> simp

theorem sums_combine (turns : List (Turn P σ)) : Sums turns (combine (turns.map Turn.result)) := by
  have hnil : turns.filterMap Turn.complaint? = [] ↔ ∀ x ∈ turns, x.outcome = .ok () := by
    simp [List.filterMap_eq_nil_iff, Turn.complaint?_eq_none_iff]
  rw [combine_result]
  constructor
  · rw [← hnil]
    split
    next hnone => exact iff_of_true rfl hnone
    next hsome => exact iff_of_false nofun hsome
  · intro f hf
    split at hf
    · cases hf
    · cases hf
      rfl

end Sink

/-! ## The posts of the chat service -/

/-- Whether a request can be built does not depend on its body. -/
theorem Net.Request.build_body (method address : String) (query headers : List (String × String))
    (body : Option Text.Octets) : build method address query headers body =
      (build method address query headers none).map fun q => { q with body } := by
  unfold build
  cases Url.read? none address with
  | none => rfl
  | some url =>
    simp only
    split_ifs <;> rfl

/-- Sending a request, as what a delivery asks for. -/
def Notify.sending (q : Net.Request) : Notify.interface.Request := .net (.send q)

namespace Slack

variable (k : Slack) {channel text : String} {channels : List String} {posts : List Net.Request}

/-- The request posts the text in the channel. -/
structure IsPost (channel text : String) (q : Net.Request) : Prop where
  built : k.request channel text = .ok q
  method : q.method = "POST"
  body : q.body = some (Net.jsonBody (.object [("channel", .text channel), ("text", .text text)]))

/-- No request can be built with the address and the token. -/
def Unfit : Prop := ∀ channel text, ∃ reason, k.request channel text = .error reason

theorem fit_or_unfit : (∀ channel text, ∃ q, k.IsPost channel text q) ∨ k.Unfit := by
  cases hbuild : Net.Request.build "POST" (k.api ++ "/chat.postMessage") []
      [Net.bearer k.token, Net.jsonContent] none with
  | error reason =>
    refine .inr fun channel text => ⟨reason, ?_⟩
    rw [request, Net.Request.build_body, hbuild]
    rfl
  | ok q =>
    refine .inl fun channel text => ?_
    have hbuilt := Net.Request.build_body "POST" (k.api ++ "/chat.postMessage") []
      [Net.bearer k.token, Net.jsonContent]
      (some (Net.jsonBody (.object [("channel", .text channel), ("text", .text text)])))
    rw [hbuild] at hbuilt
    obtain ⟨hmethod, hbody⟩ := Net.Request.eq_of_build hbuilt
    exact ⟨_, hbuilt, hmethod, hbody⟩

/-- The requests post the text once in each channel, in order, unless none can be built. -/
def Posts (channels : List String) (text : String) (posts : List Net.Request) : Prop :=
  List.Forall₂ (fun channel q => k.IsPost channel text q) channels posts ∨ k.Unfit ∧ posts = []

variable {k}

theorem Unfit.not_isPost (hunfit : k.Unfit) {q : Net.Request} : ¬k.IsPost channel text q := by
  intro hq
  obtain ⟨reason, hreason⟩ := hunfit channel text
  cases hreason.symm.trans hq.built

theorem Posts.eq_nil (h : k.Posts channels text posts) (hunfit : k.Unfit) : posts = [] := by
  rcases h with h | ⟨-, h⟩
  · cases h with
    | nil => rfl
    | cons hq _ => exact absurd hq hunfit.not_isPost
  · exact h

theorem Posts.append {more : List String} {posts' : List Net.Request}
    (h : k.Posts channels text posts) (h' : k.Posts more text posts') :
    k.Posts (channels ++ more) text (posts ++ posts') := by
  rcases k.fit_or_unfit with hfit | hunfit
  · have hall {channels : List String} {posts : List Net.Request} (h : k.Posts channels text posts) :
        List.Forall₂ (fun channel q => k.IsPost channel text q) channels posts :=
      h.resolve_right fun ⟨hunfit, _⟩ => hunfit.not_isPost (hfit "" "").choose_spec
    exact .inl (List.rel_append (hall h) (hall h'))
  · exact .inr ⟨hunfit, by rw [h.eq_nil hunfit, h'.eq_nil hunfit, List.append_nil]⟩

variable (k) {σ : Type}

/-- A single post makes one request, unless none can be built. -/
theorem met_post (h : Proc.Handler Notify.interface σ) (channel text : String) (s : σ) :
    ∃ log r t posts, Met h (Notify.net (k.post channel text)) s log (.ok r) t ∧
      k.Posts [channel] text posts ∧ log.map Exchange.request = posts.map Notify.sending := by
  rcases k.fit_or_unfit with hfit | hunfit
  · obtain ⟨q, hq⟩ := hfit channel text
    have hposts : k.Posts [channel] text [q] := .inl (.cons hq .nil)
    rw [post, hq.built]
    rcases hreply : h (.net (.send q)) s with ⟨f | response, t⟩
    · exact ⟨_, _, t, [q], .ask hreply (.done h _ t), hposts, rfl⟩
    · exact ⟨_, _, t, [q], .ask hreply (.done h _ t), hposts, rfl⟩
  · obtain ⟨reason, hreason⟩ := hunfit channel text
    rw [post, hreason]
    exact ⟨[], _, s, [], .done h _ s, .inr ⟨hunfit, rfl⟩, rfl⟩

/-- Posts a text in every channel. -/
def postAll (text : String) (channels : List String) :
    Proc Notify.interface (Except NotifyFailure Unit) := do
  let _ ← channels.mapM fun channel => Notify.net (k.post channel text)
  return .ok ()

theorem postAll_cons : k.postAll text (channel :: channels) =
    Notify.net (k.post channel text) >>= fun _ => k.postAll text channels := by
  simp only [postAll, List.mapM_cons, bind_assoc, pure_bind]

/-- **A text is posted once in each channel**, whatever becomes of the posts. -/
theorem met_postAll (h : Proc.Handler Notify.interface σ) (text : String) (channels : List String)
    (s : σ) : ∃ log t posts, Met h (k.postAll text channels) s log (.ok (.ok ())) t ∧
      k.Posts channels text posts ∧ log.map Exchange.request = posts.map Notify.sending := by
  induction channels generalizing s with
  | nil => exact ⟨[], s, [], .done h _ s, .inl .nil, rfl⟩
  | cons channel channels ih =>
    -- the other posts begin where this one ends, whatever it comes to
    obtain ⟨log, r, t, posts, hpost, hposts, hlog⟩ := k.met_post h channel text s
    obtain ⟨more, u, posts', hrest, hposts', hmore⟩ := ih t
    rw [postAll_cons]
    refine ⟨log ++ more, u, posts ++ posts', hpost.bind hrest, hposts.append hposts', ?_⟩
    rw [List.map_append, List.map_append, hlog, hmore]

/-- What the store has answered as to who follows a case. -/
def listed : Except StoreFailure (List String) → List String
  | .ok channels => channels
  | .error _ => []

/-- **An announcement is posted once in each channel that the store lists.** -/
theorem met_notify (h : Proc.Handler Notify.interface σ) (e : Event) (s : σ)
    {reply : Except StoreFailure (List String)} (hreply : (h (.store (.channels e.caseNumber)) s).1 = reply) :
    ∃ log t posts, Met h (k.notify e) s log (.ok (.ok ())) t ∧ k.Posts (listed reply) e.text posts ∧
      log.map Exchange.request =
        .store (.channels e.caseNumber) :: posts.map Notify.sending := by
  have hmeets : h (.store (.channels e.caseNumber)) s =
      (reply, (h (.store (.channels e.caseNumber)) s).2) := Prod.ext hreply rfl
  obtain ⟨log, t, posts, hmet, hposts, hlog⟩ :=
    k.met_postAll h e.text (listed reply) (h (.store (.channels e.caseNumber)) s).2
  refine ⟨_, t, posts, .ask hmeets ?_, hposts, congrArg (_ :: ·) hlog⟩
  cases reply <;> exact hmet

theorem ends_post (channel text : String) : (k.post channel text).Ends := by
  unfold post
  split
  · trivial
  · refine (Proc.Ends.request _).bind fun r => ?_
    cases r <;> trivial

theorem ends_notify (e : Event) : (k.notify e).Ends := by
  refine (Proc.Ends.request _).bind fun r => ?_
  cases r with
  | error => trivial
  | ok channels =>
    have hposts := Proc.Ends.mapM (fun channel => Notify.ends_net (k.ends_post channel e.text)) channels
    exact hposts.bind fun _ => trivial

end Slack

theorem Sinks.ends (d : Sinks) : ∀ k ∈ d.all, ∀ e, (k.notify e).Ends := by
  intro k hk e
  rcases List.mem_append.1 hk with hk | hk
  · obtain ⟨slack, -, rfl⟩ := Option.mem_map.1 (Option.mem_toList.1 hk)
    exact slack.ends_notify e
  · obtain ⟨webhook, -, rfl⟩ := Option.mem_map.1 (Option.mem_toList.1 hk)
    exact webhook.ends_notify e

/-! ## Surroundings with a store -/

namespace Notify

open Rehearsal (Backing Site)
open Store (Followers)

/-- The surroundings of deliveries, with a store that answers them. Anything may be done to the store
between two requests, and everything else replies as it likes. -/
structure Surroundings (σ : Type) where
  handler : Proc.Handler interface σ
  backing : σ → Backing
  /-- what the store has been asked -/
  log : σ → List Store.Reply
  past : ∀ s, Backing.Past (log s) (backing s)
  answers : ∀ q s, ∃ fresh, (handler (.store q) s).1 = ((backing s).answer fresh q).1

variable {σ : Type} (o : Surroundings σ)

/-- A delivery has posted the announcement once in each channel that follows its case, in order, and has
asked for nothing else but who these are. -/
def Surroundings.TellsFollowers (k : Slack) (e : Event) (s : σ) (log : List (Exchange interface)) : Prop :=
  ∃ channels posts, Followers (o.log s) e.caseNumber channels ∧ k.Posts channels e.text posts ∧
    log.map Exchange.request = .store (.channels e.caseNumber) :: posts.map sending

/-- **The chat service tells the followers**, and does not fail. -/
theorem Surroundings.met_notify (k : Slack) (e : Event) (s : σ) :
    ∃ log t, Met o.handler (k.notify e) s log (.ok (.ok ())) t ∧ o.TellsFollowers k e s log := by
  obtain ⟨channels, hfollowers, hlisted⟩ := (o.past s).tellsFollowers.lists e.caseNumber
  obtain ⟨g, hanswer⟩ := o.answers (.channels e.caseNumber) s
  obtain ⟨log, t, posts, hmet, hposts, hlog⟩ := k.met_notify o.handler e s hanswer
  refine ⟨log, t, hmet, channels, posts, hfollowers, ?_, hlog⟩
  -- a store that does not list the channels has none to list
  rcases hlisted with hlisted | ⟨-, rfl, -, -, -, hrefused⟩
  · rwa [hlisted] at hposts
  · rwa [hrefused] at hposts

end Notify

open Notify (Surroundings)
open Rehearsal (Backing)

/-- **Every follower hears of every event once, whatever else fails.** Every store lists the channels that
follow a case, only that a volume refuses the empty number, which no channel follows there. An announcement
gives every sink its turn, in order, and comes to what the turns come to together; and the chat service
tells in its turn the channels that follow the case then, and does not fail. -/
theorem every_follower_hears_once {σ : Type} (o : Surroundings σ) {sinks : List (Sink Notify.interface)}
    (hsinks : ∀ k ∈ sinks, ∀ e, (k.notify e).Ends) (e : Event) (s : σ) :
    (∀ log b, Backing.Past log b → b.TellsFollowers log) ∧
      ∃ turns outcome t, Sink.Turns o.handler e s turns t ∧ turns.map Sink.Turn.sink = sinks ∧
        Met o.handler (Sink.notifyAll sinks e) s (turns.flatMap Sink.Turn.log) (.ok outcome) t ∧
        Sink.Sums turns outcome ∧ ∀ x ∈ turns, ∀ k : Slack, x.sink = k.sink →
          x.outcome = .ok () ∧ o.TellsFollowers k e x.start x.log := by
  obtain ⟨turns, t, hturns, rfl⟩ := Sink.exists_turns hsinks o.handler e s
  refine ⟨fun log b hpast => hpast.tellsFollowers, turns, _, t, hturns, rfl, hturns.met_notifyAll,
    Sink.sums_combine turns, fun x hx k hsink => ?_⟩
  obtain ⟨log, u, hmet, htells⟩ := o.met_notify k e x.start
  -- the turn is the same run, told of the sink that is the chat service
  have hturn := hturns.met_of_mem hx
  rw [hsink] at hturn
  obtain ⟨hlog, houtcome, -⟩ := hturn.unique hmet
  exact ⟨Except.ok.inj houtcome, hlog ▸ htells⟩

/-! ## A sink that fails and a post that gets lost -/

namespace Rehearsal

/-- A site with what its store has been asked. -/
structure Recalled where
  site : Site
  log : List Store.Reply
  past : Backing.Past log site.backing

/-- A site meets deliveries, and what its store is asked is kept. -/
def Recalled.surroundings : Surroundings Recalled where
  handler
    | .net a, x =>
      ((Site.handler (.net a) x.site).1, ⟨(Site.handler (.net a) x.site).2, x.log, x.past⟩)
    | .store q, x =>
      ((Site.handler (.store q) x.site).1, ⟨(Site.handler (.store q) x.site).2,
        x.log ++ [⟨q, (Site.handler (.store q) x.site).1⟩], x.past.ask (.ofNat x.site.next) q⟩)
    | .start p, x => ((), ⟨(Site.handler (.start p) x.site).2, x.log, x.past⟩)
  backing x := x.site.backing
  log := Recalled.log
  past := Recalled.past
  answers _ x := ⟨.ofNat x.site.next, rfl⟩

/-- Two channels follow a case. A third one does so no longer, and one of the two follows another case. -/
def following : List Store.Query :=
  [.track "B" "7", .track "C" "7", .track "A" "7", .track "A" "8", .untrack "C" "7"]

/-- A server that drops the first request and takes the next. -/
def dropsFirst : Server :=
  .new "[::1]" [.drop, .respond (Server.document 200 (.object [("ok", .bool true)]))] .bare

/-- Surroundings in which channels follow a case and the first post gets lost. -/
def Recalled.dropping : Recalled where
  site := ⟨dropsFirst, ((Backing.memory .empty).asked (.ofNat 0) following).2, 1⟩
  log := ((Backing.memory .empty).asked (.ofNat 0) following).1
  past := Backing.Past.empty.asked (.ofNat 0) following

/-- The chat service on that server. -/
def droppingSlack : Slack := ⟨"t", "http://[::1]"⟩

/-- A sink that always fails, and after it the chat service. -/
def failingFirst : List (Sink Notify.interface) :=
  ⟨"down", fun _ => .done (.error (.notConfigured "down" "off"))⟩ ::
    (Sinks.mk (some droppingSlack) none).all

/-- The second post is made though the first one is lost, and both though another sink fails. -/
theorem every_follower_hears_once_dropped :
    (∀ k ∈ failingFirst, ∀ e, (k.notify e).Ends) ∧ ∃ turns t,
      Sink.Turns Recalled.surroundings.handler (.closed "7") Recalled.dropping turns t ∧
      turns.map Sink.Turn.sink = failingFirst ∧
      Met Recalled.surroundings.handler (Sink.notifyAll failingFirst (.closed "7")) Recalled.dropping
        (turns.flatMap Sink.Turn.log)
        (.ok (.error (.delivery "fanout" "down: Sink down not configured: off"))) t ∧
      (∃ x ∈ turns, x.sink = droppingSlack.sink ∧ x.outcome = .ok () ∧
        Recalled.surroundings.TellsFollowers droppingSlack (.closed "7") x.start x.log) ∧
      t.site.server.requests.map (·.body) = ["B", "A"].map fun channel => some (Net.jsonBody
        (.object [("channel", .text channel), ("text", .text "Case 7 has been closed.")])) := by
  have hends : ∀ k ∈ failingFirst, ∀ e, (k.notify e).Ends := by
    intro k hk
    rcases List.mem_cons.1 hk with rfl | hk
    · exact fun _ => trivial
    · exact Sinks.ends _ k hk
  obtain ⟨-, turns, outcome, t, hturns, hsinks, hmet, -, htells⟩ :=
    every_follower_hears_once Recalled.surroundings hends (.closed "7") Recalled.dropping
  have houtcome : ((Sink.notifyAll failingFirst (.closed "7")).run Recalled.surroundings.handler
      Recalled.dropping).1 = .ok (.error (.delivery "fanout" "down: Sink down not configured: off")) := by
    decide +kernel
  have hposts : ((Sink.notifyAll failingFirst (.closed "7")).run Recalled.surroundings.handler
      Recalled.dropping).2.site.server.requests.map (·.body) = ["B", "A"].map fun channel =>
        some (Net.jsonBody
          (.object [("channel", .text channel), ("text", .text "Case 7 has been closed.")])) := by
    decide +kernel
  rw [hmet.run] at houtcome hposts
  cases houtcome
  have hslack : droppingSlack.sink ∈ turns.map Sink.Turn.sink :=
    hsinks ▸ List.mem_cons_of_mem _ List.mem_cons_self
  obtain ⟨x, hx, hsink⟩ := List.mem_map.1 hslack
  exact ⟨hends, turns, t, hturns, hsinks, hmet, ⟨x, hx, hsink, htells x hx _ hsink⟩, hposts⟩

end Rehearsal

end CaseHerald
