import CaseHerald.Proofs.Exchanges
import CaseHerald.Support.Client
import Mathlib.Data.List.Nodup

/-!
# Listings from any server

A server may answer a request for a page differently each time, and the tokens of its pages may lead
anywhere. `Chain` is a chain of requests for pages, each with the token that the page before it told, as
long as anybody would follow it. `Collects` is the part of it that a listing follows, with what it comes
to. It never asks for a token twice and makes a thousand requests at most; what it comes to is what its
pages hold, or the failure or crash of the one that did not come (`listed_exactly`). A request for a page
is a call to the service with all its tries.
-/
namespace CaseHerald.Support

variable {P : Interface} {ε α σ : Type}

/-- A request for a page in a state of the server: the token that it has, and what comes of it. -/
structure PageCall (ε α σ : Type) where
  token : Option String
  before : σ
  outcome : Except Crash (Except ε (Page α))
  after : σ

namespace PageCall

/-- The request for the page of the token, made in the state. -/
def make (h : Proc.Handler P σ) (fetch : Option String → Attempt P ε (Page α)) (token : Option String)
    (s : σ) : PageCall ε α σ :=
  ⟨token, s, ((fetch token).run.run h s).1, ((fetch token).run.run h s).2⟩

/-- The page, if one comes. -/
def page? (c : PageCall ε α σ) : Option (Page α) :=
  match c.outcome with
  | .ok (.ok page) => some page
  | _ => none

/-- The items of the page. -/
def items (c : PageCall ε α σ) : List α := (c.page?.map Page.items).getD []

/-- The token that the page tells. -/
def next? (c : PageCall ε α σ) : Option String := c.page?.bind Page.next

variable {c : PageCall ε α σ} {page : Page α}

theorem page?_eq_some_iff : c.page? = some page ↔ c.outcome = .ok (.ok page) := by
  unfold page?
  split
  next found hfound => simp [hfound]
  next hother => exact iff_of_false nofun (hother page)

theorem items_eq (h : c.outcome = .ok (.ok page)) : c.items = page.items := by
  rw [items, page?_eq_some_iff.2 h]
  rfl

theorem next?_eq (h : c.outcome = .ok (.ok page)) : c.next? = page.next := by
  rw [next?, page?_eq_some_iff.2 h]
  rfl

end PageCall

/-- The tokens that are asked for. -/
def tokens (calls : List (PageCall ε α σ)) : List String := calls.filterMap PageCall.token

/-! ## Chains of pages -/

section Listings

variable (h : Proc.Handler P σ) (fetch : Option String → Attempt P ε (Page α))

/-- Requests for pages one after another, each with the token that the page before it told. -/
inductive Chain : Option String → σ → List (PageCall ε α σ) → Prop
  | last {token : Option String} {s : σ} : Chain token s [.make h fetch token s]
  | more {token : Option String} {s : σ} {next : String} {calls : List (PageCall ε α σ)}
      (told : (PageCall.make h fetch token s).next? = some next) (nonempty : next ≠ "")
      (rest : Chain (some next) (PageCall.make h fetch token s).after calls) :
      Chain token s (.make h fetch token s :: calls)

/-- Whether every request has a page, and the last page tells no token or an empty one. -/
def Ended (calls : List (PageCall ε α σ)) : Prop :=
  (∀ c ∈ calls, ∃ page, c.outcome = .ok (.ok page)) ∧
    ∃ c, calls.getLast? = some c ∧ (c.next? = none ∨ c.next? = some "")

/-- What a listing comes to with the items of one more page in front. -/
def inFront (items : List α) : Except Crash (Except ε (List α)) → Except Crash (Except ε (List α))
  | .ok (.ok rest) => .ok (.ok (items ++ rest))
  | r => r

/-- The requests that a listing makes when it may make `left` and has followed the tokens that it has
seen, with what it comes to. -/
inductive Collects : (left : Nat) → (seen : List String) → Option String → σ →
    List (PageCall ε α σ) → Except Crash (Except ε (List α)) → σ → Prop
  /-- the request crashes -/
  | breaks {left : Nat} {seen : List String} {token : Option String} {s : σ} {crash : Crash}
      (outcome : (PageCall.make h fetch token s).outcome = .error crash) :
      Collects (left + 1) seen token s [.make h fetch token s] (.error crash)
        (PageCall.make h fetch token s).after
  /-- the request fails -/
  | fails {left : Nat} {seen : List String} {token : Option String} {s : σ} {e : ε}
      (outcome : (PageCall.make h fetch token s).outcome = .ok (.error e)) :
      Collects (left + 1) seen token s [.make h fetch token s] (.ok (.error e))
        (PageCall.make h fetch token s).after
  /-- no token of the page is followed -/
  | ends {left : Nat} {seen : List String} {token : Option String} {s : σ} {page : Page α}
      (outcome : (PageCall.make h fetch token s).outcome = .ok (.ok page))
      (stops : followedToken? seen page.next = none) :
      Collects (left + 1) seen token s [.make h fetch token s] (.ok (.ok page.items))
        (PageCall.make h fetch token s).after
  /-- it was the last request that may be made -/
  | full {seen : List String} {token : Option String} {s : σ} {page : Page α} {next : String}
      (outcome : (PageCall.make h fetch token s).outcome = .ok (.ok page))
      (goes : followedToken? seen page.next = some next) :
      Collects 1 seen token s [.make h fetch token s] (.ok (.ok page.items))
        (PageCall.make h fetch token s).after
  /-- the token is followed -/
  | more {left : Nat} {seen : List String} {token : Option String} {s t : σ} {page : Page α}
      {next : String} {calls : List (PageCall ε α σ)} {r : Except Crash (Except ε (List α))}
      (outcome : (PageCall.make h fetch token s).outcome = .ok (.ok page))
      (goes : followedToken? seen page.next = some next)
      (rest : Collects (left + 1) (next :: seen) (some next) (PageCall.make h fetch token s).after
        calls r t) :
      Collects (left + 2) seen token s (.make h fetch token s :: calls) (inFront page.items r) t

end Listings

theorem followedToken?_eq_some_iff {seen : List String} {next : Option String} {token : String} :
    followedToken? seen next = some token ↔ next = some token ∧ token ≠ "" ∧ token ∉ seen := by
  cases next with
  | none => simp [followedToken?]
  | some told =>
    by_cases hold : told = "" ∨ told ∈ seen
    · have hnone : followedToken? seen (some told) = none := if_pos (by simpa using hold)
      rw [hnone]
      refine iff_of_false nofun fun ⟨htold, hnew⟩ => ?_
      cases htold
      exact not_or.2 hnew hold
    · have hsome : followedToken? seen (some told) = some told := if_neg (by simpa using hold)
      rw [hsome]
      refine ⟨fun htold => ⟨htold, ?_⟩, And.left⟩
      cases htold
      exact not_or.1 hold

namespace Chain

variable {h : Proc.Handler P σ} {fetch : Option String → Attempt P ε (Page α)} {token : Option String}
  {s : σ} {calls : List (PageCall ε α σ)}

theorem exists_eq_cons (hc : Chain h fetch token s calls) :
    ∃ rest, calls = .make h fetch token s :: rest := by
  cases hc <;> exact ⟨_, rfl⟩

theorem tokens_eq (hc : Chain h fetch token s calls) :
    tokens calls = token.toList ++ tokens calls.tail := by
  obtain ⟨rest, rfl⟩ := hc.exists_eq_cons
  cases token <;> rfl

end Chain

theorem Ended.tail {c : PageCall ε α σ} {calls : List (PageCall ε α σ)} (hended : Ended (c :: calls))
    (hne : calls ≠ []) : Ended calls := by
  obtain ⟨hpages, last, hlast, hnext⟩ := hended
  refine ⟨fun c hc => hpages c (List.mem_cons_of_mem _ hc), last, ?_, hnext⟩
  rwa [List.getLast?_cons_of_ne_nil hne] at hlast

namespace Collects

variable {h : Proc.Handler P σ} {fetch : Option String → Attempt P ε (Page α)} {left : Nat}
  {seen : List String} {token : Option String} {s t : σ} {calls : List (PageCall ε α σ)}
  {r : Except Crash (Except ε (List α))}

/-- **Every listing comes to something.** -/
theorem exists_collects (h : Proc.Handler P σ) (fetch : Option String → Attempt P ε (Page α))
    (left : Nat) (seen : List String) (token : Option String) (s : σ) :
    ∃ calls r t, Collects h fetch (left + 1) seen token s calls r t := by
  induction left generalizing seen token s with
  | zero =>
    rcases houtcome : (PageCall.make h fetch token s).outcome with crash | e | page
    · exact ⟨_, _, _, .breaks houtcome⟩
    · exact ⟨_, _, _, .fails houtcome⟩
    · cases hnext : followedToken? seen page.next with
      | none => exact ⟨_, _, _, .ends houtcome hnext⟩
      | some next => exact ⟨_, _, _, .full houtcome hnext⟩
  | succ left ih =>
    rcases houtcome : (PageCall.make h fetch token s).outcome with crash | e | page
    · exact ⟨_, _, _, .breaks houtcome⟩
    · exact ⟨_, _, _, .fails houtcome⟩
    · cases hnext : followedToken? seen page.next with
      | none => exact ⟨_, _, _, .ends houtcome hnext⟩
      | some next =>
        obtain ⟨calls, r, t, hrest⟩ := ih (next :: seen) (some next) _
        exact ⟨_, _, _, .more houtcome hnext hrest⟩

/-- What is said in the requests for pages. -/
def said (h : Proc.Handler P σ) (fetch : Option String → Attempt P ε (Page α))
    (calls : List (PageCall ε α σ)) : List (Proc.Exchange P) :=
  calls.flatMap fun c => (fetch c.token).run.exchanges h c.before

theorem said_cons (c : PageCall ε α σ) (calls : List (PageCall ε α σ)) :
    said h fetch (c :: calls) = said h fetch [c] ++ said h fetch calls := by
  simp [said]

/-- More items in front of those of a program that goes on. -/
theorem met_inFront {p : Attempt P ε (List α)} {log : List (Proc.Exchange P)} (items : List α)
    (hp : Proc.Met h p.run s log r t) :
    Proc.Met h (p >>= fun rest => pure (items ++ rest)).run s log (inFront items r) t := by
  rcases r with crash | e | rest
  · exact Attempt.met_bind_crash hp
  · exact Attempt.met_bind_error hp
  · exact Attempt.met_bind_done hp rfl

/-- **What a listing does is this.** -/
theorem met (hc : Collects h fetch left seen token s calls r t) :
    Proc.Met h (itemsFrom fetch left seen token).run s (said h fetch calls) r t := by
  have hmake {token : Option String} {s : σ} {r : Except Crash (Except ε (Page α))}
      (houtcome : (PageCall.make h fetch token s).outcome = r) :
      Proc.Met h (fetch token).run s (said h fetch [.make h fetch token s]) r
        (PageCall.make h fetch token s).after := by
    constructor
    · exact Prod.ext houtcome rfl
    · simp [said, PageCall.make]
  induction hc with
  | breaks outcome => exact Attempt.met_bind_crash (hmake outcome)
  | fails outcome => exact Attempt.met_bind_error (hmake outcome)
  | ends outcome stops =>
    refine Attempt.met_bind_done (hmake outcome) ?_
    simp only [stops]
    rfl
  | @full seen token s page next outcome goes =>
    refine Attempt.met_bind_done (hmake outcome) ?_
    have hnone : (itemsFrom fetch 0 (next :: seen) (some next) >>= fun rest =>
        pure (page.items ++ rest)).run = .done (.ok (page.items ++ [])) := rfl
    simp only [goes, hnone, List.append_nil]
  | @more left seen token s t page next calls r outcome goes _ ih =>
    rw [said_cons]
    refine Attempt.met_bind (hmake outcome) ?_
    simp only [goes]
    exact met_inFront page.items ih

/-! ## What is asked for -/

theorem length_le (hc : Collects h fetch left seen token s calls r t) : calls.length ≤ left := by
  induction hc with
  | breaks | fails | ends => simp
  | full => exact Nat.le_refl 1
  | more _ _ _ ih => exact Nat.succ_le_succ ih

theorem chain (hc : Collects h fetch left seen token s calls r t) : Chain h fetch token s calls := by
  induction hc with
  | breaks | fails | ends | full => exact .last
  | more outcome goes _ ih =>
    obtain ⟨htold, hne, -⟩ := followedToken?_eq_some_iff.1 goes
    exact .more (by rw [PageCall.next?_eq outcome, htold]) hne ih

/-- No token is asked for twice, nor one that has been seen. -/
theorem fresh (hc : Collects h fetch left seen token s calls r t) :
    (tokens calls.tail).Nodup ∧ ∀ told ∈ tokens calls.tail, told ∉ seen := by
  induction hc with
  | breaks | fails | ends | full => exact ⟨List.nodup_nil, List.forall_mem_nil _⟩
  | @more left seen token s t page next calls r outcome goes rest ih =>
    obtain ⟨hnodup, hnew⟩ := ih
    obtain ⟨-, -, hnext⟩ := followedToken?_eq_some_iff.1 goes
    rw [List.tail_cons, rest.chain.tokens_eq, Option.toList_some, List.singleton_append]
    refine ⟨List.nodup_cons.2 ⟨fun hmem => hnew next hmem List.mem_cons_self, hnodup⟩, ?_⟩
    refine List.forall_mem_cons.2 ⟨hnext, fun told htold hseen => ?_⟩
    exact hnew told htold (List.mem_cons_of_mem _ hseen)

/-! ## What it comes to -/

theorem of_pages (hc : Collects h fetch left seen token s calls r t)
    (hall : ∀ c ∈ calls, ∃ page, c.outcome = .ok (.ok page)) :
    r = .ok (.ok (calls.flatMap PageCall.items)) := by
  induction hc with
  | breaks outcome | fails outcome =>
    obtain ⟨page, hpage⟩ := hall _ List.mem_cons_self
    rw [outcome] at hpage
    cases hpage
  | ends outcome | full outcome => simp [PageCall.items_eq outcome]
  | more outcome goes rest ih =>
    rw [ih fun c hc => hall c (List.mem_cons_of_mem _ hc), List.flatMap_cons,
      PageCall.items_eq outcome]
    rfl

/-- The failure or crash of a request is that of the listing. -/
theorem of_no_page (hc : Collects h fetch left seen token s calls r t) {c : PageCall ε α σ}
    (hmem : c ∈ calls) :
    (∀ e, c.outcome = .ok (.error e) → r = .ok (.error e)) ∧
      ∀ crash, c.outcome = .error crash → r = .error crash := by
  induction hc with
  | breaks outcome =>
    obtain rfl := List.mem_singleton.1 hmem
    rw [outcome]
    refine ⟨nofun, fun crash hcrash => ?_⟩
    cases hcrash
    rfl
  | fails outcome =>
    obtain rfl := List.mem_singleton.1 hmem
    rw [outcome]
    refine ⟨fun e he => ?_, nofun⟩
    cases he
    rfl
  | ends outcome | full outcome =>
    obtain rfl := List.mem_singleton.1 hmem
    rw [outcome]
    constructor <;> nofun
  | more outcome goes rest ih =>
    rcases List.mem_cons.1 hmem with rfl | hmem
    · rw [outcome]
      constructor <;> nofun
    · obtain ⟨herror, hcrash⟩ := ih hmem
      constructor
      · intro e he
        rw [herror e he]
        rfl
      · intro crash hcrashes
        rw [hcrash crash hcrashes]
        rfl

/-- A chain that comes to an end without asking for a token twice is all asked for. -/
theorem eq_of_ended (hc : Collects h fetch left seen token s calls r t)
    {all : List (PageCall ε α σ)} (hall : Chain h fetch token s all) (hended : Ended all)
    (hnodup : (tokens all.tail).Nodup) (hnew : ∀ told ∈ tokens all.tail, told ∉ seen)
    (hlength : all.length ≤ left) : calls = all := by
  induction hc generalizing all with
  | breaks outcome | fails outcome =>
    obtain ⟨rest, rfl⟩ := hall.exists_eq_cons
    obtain ⟨page, hpage⟩ := hended.1 _ List.mem_cons_self
    rw [outcome] at hpage
    cases hpage
  | @ends left seen token s page outcome stops =>
    cases hall with
    | last => rfl
    | @more _ _ next rest told nonempty hrest =>
      rw [PageCall.next?_eq outcome] at told
      have hgoes : followedToken? seen page.next = some next := by
        refine followedToken?_eq_some_iff.2 ⟨told, nonempty, hnew next ?_⟩
        rw [List.tail_cons, hrest.tokens_eq]
        exact List.mem_cons_self
      rw [stops] at hgoes
      cases hgoes
  | full =>
    cases hall with
    | last => rfl
    | more told nonempty hrest =>
      obtain ⟨rest, rfl⟩ := hrest.exists_eq_cons
      simp at hlength
  | @more left seen token s t page next calls r outcome goes rest ih =>
    obtain ⟨htold, hne, -⟩ := followedToken?_eq_some_iff.1 goes
    have hnext := PageCall.next?_eq outcome
    cases hall with
    | last =>
      obtain ⟨-, c, hlast, hstops⟩ := hended
      obtain rfl : PageCall.make h fetch token s = c := by simpa using hlast
      rw [hnext, htold] at hstops
      exact absurd hstops (by simpa using hne)
    | @more _ _ next' all' told nonempty hrest =>
      obtain rfl : next = next' := by
        rw [hnext, htold] at told
        exact Option.some.inj told
      have hcons := hrest.tokens_eq
      rw [Option.toList_some, List.singleton_append] at hcons
      rw [List.tail_cons, hcons] at hnodup hnew
      obtain ⟨hnot, hnodup⟩ := List.nodup_cons.1 hnodup
      have htail : all' ≠ [] := by
        obtain ⟨rest, rfl⟩ := hrest.exists_eq_cons
        exact List.cons_ne_nil _ _
      congr 1
      refine ih hrest (hended.tail htail) hnodup (fun told hmem hseen => ?_)
        (Nat.le_of_succ_le_succ hlength)
      rcases List.mem_cons.1 hseen with rfl | hseen
      · exact hnot hmem
      · exact hnew told (List.mem_cons_of_mem _ hmem) hseen

end Collects

/-! ## The law -/

/-- How a listing comes from a server, by the requests for pages that it makes. -/
structure ListedExactly (h : Proc.Handler P σ) (fetch : Option String → Attempt P ε (Page α))
    (listing : Attempt P ε (List α)) (s : σ) (calls : List (PageCall ε α σ)) : Prop where
  /-- each request has the token of the page before it, and the first one has none -/
  chain : Chain h fetch none s calls
  /-- nothing else is asked for -/
  said : listing.run.exchanges h s = calls.flatMap fun c => (fetch c.token).run.exchanges h c.before
  /-- there are a thousand requests at most -/
  bounded : calls.length ≤ 1000
  /-- no token is asked for twice -/
  distinct : (tokens calls).Nodup
  /-- if every page comes, the listing is what they hold, in their order -/
  pages : (∀ c ∈ calls, ∃ page, c.outcome = .ok (.ok page)) →
    (listing.run.run h s).1 = .ok (.ok (calls.flatMap PageCall.items))
  /-- if one fails or crashes, the listing does -/
  error : ∀ c ∈ calls, ∀ e, c.outcome = .ok (.error e) → (listing.run.run h s).1 = .ok (.error e)
  crash : ∀ c ∈ calls, ∀ crash, c.outcome = .error crash →
    (listing.run.run h s).1 = .error crash
  /-- a chain of a thousand pages at most that comes to an end without repeating a token is listed
  whole -/
  whole : ∀ all, Chain h fetch none s all → Ended all → (tokens all).Nodup → all.length ≤ 1000 →
    calls = all ∧ (listing.run.run h s).1 = .ok (.ok (all.flatMap PageCall.items))

theorem exists_listedExactly (h : Proc.Handler P σ) (fetch : Option String → Attempt P ε (Page α))
    (s : σ) : ∃ calls, ListedExactly h fetch (allItems fetch) s calls := by
  obtain ⟨calls, r, t, hc⟩ := Collects.exists_collects h fetch (mostPages - 1) [] none s
  have hrun : ((allItems fetch).run.run h s).1 = r := congrArg Prod.fst hc.met.run
  have htokens : tokens calls = tokens calls.tail := hc.chain.tokens_eq
  refine ⟨calls, hc.chain, hc.met.log, hc.length_le, ?_, ?_, ?_, ?_, ?_⟩
  · rw [htokens]
    exact hc.fresh.1
  · rw [hrun]
    exact hc.of_pages
  · rw [hrun]
    exact fun c hmem => (hc.of_no_page hmem).1
  · rw [hrun]
    exact fun c hmem => (hc.of_no_page hmem).2
  · intro all hall hended hnodup hlength
    have hempty : tokens all = tokens all.tail := hall.tokens_eq
    rw [hempty] at hnodup
    obtain rfl : calls = all :=
      hc.eq_of_ended hall hended hnodup (fun _ _ hseen => List.not_mem_nil hseen) hlength
    rw [hrun]
    exact ⟨rfl, hc.of_pages hended.1⟩

namespace Client

/-- The request for a page of the open cases of an organisation. -/
def casePage (c : Client) (orgId : String) (token : Option String) : Call (Page CasePayload) :=
  c.transport.get (pathOf "cases:search") (("query", openCasesQuery orgId) :: pageQuery token)
    (Page.ofJson? "cases" CasePayload.ofJson?)

/-- The request for a page of the comments on a case. -/
def commentPage (c : Client) (name : String) (token : Option String) : Call (Page CommentPayload) :=
  c.transport.get (pathOf (name ++ "/comments")) (pageQuery token)
    (Page.ofJson? "comments" CommentPayload.ofJson?)

end Client

end CaseHerald.Support
