import CaseHerald.Proofs.Rounds
import Mathlib.Data.List.Infix

/-!
# Which comments are announced

A comment is announced if the comments of a case differ and the newest is by the support staff,
whether or not that one is new. It is an old one if comments that were in front of it have gone, or
if those behind it have changed; where comments are only added, none is announced again.

## Main definitions

* `Watch.Tells` : what leads a round to announce a comment.
* `Watch.Grows` : comments are only added from fetch to fetch.

## Main results

* `comment_mem_classify` : the rule by which a comment is announced.
* `Watch.Rounds.comments_told` : what every round announces of comments, and when that is new.
* `Watch.Rounds.announced_again` : an old comment that is announced again.
-/
namespace CaseHerald

/-! ## Two records -/

/-- **When a comment is announced.** -/
theorem comment_mem_classify {previous current : CaseRecord} {body : String} :
    .comment body ∈ classify previous current ↔ previous.comments ≠ current.comments ∧
      ∃ x, current.newest? = some x ∧ x.author.isSupport ∧ x.body = body := by
  have hpriority : FieldChange.comment body ∉ (if previous.priority = current.priority then []
      else [FieldChange.priority previous.priority current.priority]) := by
    split <;> simp
  have hescalation : FieldChange.comment body ∉ (if previous.escalated = current.escalated then []
      else [FieldChange.escalation current.escalated]) := by
    split <;> simp
  simp only [classify, List.mem_append, hpriority, hescalation, or_false]
  by_cases hsame : previous.comments = current.comments
  · simp [hsame]
  · cases hnewest : current.newest? with
    | none => simp [hsame]
    | some x =>
      by_cases hsupport : x.author.isSupport
      · simp only [hsame, hsupport, if_true, if_false, List.mem_singleton,
          FieldChange.comment.injEq, ne_eq, not_false_eq_true, Option.some.injEq, exists_eq_left',
          true_and]
        exact eq_comm
      · simp [hsame, hsupport]

/-- A newest comment is an old one just if comments have gone from in front of it, or those behind
it have changed. -/
theorem newest_mem_iff {previous current : CaseRecord} {x : Comment}
    (differ : previous.comments ≠ current.comments) (newest : current.newest? = some x) :
    x ∈ previous.comments ↔ ∃ front back, previous.comments = front ++ x :: back ∧
      (front ≠ [] ∨ back ≠ current.comments.tail) := by
  constructor
  · intro hmem
    obtain ⟨front, back, hsplit⟩ := List.append_of_mem hmem
    refine ⟨front, back, hsplit, ?_⟩
    by_cases hfront : front = []
    · right
      intro hback
      have hcurrent : current.comments = x :: current.comments.tail :=
        List.eq_cons_of_mem_head? newest
      rw [hsplit, hfront, List.nil_append, hback, ← hcurrent] at differ
      exact differ rfl
    · exact .inl hfront
  · rintro ⟨front, back, hsplit, -⟩
    rw [hsplit]
    exact List.mem_append_right _ List.mem_cons_self

/-- Where comments are only added, none of them twice, the newest is a new one. -/
theorem newest_notMem {previous current : CaseRecord} {x : Comment}
    (differ : previous.comments ≠ current.comments) (newest : current.newest? = some x)
    (added : previous.comments <:+ current.comments) (distinct : current.comments.Nodup) :
    x ∉ previous.comments := by
  obtain ⟨front, hfront⟩ := added
  cases front with
  | nil => exact absurd hfront differ
  | cons y front =>
    have hy : y = x := by
      rw [CaseRecord.newest?, ← hfront] at newest
      simpa using newest
    rw [← hfront, hy] at distinct
    intro hmem
    exact (List.nodup_cons.1 distinct).1 (List.mem_append_right front hmem)

namespace Watch

/-! ## Rounds -/

open Plan (firstActive?)

variable {fetches : List (List CaseRecord)} {live : List CaseRecord} {c : String}

/-- What leads a round to announce a comment of a case: the kept record, the fetched one, and the
comment, which is the newest. -/
structure Tells (fetches : List (List CaseRecord)) (live : List CaseRecord) (c : String)
    (kept fetched : CaseRecord) (x : Comment) : Prop where
  held : Held fetches c kept
  found : firstActive? live c = some fetched
  moved : fetched.updated ≠ kept.updated
  differ : kept.comments ≠ fetched.comments
  newest : fetched.newest? = some x
  support : x.author.isSupport

/-- Whether an open case has kept its comments from one fetch to another, behind those added, with
none of them twice. -/
def Adds (live later : List CaseRecord) : Prop :=
  ∀ a ∈ live, ∀ b ∈ later, a.isActive → b.isActive → a.number = b.number →
    a.comments <:+ b.comments ∧ b.comments.Nodup

instance (live later : List CaseRecord) : Decidable (Adds live later) :=
  inferInstanceAs (Decidable (∀ a ∈ live, ∀ b ∈ later, _ → _ → _ → _))

/-- Whether comments are only added in the course of the fetches. -/
def Grows (fetches : List (List CaseRecord)) : Prop := fetches.Pairwise Adds

instance (fetches : List (List CaseRecord)) : Decidable (Grows fetches) :=
  inferInstanceAs (Decidable (fetches.Pairwise Adds))

theorem Grows.suffix (h : Grows fetches) {m n : Nat} (hmn : m < n) {a b : CaseRecord}
    (ha : seen? fetches m c = some a) (hb : seen? fetches n c = some b) :
    a.comments <:+ b.comments ∧ b.comments.Nodup := by
  obtain ⟨live, hlive, hmem, hactive, hnumber⟩ := seen?_spec ha
  obtain ⟨later, hlater, hmem', hactive', hnumber'⟩ := seen?_spec hb
  obtain ⟨hm, rfl⟩ := List.getElem?_eq_some_iff.1 hlive
  obtain ⟨hn, rfl⟩ := List.getElem?_eq_some_iff.1 hlater
  exact List.pairwise_iff_getElem.1 h m n hm hn hmn a hmem b hmem' hactive hactive'
    (hnumber.trans hnumber'.symm)

theorem comment_mem_changesOf {r : CaseRecord} {body : String} :
    ⟨c, .comment, body⟩ ∈ changesOf live r ↔ r.number = c ∧ ∃ a x, firstActive? live c = some a ∧
      a.updated ≠ r.updated ∧ r.comments ≠ a.comments ∧ a.newest? = some x ∧
      x.author.isSupport ∧ x.body = body := by
  have hevent : ∀ (d : FieldChange) (number : String),
      d.event number = ⟨c, .comment, body⟩ ↔ d = .comment body ∧ number = c := by
    intro d number
    cases d with
    | comment b => simp [FieldChange.event, FieldChange.kind, FieldChange.payload, and_comm]
    | priority => simp [FieldChange.event, FieldChange.kind]
    | escalation escalated => cases escalated <;> simp [FieldChange.event, FieldChange.kind]
  unfold changesOf
  constructor
  · intro hmem
    split at hmem
    next a ha =>
      split at hmem
      · cases hmem
      next hmoved =>
        obtain ⟨d, hd, hd'⟩ := List.mem_map.1 hmem
        obtain ⟨rfl, rfl⟩ := (hevent d r.number).1 hd'
        obtain ⟨hdiffer, x, hx⟩ := comment_mem_classify.1 hd
        exact ⟨rfl, a, x, ha, hmoved, hdiffer, hx⟩
    next => cases hmem
  · rintro ⟨rfl, a, x, ha, hmoved, hdiffer, hx⟩
    simp only [ha, if_neg hmoved]
    exact List.mem_map.2 ⟨_, comment_mem_classify.2 ⟨hdiffer, x, hx⟩, (hevent _ _).2 ⟨rfl, rfl⟩⟩

/-- The comments that a round announces. -/
theorem comment_mem_roundEvents {stored : List CaseRecord} (h : Tracks fetches stored)
    {body : String} :
    ⟨c, .comment, body⟩ ∈ roundEvents stored live ↔
      ∃ r a x, Tells fetches live c r a x ∧ x.body = body := by
  have hclosed : ⟨c, .comment, body⟩ ∉ (stored.filter fun r => !Plan.isLive live r.number).map
      fun r => Event.closed r.number := by
    simp [Event.closed]
  simp only [roundEvents, List.mem_append, hclosed, false_or, List.mem_flatMap]
  constructor
  · rintro ⟨r, hr, hmem⟩
    obtain ⟨hnumber, a, x, ha, hmoved, hdiffer, hnewest, hsupport, hbody⟩ :=
      comment_mem_changesOf.1 hmem
    exact ⟨r, a, x, ⟨h.mem_iff.1 ⟨hr, hnumber⟩, ha, hmoved, hdiffer, hnewest, hsupport⟩,
      hbody⟩
  · rintro ⟨r, a, x, htells, hbody⟩
    obtain ⟨hr, hnumber⟩ := h.mem_iff.2 htells.held
    exact ⟨r, hr, comment_mem_changesOf.2 ⟨hnumber, a, x, htells.found, htells.moved,
      htells.differ, htells.newest, htells.support, hbody⟩⟩

/-- What a round announces of comments. -/
structure ExactComments (rounds : List Round) (n : Nat) (round : Round) : Prop where
  told : ∀ c body, ⟨c, .comment, body⟩ ∈ round.told ↔
    ∃ r a x, Tells ((rounds.take n).map Round.live) round.live c r a x ∧ x.body = body
  /-- the comment is an old one just if comments have gone from in front of it, or those behind it
  have changed -/
  seen : ∀ c r a x, Tells ((rounds.take n).map Round.live) round.live c r a x →
    (x ∈ r.comments ↔ ∃ front back, r.comments = front ++ x :: back ∧
      (front ≠ [] ∨ back ≠ a.comments.tail))
  /-- where comments are only added, it is new, and no round before has announced it -/
  once : Grows (rounds.map Round.live) → ∀ c r a x,
    Tells ((rounds.take n).map Round.live) round.live c r a x → x ∉ r.comments ∧
      ∀ m (earlier : Round) r' a' y, m < n → rounds[m]? = some earlier →
        Tells ((rounds.take m).map Round.live) earlier.live c r' a' y → y ≠ x

theorem seen?_live {rounds : List Round} {n : Nat} {round : Round} (h : rounds[n]? = some round)
    (c : String) : seen? (rounds.map Round.live) n c = firstActive? round.live c := by
  rw [seen?, List.getElem?_map, h]
  rfl

namespace Tells

variable {rounds : List Round} {n : Nat} {round : Round} {r a : CaseRecord} {x : Comment}

/-- Where comments are only added, an announced one is not in the kept record. -/
theorem notMem (h : Tells ((rounds.take n).map Round.live) round.live c r a x)
    (grows : Grows (rounds.map Round.live)) (hn : rounds[n]? = some round) : x ∉ r.comments := by
  obtain ⟨first, k, hheld⟩ := h.held
  rw [List.map_take] at hheld
  obtain ⟨hk, hkept⟩ := seen?_of_take hheld.fetched
  obtain ⟨hsuffix, hdistinct⟩ := grows.suffix hk hkept ((seen?_live hn c).trans h.found)
  exact newest_notMem h.differ h.newest hsuffix hdistinct

/-- Where comments are only added, one that has been announced stays in the kept record. -/
theorem mem_kept (h : Tells ((rounds.take n).map Round.live) round.live c r a x)
    (regular : Regular (rounds.map Round.live)) (grows : Grows (rounds.map Round.live)) {m : Nat}
    {earlier : Round} (hmn : m < n) (hm : rounds[m]? = some earlier) {r' a' : CaseRecord}
    {y : Comment} (h' : Tells ((rounds.take m).map Round.live) earlier.live c r' a' y) :
    y ∈ r.comments := by
  obtain ⟨first, k, hheld⟩ := h.held
  have hfound : seen? (rounds.map Round.live) m c = some a' := (seen?_live hm c).trans h'.found
  have hold := h'.held
  rw [List.map_take] at hheld hold
  -- the kept record dates from no earlier a fetch than the announcement
  have hle := hheld.le_of_moved regular hmn hold hfound h'.moved
  have hkept := (seen?_of_take hheld.fetched).2
  have hy : y ∈ a'.comments := List.mem_of_mem_head? h'.newest
  rcases Nat.lt_or_eq_of_le hle with hlt | rfl
  · exact (grows.suffix hlt hfound hkept).1.subset hy
  · rw [hfound] at hkept
    cases hkept
    exact hy

end Tells

/-- **Which comments are announced**, round by round: where a case has moved, its comments differ
from those kept and the newest is by the support staff, that one, be it new or not. It is an old one
just if comments have gone from in front of it, or if those behind it have changed. -/
theorem Rounds.comments_told {subscribes : Bool} {rounds : List Round} {w : Watcher} {s : Scene}
    (h : Rounds subscribes rounds w s) (regular : Regular (rounds.map Round.live)) :
    ∀ n (round : Round), rounds[n]? = some round → ExactComments rounds n round := by
  intro n round hn
  obtain ⟨stored, htracks, htold⟩ := ((h.kept regular).2 n round hn).told
  constructor
  · intro c body
    rw [htold]
    exact comment_mem_roundEvents htracks
  · intro c r a x htells
    exact newest_mem_iff htells.differ htells.newest
  · intro grows c r a x htells
    have hnew := htells.notMem grows hn
    refine ⟨hnew, ?_⟩
    rintro m earlier r' a' y hmn hm htells' rfl
    exact hnew (htells.mem_kept regular grows hmn hm htells')

/-! ## Some comments -/

/-- A case with comments, updated at the second. -/
def commented (n : Nat) (comments : List Comment) : CaseRecord :=
  { sample "a" n 2 with comments }

/-- A comment by the support staff. -/
def reply (body : String) (n : Nat) : Comment := ⟨⟨"Agent", none, true⟩, body, instantAt n⟩

/-- A comment by the customer. -/
def question (body : String) : Comment := ⟨⟨"Customer", none, false⟩, body, instantAt 1⟩

/-- A case gains a comment with every update. -/
def growing : List (List CaseRecord) :=
  [[commented 1 [question "why"]], [commented 2 [reply "hello" 2, question "why"]],
    [commented 3 [reply "done" 3, reply "hello" 2, question "why"]]]

theorem Rounds.comments_told_growing :
    Rounds false (playedRounds growing).1 (playedRounds growing).2.1 (playedRounds growing).2.2 ∧
      Regular ((playedRounds growing).1.map Round.live) ∧
      (playedRounds growing).1.map Round.told =
        [[], [⟨"a", .comment, "hello"⟩], [⟨"a", .comment, "done"⟩]] ∧
      ∃ r a x, Tells (growing.take 2) (latest growing) "a" r a x ∧ x.body = "done" ∧
        x ∉ r.comments := by
  have rounds : Rounds false (playedRounds growing).1 (playedRounds growing).2.1
      (playedRounds growing).2.2 := rounds_playedRounds (by decide +kernel)
  have lives : (playedRounds growing).1.map Round.live = growing := by decide +kernel
  have tolds : (playedRounds growing).1.map Round.told =
      [[], [⟨"a", .comment, "hello"⟩], [⟨"a", .comment, "done"⟩]] := by decide +kernel
  have regular : Regular ((playedRounds growing).1.map Round.live) := by
    rw [lives]
    exact ⟨by decide +kernel, by decide +kernel, by decide +kernel⟩
  have grows : Grows ((playedRounds growing).1.map Round.live) := by
    rw [lives]
    decide +kernel
  refine ⟨rounds, regular, tolds, ?_⟩
  have third : ((playedRounds growing).1[2]?).map Round.live = some (latest growing) := by
    rw [← List.getElem?_map, lives]
    rfl
  obtain ⟨round, hround, live⟩ := Option.map_eq_some_iff.1 third
  have told : ⟨"a", .comment, "done"⟩ ∈ round.told := by
    have htold := congrArg (·[2]?) tolds
    simp only [List.getElem?_map, hround, Option.map_some] at htold
    rw [Option.some.inj htold]
    exact List.mem_cons_self
  have exact := rounds.comments_told regular 2 round hround
  obtain ⟨r, a, x, htells, hbody⟩ := (exact.told "a" "done").1 told
  have hnew := (exact.once grows "a" r a x htells).1
  rw [List.map_take, lives, live] at htells
  exact ⟨r, a, x, htells, hbody, hnew⟩

/-- A case loses a comment, has one edited, and has two of one time change places. -/
def reworked : List (List CaseRecord) :=
  [[commented 1 [question "why", question "how"]],
    [commented 2 [reply "hello" 2, question "why", question "how"]],
    [commented 3 [reply "hello" 2, question "how", question "why"]],
    [commented 4 [reply "hello" 2, question "where", question "why"]],
    [commented 5 [reply "hello" 2, question "where"]]]

/-- **A comment that is announced though it is not new**: first when it has been made, and again
whenever the older ones change places, are edited or deleted. -/
theorem Rounds.announced_again :
    (Rounds false (playedRounds reworked).1 (playedRounds reworked).2.1
        (playedRounds reworked).2.2 ∧
      Regular ((playedRounds reworked).1.map Round.live) ∧
      (playedRounds reworked).1.map Round.told =
        [] :: List.replicate 4 [⟨"a", .comment, "hello"⟩]) ∧
    (.comment "hello" ∈ classify (commented 2 [reply "hello" 2, question "why"])
        (commented 3 [reply "hello" 2]) ∧
      (commented 3 [reply "hello" 2]).newest? = some (reply "hello" 2) ∧
      reply "hello" 2 ∈ (commented 2 [reply "hello" 2, question "why"]).comments) := by
  have rounds : Rounds false (playedRounds reworked).1 (playedRounds reworked).2.1
      (playedRounds reworked).2.2 := rounds_playedRounds (by decide +kernel)
  have lives : (playedRounds reworked).1.map Round.live = reworked := by decide +kernel
  have regular : Regular ((playedRounds reworked).1.map Round.live) := by
    rw [lives]
    exact ⟨by decide +kernel, by decide +kernel, by decide +kernel⟩
  exact ⟨⟨rounds, regular, by decide +kernel⟩, by decide +kernel⟩

end Watch

end CaseHerald
