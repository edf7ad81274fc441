import CaseHerald.Proofs.Exchanges
import CaseHerald.Rehearsal.Retries

/-!
# Trying again under a policy

A call is tried on a clock that moves only by the delays, and its outcomes are any sequence. `Tries` is
the course of the tries from one of them on: it ends at the first outcome that does not pass, or when no
try is left, and otherwise a delay lies between two tries. What the policy does is such a course
(`Tries.run_eq`), and the law of the course says when each try is made, how many there are and what they
come to (`tried_exactly`). `crashesOn_run` and `atMost_run` are about a call of any kind: a policy whose
delays can be told adds no crash to it, and multiplies its requests by the number of the tries at most.
-/
namespace CaseHerald

theorem Span.shorter_shorter (a b : Span) : (a.shorter b).shorter b = a.shorter b := by
  unfold Span.shorter
  by_cases h : a.nanos ≤ b.nanos <;> simp [h]

namespace Net

variable {α : Type}

/-- The result that an outcome is, unless it is a failure that may pass. -/
def Tried.result? : Tried α → Option (Except SourceFailure α)
  | .done a => some (.ok a)
  | .fatal f => some (.error f)
  | .transient .. => none

namespace RetryPolicy

variable {p : RetryPolicy} {service : String}

theorem mostTries_pos (p : RetryPolicy) : 0 < p.mostTries :=
  Nat.lt_min.2 ⟨Nat.succ_pos _, by decide⟩

/-! ## Delays -/

/-- The delay is the one asked for, or else the one of the policy, up to the longest one. -/
theorem delay?_eq (p : RetryPolicy) (retry : Nat) (after : Option Span) :
    p.delay? retry after = (after.or (p.backoff? retry)).map fun s => s.shorter p.longest := by
  cases after with
  | some asked => rfl
  | none =>
    simp only [delay?, Option.none_or, backoff?, Option.map_map, Function.comp_def,
      Span.shorter_shorter]

/-- Every delay that the policy may come to can be told. -/
def TellsBackoffs (p : RetryPolicy) : Prop :=
  ∀ retry, retry + 1 < p.mostTries → (p.backoff? retry).isSome

theorem TellsBackoffs.delay? (hp : p.TellsBackoffs) {retry : Nat} (hretry : retry + 1 < p.mostTries)
    (after : Option Span) : ∃ span, p.delay? retry after = some span := by
  obtain ⟨backoff, hbackoff⟩ := Option.isSome_iff_exists.1 (hp retry hretry)
  rw [delay?_eq, hbackoff]
  cases after with
  | some asked => exact ⟨_, rfl⟩
  | none => exact ⟨_, rfl⟩

/-- The usual delays can be told, for any number of retries: they differ only up to the steepest. -/
theorem tellsBackoffs_usual (mostRetries : Nat) : (usual mostRetries).TellsBackoffs := by
  have hfirst : ∀ k ≤ steepest, ((usual 0).backoff? k).isSome := by decide +kernel
  intro retry _
  have hsame : (usual mostRetries).backoff? retry = (usual 0).backoff? (min retry steepest) := by
    simp [backoff?, usual]
  rw [hsame]
  exact hfirst _ (Nat.min_le_right _ _)

/-! ## Calls of any kind -/

section Calls

variable {P : Interface} {pause : Span → Proc P Unit} {call : Proc P (Tried α)}

/-- What the policy does after a try. -/
def goOn (p : RetryPolicy) (service : String) (pause : Span → Proc P Unit) (call : Proc P (Tried α))
    (left retry : Nat) : Tried α → Proc P (Except SourceFailure α)
  | .done a => .done (.ok a)
  | .fatal f => .done (.error f)
  | .transient reason after =>
    match left with
    | 0 => .done (.error (.transient service p.mostTries reason))
    | left + 1 =>
      match p.delay? retry after with
      | none => .halt .delayOverflow
      | some span => pause span >>= fun _ => p.tryFrom service pause call left (retry + 1)

theorem tryFrom_eq (p : RetryPolicy) (service : String) (pause : Span → Proc P Unit)
    (call : Proc P (Tried α)) (left retry : Nat) :
    p.tryFrom service pause call left retry = call >>= p.goOn service pause call left retry := by
  rw [tryFrom]
  rfl

/-- A policy adds no crash to the call that is tried. -/
theorem crashesOn_tryFrom {bad : Proc.Exchange P → Prop} (hp : p.TellsBackoffs)
    (hcall : call.CrashesOn bad) (hpause : ∀ span, (pause span).CrashesOn bad) {left retry : Nat}
    (htries : retry + left < p.mostTries) :
    (p.tryFrom service pause call left retry).CrashesOn bad := by
  induction left generalizing retry with
  | zero =>
    rw [tryFrom_eq]
    refine hcall.bind fun tried => ?_
    cases tried <;> trivial
  | succ left ih =>
    rw [tryFrom_eq]
    refine hcall.bind fun tried => ?_
    cases tried with
    | done | fatal => trivial
    | transient reason after =>
      have hretry : retry + 1 < p.mostTries := by omega
      obtain ⟨span, hspan⟩ := hp.delay? hretry after
      simp only [goOn, hspan]
      exact (hpause span).bind fun _ => ih (by omega)

theorem crashesOn_run {bad : Proc.Exchange P → Prop} (hp : p.TellsBackoffs)
    (hcall : call.CrashesOn bad) (hpause : ∀ span, (pause span).CrashesOn bad) :
    (p.run service pause call).CrashesOn bad := by
  have hpos := p.mostTries_pos
  exact crashesOn_tryFrom hp hcall hpause (by omega)

/-- A call that makes at most one request of a kind makes at most one with every try. -/
theorem atMost_tryFrom {A : P.Request → Bool} (hcall : call.AtMost A 1)
    (hpause : ∀ span, (pause span).AtMost A 0) (left retry : Nat) :
    (p.tryFrom service pause call left retry).AtMost A (left + 1) := by
  induction left generalizing retry with
  | zero =>
    rw [tryFrom_eq]
    refine hcall.bind (n := 0) fun tried => ?_
    cases tried <;> trivial
  | succ left ih =>
    rw [tryFrom_eq, Nat.add_comm (left + 1)]
    refine hcall.bind fun tried => ?_
    cases tried with
    | done | fatal => trivial
    | transient reason after =>
      cases hspan : p.delay? retry after with
      | none =>
        simp only [goOn, hspan]
        trivial
      | some span =>
        simp only [goOn, hspan]
        have hrest := (hpause span).bind fun _ => ih (retry + 1)
        rwa [Nat.zero_add] at hrest

theorem atMost_run {A : P.Request → Bool} (hcall : call.AtMost A 1)
    (hpause : ∀ span, (pause span).AtMost A 0) :
    (p.run service pause call).AtMost A (p.mostRetries + 1) := by
  refine (atMost_tryFrom hcall hpause _ 0).mono ?_
  have hpos := p.mostTries_pos
  have hle : p.mostTries ≤ p.mostRetries + 1 := Nat.min_le_left _ _
  omega

end Calls

/-! ## The course of the tries -/

/-- The time on a clock, and the times of the calls so far. -/
structure Timeline where
  now : Span
  calls : List Span
  deriving DecidableEq

/-- Meets the requests of a call with these outcomes, on a clock that moves only by pauses. -/
def Timeline.handler (outcomes : Nat → Tried α) :
    Proc.Handler (Rehearsal.retryInterface α) Timeline
  | .call, t => (some (outcomes t.calls.length), { t with calls := t.calls ++ [t.now] })
  | .pause span, t => ((), { t with now := t.now + span })

/-- Lets a span of time pass. -/
def pausing (α : Type) (span : Span) : Proc (Rehearsal.retryInterface α) Unit :=
  Proc.request (P := Rehearsal.retryInterface α) (.pause span)

/-- The tries from the one with the number `retry` on, when `left` are left after it: the times of the
calls, the result, and the time at the end. -/
inductive Tries (p : RetryPolicy) (service : String) (outcomes : Nat → Tried α) :
    (left retry : Nat) → (now : Span) → List Span → Except SourceFailure α → (last : Span) → Prop
  /-- the outcome is a result -/
  | settled {left retry : Nat} {now : Span} {r : Except SourceFailure α}
      (result : (outcomes retry).result? = some r) :
      Tries p service outcomes left retry now [now] r now
  /-- it may pass, but there is no try left -/
  | spent {retry : Nat} {now : Span} {reason : String} {after : Option Span}
      (passing : outcomes retry = .transient reason after) :
      Tries p service outcomes 0 retry now [now] (.error (.transient service p.mostTries reason)) now
  /-- it may pass, and there is another try after a delay -/
  | again {left retry : Nat} {now span last : Span} {reason : String} {after : Option Span}
      {calls : List Span} {r : Except SourceFailure α}
      (passing : outcomes retry = .transient reason after) (delay : p.delay? retry after = some span)
      (rest : Tries p service outcomes left (retry + 1) (now + span) calls r last) :
      Tries p service outcomes (left + 1) retry now (now :: calls) r last

namespace Tries

variable {outcomes : Nat → Tried α} {left retry : Nat} {now last : Span} {calls : List Span}
  {r : Except SourceFailure α}

/-- **There is such a course**, if the delays can be told. -/
theorem exists_tries (hp : p.TellsBackoffs) (service : String) (outcomes : Nat → Tried α)
    {left retry : Nat} (htries : retry + left < p.mostTries) (now : Span) :
    ∃ calls r last, Tries p service outcomes left retry now calls r last := by
  induction left generalizing retry now with
  | zero =>
    cases houtcome : outcomes retry with
    | done | fatal => exact ⟨_, _, _, .settled (congrArg Tried.result? houtcome)⟩
    | transient reason after => exact ⟨_, _, _, .spent houtcome⟩
  | succ left ih =>
    cases houtcome : outcomes retry with
    | done | fatal => exact ⟨_, _, _, .settled (congrArg Tried.result? houtcome)⟩
    | transient reason after =>
      have hretry : retry + 1 < p.mostTries := by omega
      have hnext : retry + 1 + left < p.mostTries := by omega
      obtain ⟨span, hspan⟩ := hp.delay? hretry after
      obtain ⟨calls, r, last, hrest⟩ := ih hnext (now + span)
      exact ⟨_, _, _, .again houtcome hspan hrest⟩

/-- **What the policy does is this course.** -/
theorem run_eq (h : Tries p service outcomes left retry now calls r last) (z : α) {before : List Span}
    (hbefore : before.length = retry) :
    (p.tryFrom service (pausing α) (Rehearsal.Trial.call z) left retry).run (Timeline.handler outcomes)
      ⟨now, before⟩ = (.ok r, ⟨last, before ++ calls⟩) := by
  have hcall (now : Span) (before : List Span) :
      (Rehearsal.Trial.call z).run (Timeline.handler outcomes) ⟨now, before⟩ =
        (.ok (outcomes before.length), ⟨now, before ++ [now]⟩) := rfl
  induction h generalizing before with
  | @settled left retry now r result =>
    rw [tryFrom_eq, Proc.run_bind, hcall, hbefore]
    cases houtcome : outcomes retry with
    | done | fatal =>
      rw [houtcome] at result
      cases result
      rfl
    | transient =>
      rw [houtcome] at result
      cases result
  | spent passing =>
    rw [tryFrom_eq, Proc.run_bind, hcall, hbefore, passing]
    rfl
  | @again left retry now span last reason after calls r passing delay _ ih =>
    rw [tryFrom_eq, Proc.run_bind, hcall, hbefore, passing]
    simp only [goOn, delay]
    have hlength : (before ++ [now]).length = retry + 1 := by
      rw [List.length_append, hbefore]
      rfl
    have hrest := ih hlength
    rw [List.append_assoc] at hrest
    exact hrest

/-- Whether a delay lies between each call and the next one, as the outcome of the former has it. -/
def Spaced (p : RetryPolicy) (outcomes : Nat → Tried α) (retry : Nat) (calls : List Span) : Prop :=
  ∀ n (h : n + 1 < calls.length), ∃ reason after span, outcomes (retry + n) = .transient reason after ∧
    after.or (p.backoff? (retry + n)) = some span ∧ calls[n + 1] = calls[n] + span.shorter p.longest

theorem head?_calls (h : Tries p service outcomes left retry now calls r last) :
    calls.head? = some now := by
  cases h <;> rfl

theorem getLast?_calls (h : Tries p service outcomes left retry now calls r last) :
    calls.getLast? = some last := by
  induction h with
  | settled | spent => rfl
  | again _ _ rest ih =>
    rw [List.getLast?_cons, ih, Option.getD_some]

theorem spaced (h : Tries p service outcomes left retry now calls r last) :
    Spaced p outcomes retry calls := by
  induction h with
  | settled | spent =>
    intro n hn
    simp at hn
  | @again left retry now span last reason after calls r passing delay rest ih =>
    intro n hn
    cases n with
    | zero =>
      rw [delay?_eq] at delay
      obtain ⟨told, htold, rfl⟩ := Option.map_eq_some_iff.1 delay
      refine ⟨reason, after, told, passing, htold, ?_⟩
      have hhead := rest.head?_calls
      rw [List.head?_eq_getElem?] at hhead
      exact (List.getElem?_eq_some_iff.1 hhead).2
    | succ n =>
      obtain ⟨reason', after', told, houtcome, htold, hcalls⟩ := ih n (Nat.lt_of_succ_lt_succ hn)
      rw [Nat.add_right_comm, Nat.add_assoc] at houtcome htold
      exact ⟨reason', after', told, houtcome, htold, hcalls⟩

/-- **How a course ends**: at the first result, or with the last try when all outcomes may pass. -/
theorem ends (h : Tries p service outcomes left retry now calls r last) :
    (∃ i, (∀ k, retry ≤ k → k < i → (outcomes k).result? = none) ∧ (outcomes i).result? = some r ∧
        i ≤ retry + left ∧ retry + calls.length = i + 1) ∨
      (∃ reason after, (∀ k, retry ≤ k → k ≤ retry + left → (outcomes k).result? = none) ∧
        outcomes (retry + left) = .transient reason after ∧ calls.length = left + 1 ∧
        r = .error (.transient service p.mostTries reason)) := by
  have hnone {k : Nat} {reason : String} {after : Option Span}
      (houtcome : outcomes k = .transient reason after) : (outcomes k).result? = none := by
    rw [houtcome]
    rfl
  induction h with
  | @settled left retry now r result =>
    exact .inl ⟨retry, fun k _ _ => by omega, result, Nat.le_add_right _ _, rfl⟩
  | @spent retry now reason after passing =>
    refine .inr ⟨reason, after, fun k _ _ => ?_, passing, rfl, rfl⟩
    obtain rfl : k = retry := by omega
    exact hnone passing
  | @again left retry now span last reason after calls r passing delay rest ih =>
    have hfirst {k : Nat} (hle : retry ≤ k) (hrest : retry + 1 ≤ k → (outcomes k).result? = none) :
        (outcomes k).result? = none := by
      rcases Nat.eq_or_lt_of_le hle with rfl | hlt
      · exact hnone passing
      · exact hrest hlt
    rcases ih with ⟨i, hbefore, hresult, hle, hlength⟩ | ⟨reason', after', hall, hspent, hlength, hr⟩
    · refine .inl ⟨i, fun k hk hki => hfirst hk fun h => hbefore k h hki, hresult, by omega, ?_⟩
      rw [List.length_cons]
      omega
    · refine .inr ⟨reason', after', fun k hk hkl => hfirst hk fun h => hall k h (by omega), ?_, ?_, hr⟩
      · rw [← hspent]
        congr 1
        omega
      · rw [List.length_cons, hlength]

end Tries

/-! ## The law -/

/-- Whether the outcome with the number is the first one that is a result. -/
def IsFirstResult (outcomes : Nat → Tried α) (i : Nat) : Prop :=
  (∃ r, (outcomes i).result? = some r) ∧ ∀ k < i, (outcomes k).result? = none

/-- How a call with these outcomes is tried under the policy: the times of the calls, the result, and the
time at the end. -/
structure TriedExactly (p : RetryPolicy) (service : String) (outcomes : Nat → Tried α)
    (calls : List Span) (r : Except SourceFailure α) (last : Span) : Prop where
  /-- one try more than retries, up to the greatest number there is -/
  budget : p.mostTries = min (p.mostRetries + 1) (Nat.pow 2 32 - 1)
  /-- it is called until there is a result, while there are tries left -/
  length_of_first : ∀ i, IsFirstResult outcomes i → calls.length = min (i + 1) p.mostTries
  length_of_none : (∀ i, (outcomes i).result? = none) → calls.length = p.mostTries
  /-- the first result is the result, if there are tries up to it -/
  within : ∀ i, IsFirstResult outcomes i → i < p.mostTries → (outcomes i).result? = some r
  /-- otherwise the last outcome says why there is none -/
  beyond : (∀ i < p.mostTries, (outcomes i).result? = none) →
    ∃ reason after, outcomes (p.mostTries - 1) = .transient reason after ∧
      r = .error (.transient service p.mostTries reason)
  /-- the first call is made at once -/
  first : calls.head? = some ⟨0⟩
  /-- the delay asked for, or else the one of the policy, lies before the next call, up to the longest -/
  spaced : ∀ n (h : n + 1 < calls.length), ∃ reason after span, outcomes n = .transient reason after ∧
    after.or (p.backoff? n) = some span ∧ calls[n + 1] = calls[n] + span.shorter p.longest
  /-- no time passes after the last call -/
  last : calls.getLast? = some last

theorem IsFirstResult.eq {outcomes : Nat → Tried α} {i j : Nat} (hi : IsFirstResult outcomes i)
    (hj : IsFirstResult outcomes j) : i = j := by
  have hle {i j : Nat} (hi : IsFirstResult outcomes i) (hj : IsFirstResult outcomes j) : i ≤ j := by
    obtain ⟨r, hr⟩ := hj.1
    by_contra hlt
    rw [hi.2 j (Nat.lt_of_not_le hlt)] at hr
    cases hr
  exact Nat.le_antisymm (hle hi hj) (hle hj hi)

/-- The law of a course that has all tries before it. -/
theorem Tries.exactly {outcomes : Nat → Tried α} {last : Span} {calls : List Span}
    {r : Except SourceFailure α}
    (h : Tries p service outcomes (p.mostTries - 1) 0 ⟨0⟩ calls r last) :
    TriedExactly p service outcomes calls r last := by
  have hpos := p.mostTries_pos
  have hspaced := h.spaced
  simp only [Spaced, Nat.zero_add] at hspaced
  rcases h.ends with ⟨j, hbefore, hresult, hle, hlength⟩ | ⟨reason, after, hall, hspent, hlength, hr⟩
  · have hj : IsFirstResult outcomes j :=
      ⟨⟨r, hresult⟩, fun k hk => hbefore k (Nat.zero_le k) hk⟩
    have hsome : (outcomes j).result? ≠ none := by simp [hresult]
    refine ⟨rfl, fun i hi => ?_, fun hnone => absurd (hnone j) hsome, fun i hi _ => ?_, fun hnone => ?_,
      h.head?_calls, hspaced, h.getLast?_calls⟩
    · rw [hi.eq hj]
      omega
    · rw [hi.eq hj]
      exact hresult
    · exact absurd (hnone j (by omega)) hsome
  · have hnone {k : Nat} (hk : k < p.mostTries) : (outcomes k).result? = none :=
      hall k (Nat.zero_le k) (by omega)
    refine ⟨rfl, fun i hi => ?_, fun _ => by omega, fun i hi hlt => ?_, fun _ => ?_, h.head?_calls,
      hspaced, h.getLast?_calls⟩
    · have hbeyond : p.mostTries ≤ i := by
        obtain ⟨r', hr'⟩ := hi.1
        by_contra hlt
        rw [hnone (Nat.lt_of_not_le hlt)] at hr'
        cases hr'
      omega
    · obtain ⟨r', hr'⟩ := hi.1
      rw [hnone hlt] at hr'
      cases hr'
    · rw [Nat.zero_add] at hspent
      exact ⟨reason, after, hspent, hr⟩

/-- **A call is tried exactly as the policy says**, whatever its outcomes. -/
theorem tried_exactly (hp : p.TellsBackoffs) (service : String) (outcomes : Nat → Tried α) (z : α) :
    ∃ calls r last, (p.run service (pausing α) (Rehearsal.Trial.call z)).run
        (Timeline.handler outcomes) ⟨⟨0⟩, []⟩ = (.ok r, ⟨last, calls⟩) ∧
      TriedExactly p service outcomes calls r last := by
  have hpos := p.mostTries_pos
  have hbudget : 0 + (p.mostTries - 1) < p.mostTries := by omega
  obtain ⟨calls, r, last, htries⟩ := Tries.exists_tries hp service outcomes hbudget ⟨0⟩
  exact ⟨calls, r, last, htries.run_eq z rfl, htries.exactly⟩

/-- A call that is put off for longer than the policy waits, and then fails on. -/
def putOff : Nat → Tried Nat
  | 0 => .transient "busy" (some (.seconds 60))
  | _ => .transient "slow" none

theorem tried_exactly_putOff :
    (usual 2).TellsBackoffs ∧
      ∃ r last, TriedExactly (usual 2) "desk" putOff [.seconds 0, .seconds 8, .seconds 9] r last ∧
        r = .error (.transient "desk" 3 "slow") ∧ last = .seconds 9 := by
  obtain ⟨calls, r, last, hrun, hexact⟩ := tried_exactly (tellsBackoffs_usual 2) "desk" putOff 0
  have hcalls : ((usual 2).run "desk" (pausing Nat) (Rehearsal.Trial.call 0)).run
      (Timeline.handler putOff) ⟨⟨0⟩, []⟩ =
        (.ok (.error (.transient "desk" 3 "slow")), ⟨.seconds 9, [.seconds 0, .seconds 8, .seconds 9]⟩) := by
    decide +kernel
  rw [hcalls] at hrun
  cases hrun
  exact ⟨tellsBackoffs_usual 2, _, _, hexact, rfl, rfl⟩

end RetryPolicy

end Net

end CaseHerald
