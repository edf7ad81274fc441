import CaseHerald.Net.Transport
import CaseHerald.Proofs.Retries

/-!
# What crashes a call to a service

A response may carry any status, headers and body. A call to a service decodes it or fails as one of the
causes that a service may fail for, with one exception: a response that asks to wait for more seconds than
a span of time can tell (`Response.AsksForever`) crashes the client, whatever its status is. Such a
response is the last one of a call; without it every call ends with an answer or a failure, within its
tries (`answers_unless_overlong`).
-/
namespace CaseHerald.Net

variable {α σ : Type}

/-! ## Delays that cannot be told -/

/-- The response asks to wait for `2 ^ 64` seconds or more, to the nearest nanosecond. -/
def Response.AsksForever (r : Response) : Prop :=
  ∃ value q, r.header? "retry-after" = some value ∧
    (value.all fun b => b = 0x09 || (0x20 ≤ b && b < 0x7F)) = true ∧
    Number.real? Number.binary64 (Text.trim (Text.tolerant (Text.ofOctets value))) = some (.finite q) ∧
    0 ≤ q ∧ Nat.pow 2 64 * Span.nanosPerSecond ≤ Number.roundToNat (q * (Span.nanosPerSecond : Rat))

theorem ofSeconds?_eq_none_iff {q : Rat} (hq : 0 ≤ q) :
    Span.ofSeconds? (.finite q) = none ↔
      Nat.pow 2 64 * Span.nanosPerSecond ≤ Number.roundToNat (q * (Span.nanosPerSecond : Rat)) := by
  simp only [Span.ofSeconds?, if_neg (Rat.not_lt.2 hq)]
  split
  next hlt => simp [Nat.not_le.2 hlt]
  next hle => simp [Nat.not_lt.1 hle]

/-- Only such a delay is not told. -/
theorem retryAfter_eq_none_iff {r : Response} : r.retryAfter = none ↔ r.AsksForever := by
  unfold Response.retryAfter Response.AsksForever
  cases hvalue : r.header? "retry-after" with
  | none => simp
  | some value =>
    simp only [Option.some.injEq, exists_and_left, exists_eq_left']
    split
    next hvisible =>
      cases hreal : Number.real? Number.binary64 (Text.trim (Text.tolerant (Text.ofOctets value))) with
      | none => simp
      | some x =>
        cases x with
        | nan | infinite => simp
        | finite q =>
          simp only [hvisible, true_and, Option.some.injEq, Number.Extended.finite.injEq, exists_eq_left']
          split
          next hneg => simp [Rat.not_le.2 hneg]
          next hpos =>
            rw [Option.map_eq_none_iff, ofSeconds?_eq_none_iff (Rat.not_lt.1 hpos)]
            simp [Rat.not_lt.1 hpos]
    next hhidden => simp [hhidden]

/-! ## One try -/

/-- The response that a request got. -/
def received? : Proc.Exchange interface → Option Response
  | ⟨.send _, .ok r⟩ => some r
  | _ => none

/-- Whether the exchange is a response that asks to wait for too long. -/
def IsOverlong (x : Proc.Exchange interface) : Prop := ∃ r, received? x = some r ∧ r.AsksForever

/-- Whether a request goes to a server. -/
def Ask.isSend : Ask → Bool
  | .send _ => true
  | _ => false

theorem crashesOn_pause (span : Span) : (pause span).CrashesOn IsOverlong :=
  Proc.CrashesOn.request fun _ ⟨_, hr, _⟩ => by cases hr

theorem atMost_pause (span : Span) : (pause span).AtMost Ask.isSend 0 := Proc.AtMost.request _

namespace Transport

variable {t : Transport} {token : String} {c : Call} {d : Text.Gapped → Option α}

theorem crashesOn_currentToken : t.currentToken.CrashesOn IsOverlong := by
  unfold currentToken
  split
  · trivial
  · refine Proc.CrashesOn.bind ?_ fun _ => trivial
    exact Proc.CrashesOn.request fun _ ⟨_, hr, _⟩ => by cases hr

theorem crashesOn_tryOnce : (t.tryOnce token c d).CrashesOn IsOverlong := by
  unfold tryOnce
  split
  · trivial
  next r _ =>
    intro reply
    rcases reply with failure | response
    · have hgood : ¬IsOverlong ⟨.send r, .error failure⟩ := fun ⟨_, hr, _⟩ => by cases hr
      refine ⟨fun hbad => absurd hbad hgood, fun _ => ?_⟩
      cases failure <;> trivial
    · have hbad : IsOverlong ⟨.send r, .ok response⟩ ↔ response.retryAfter = none := by
        simp [IsOverlong, received?, retryAfter_eq_none_iff]
      rw [hbad]
      simp only [Proc.bind]
      cases hafter : response.retryAfter with
      | none => exact ⟨fun _ => rfl, fun hsome => absurd rfl hsome⟩
      | some after => exact ⟨nofun, fun _ => trivial⟩

theorem atMost_tryOnce : (t.tryOnce token c d).AtMost Ask.isSend 1 := by
  unfold tryOnce
  split
  · trivial
  · refine ⟨0, Nat.le_refl 1, fun reply => ?_⟩
    rcases reply with failure | response
    · cases failure <;> trivial
    · simp only [Proc.bind]
      split <;> trivial

/-! ## A call -/

theorem crashesOn_call (ht : t.retry.TellsBackoffs) : (t.call c d).CrashesOn IsOverlong := by
  refine crashesOn_currentToken.bind fun token => ?_
  cases token with
  | error f => trivial
  | ok token => exact RetryPolicy.crashesOn_run ht crashesOn_tryOnce crashesOn_pause

theorem atMost_currentToken : t.currentToken.AtMost Ask.isSend 0 := by
  unfold currentToken
  split
  · trivial
  · exact (Proc.AtMost.request (P := interface) (.readFile _)).bind (n := 0) fun _ => trivial

theorem atMost_call : (t.call c d).AtMost Ask.isSend (t.retry.mostRetries + 1) := by
  rw [← Nat.zero_add (t.retry.mostRetries + 1)]
  refine atMost_currentToken.bind fun token => ?_
  cases token with
  | error f => trivial
  | ok token => exact RetryPolicy.atMost_run atMost_tryOnce atMost_pause

variable {path method : String} {query : List (String × String)} {body : Json.Value}
  {decoder : Json.Decoder α}

theorem crashesOn_get (ht : t.retry.TellsBackoffs) : (t.get path query decoder).CrashesOn IsOverlong :=
  Attempt.CrashesOn.ask (crashesOn_call ht) id

theorem atMost_get :
    (t.get path query decoder).run.AtMost Ask.isSend (t.retry.mostRetries + 1) := atMost_call.map _

theorem crashesOn_submit (ht : t.retry.TellsBackoffs) :
    (t.submit method path query body decoder).CrashesOn IsOverlong :=
  Attempt.CrashesOn.ask (crashesOn_call ht) id

theorem atMost_submit :
    (t.submit method path query body decoder).run.AtMost Ask.isSend (t.retry.mostRetries + 1) :=
  atMost_call.map _

/-! ## The law -/

/-- What a call that is tried again so often comes to, whatever its surroundings do. -/
structure AnswersUnlessOverlong (mostRetries : Nat) (p : Attempt interface SourceFailure α)
    (h : Proc.Handler interface σ) (s : σ) : Prop where
  /-- it makes one request more than it may try again -/
  bounded : (p.run.exchanges h s).countP (fun x => x.request.isSend) ≤ mostRetries + 1
  /-- it ends with an answer or a failure just if no response asks to wait for too long -/
  answers_iff : (∃ r : Except SourceFailure α, (p.run.run h s).1 = .ok r) ↔
    ∀ x ∈ p.run.exchanges h s, ∀ r, received? x = some r → ¬r.AsksForever
  /-- it crashes just if a response does -/
  crashes_iff : (p.run.run h s).1 = .error .delayOverflow ↔
    ∃ x ∈ p.run.exchanges h s, ∃ r, received? x = some r ∧ r.AsksForever

theorem answersUnlessOverlong {mostRetries : Nat} {p : Attempt interface SourceFailure α}
    (hcount : p.run.AtMost Ask.isSend (mostRetries + 1)) (hcrashes : p.CrashesOn IsOverlong)
    (h : Proc.Handler interface σ) (s : σ) : AnswersUnlessOverlong mostRetries p h s := by
  have hends := Proc.CrashesOn.ends hcrashes h s
  refine ⟨hcount.count_le h s, ?_, hends.crash_iff⟩
  simpa [IsOverlong] using hends.ok_iff

/-- **A call ends with an answer or a failure, unless a response asks to wait for too long**, with the
usual delays and any number of retries. -/
theorem answers_unless_overlong (h : Proc.Handler interface σ) (s : σ) (service base : String)
    (token : TokenSource) (apiKey : Option String) (mostRetries : Nat) (method path : String)
    (query : List (String × String)) (body : Json.Value) (decoder : Json.Decoder α) :
    AnswersUnlessOverlong mostRetries
        ((new service base token apiKey (.usual mostRetries)).get path query decoder) h s ∧
      AnswersUnlessOverlong mostRetries
        ((new service base token apiKey (.usual mostRetries)).submit method path query body decoder)
        h s := by
  have ht : (new service base token apiKey (.usual mostRetries)).retry.TellsBackoffs :=
    RetryPolicy.tellsBackoffs_usual mostRetries
  constructor
  · exact answersUnlessOverlong atMost_get (crashesOn_get ht) h s
  · exact answersUnlessOverlong atMost_submit (crashesOn_submit ht) h s

/-! ## A server that asks to wait for too long -/

/-- A server that answers everything with one response. -/
def answering (r : Response) : Proc.Handler interface Unit
  | .send _, s => (.ok r, s)
  | .readFile path, s => (.error path, s)
  | .pause _, s => ((), s)
  | .stamp, s => ((.ofNat 0, .closingMark), s)

/-- A success whose body is an empty object, with a delay of far more than `2 ^ 64` seconds. -/
def overlong : Response := ⟨200, [("retry-after", Text.octets "1e25")], Text.octets "{}"⟩

theorem crashes_overlong :
    ((new "desk" "http://[::1]" (.fixed "key") none (.usual 3)).get "cases" []
      fun _ => some ()).run.run (answering overlong) () = (.error .delayOverflow, ()) := by
  decide +kernel

end Transport

end CaseHerald.Net
