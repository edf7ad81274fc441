import CaseHerald.Proofs.Crashes
import CaseHerald.Proofs.Listing
import CaseHerald.Proofs.Normalization
import CaseHerald.Proofs.Written

/-!
# Fetches that come whole or not at all

A fetch lists the open cases and, for each of them, its comments; every listing may fail at any page and
every case may make no sense. `Client.Normalizes` says how the records of the cases come about, one case
after the other, from all pages of the comments on each. A fetch has records just if everything that they
are made of comes, and a fetch that fails leaves the client as it was (`Client.searched_whole`). The names
that a client tells are those of the cases that it has returned, the last one for each number
(`Client.Reached.find?_names`).
-/
namespace CaseHerald

open Text (octets)

namespace Support

namespace CasePayload

/-- The number in the name of a case. -/
def number? (p : CasePayload) : Option String := (CaseName.split? p.name).map Prod.snd

variable {p : CasePayload} {comments : List CommentPayload} {r : CaseRecord}

theorem split?_of_normalize (h : p.normalize comments = .ok r) :
    CaseName.split? p.name = some (r.parent, r.number) := by
  have hrecord := normalize_eq_ok_iff.1 h
  exact CaseName.split?_eq_some_iff.2
    ⟨hrecord.name, hrecord.parent_ne, hrecord.number_ne, hrecord.no_slash⟩

theorem number?_of_normalize (h : p.normalize comments = .ok r) : p.number? = some r.number := by
  rw [number?, split?_of_normalize h]
  rfl

theorem resourceName_of_normalize (h : p.normalize comments = .ok r) : r.resourceName = p.name :=
  (normalize_eq_ok_iff.1 h).resourceName_eq

end CasePayload

variable {P : Interface} {ε α σ : Type}

/-! ## Listings -/

theorem crashesOn_itemsFrom {bad : Proc.Exchange P → Prop} {fetch : Option String → Attempt P ε (Page α)}
    (hfetch : ∀ token, (fetch token).CrashesOn bad) (left : Nat) (seen : List String)
    (token : Option String) : (itemsFrom fetch left seen token).CrashesOn bad := by
  induction left generalizing seen token with
  | zero => trivial
  | succ left ih =>
    rw [itemsFrom]
    refine (hfetch token).bind fun page => ?_
    split
    · trivial
    · exact (ih _ _).bind fun rest => .pure _

/-- Everything that a listing has: the items of all its pages, with the state after them. -/
structure ListedWhole (h : Proc.Handler P σ) (fetch : Option String → Attempt P ε (Page α))
    (listing : Attempt P ε (List α)) (s : σ) (items : List α) (t : σ) : Prop where
  run : listing.run.run h s = (.ok (.ok items), t)
  pages : ∃ calls, ListedExactly h fetch listing s calls ∧
    (∀ c ∈ calls, ∃ page, c.outcome = .ok (.ok page)) ∧ items = calls.flatMap PageCall.items

/-- A listing that has a result has everything. -/
theorem listedWhole_iff {h : Proc.Handler P σ} {fetch : Option String → Attempt P ε (Page α)} {s t : σ}
    {items : List α} : ListedWhole h fetch (allItems fetch) s items t ↔
      (allItems fetch).run.run h s = (.ok (.ok items), t) := by
  refine ⟨ListedWhole.run, fun hrun => ⟨hrun, ?_⟩⟩
  obtain ⟨calls, hcalls⟩ := exists_listedExactly h fetch s
  have hpages : ∀ c ∈ calls, ∃ page, c.outcome = .ok (.ok page) := by
    intro c hc
    rcases houtcome : c.outcome with crash | e | page
    · have hcrash := hcalls.crash c hc crash houtcome
      rw [hrun] at hcrash
      cases hcrash
    · have herror := hcalls.error c hc e houtcome
      rw [hrun] at herror
      cases herror
    · exact ⟨page, rfl⟩
  have hitems := hcalls.pages hpages
  rw [hrun] at hitems
  cases hitems
  exact ⟨calls, hcalls, hpages, rfl⟩

namespace Client

variable {c d : Client} {h : Proc.Handler Net.interface σ} {s t u : σ} {orgId : String}
  {cases told : List CasePayload} {records : List CaseRecord}

/-! ## On what a fetch crashes -/

theorem crashesOn_openCases (ht : c.transport.retry.TellsBackoffs) (orgId : String) :
    (c.openCases orgId).CrashesOn Net.IsOverlong :=
  crashesOn_itemsFrom (fun _ => Net.Transport.crashesOn_get ht) _ _ _

theorem crashesOn_comments (ht : c.transport.retry.TellsBackoffs) (name : String) :
    (c.comments name).CrashesOn Net.IsOverlong :=
  crashesOn_itemsFrom (fun _ => Net.Transport.crashesOn_get ht) _ _ _

theorem crashesOn_openRecords (ht : c.transport.retry.TellsBackoffs) (orgId : String) :
    (c.openRecords orgId).CrashesOn Net.IsOverlong := by
  refine (crashesOn_openCases ht orgId).bind fun cases => .mapM (fun p => ?_) cases
  exact (crashesOn_comments ht p.name).bind fun comments => .ofExcept id _

theorem crashesOn_searchOpen (ht : c.transport.retry.TellsBackoffs) (orgId : String) :
    (c.searchOpen orgId).CrashesOn Net.IsOverlong := by
  refine Proc.CrashesOn.bind (crashesOn_openRecords ht orgId) fun r => ?_
  cases r <;> trivial

/-! ## The records of a fetch -/

/-- The records of cases, made one after the other from a case and all comments on it. -/
inductive Normalizes (h : Proc.Handler Net.interface σ) (c : Client) :
    List CasePayload → σ → List CaseRecord → σ → Prop
  | nil {s : σ} : Normalizes h c [] s [] s
  | cons {p : CasePayload} {cases : List CasePayload} {comments : List CommentPayload}
      {r : CaseRecord} {records : List CaseRecord} {s t u : σ}
      (listed : ListedWhole h (c.commentPage p.name) (c.comments p.name) s comments t)
      (normal : p.normalize comments = .ok r) (rest : Normalizes h c cases t records u) :
      Normalizes h c (p :: cases) s (r :: records) u

theorem run_recordOf_iff {p : CasePayload} {r : CaseRecord} :
    (c.recordOf p).run.run h s = (.ok (.ok r), t) ↔
      ∃ comments, ListedWhole h (c.commentPage p.name) (c.comments p.name) s comments t ∧
        p.normalize comments = .ok r := by
  rw [recordOf, Attempt.run_bind_eq_ok_iff]
  constructor
  · rintro ⟨comments, v, hcomments, hrecord⟩
    cases hnormal : p.normalize comments with
    | error f =>
      rw [hnormal] at hrecord
      cases hrecord
    | ok found =>
      rw [hnormal] at hrecord
      cases hrecord
      exact ⟨comments, listedWhole_iff.2 hcomments, hnormal⟩
  · rintro ⟨comments, hcomments, hnormal⟩
    refine ⟨comments, t, hcomments.run, ?_⟩
    rw [hnormal]
    rfl

/-- There are records of all cases just if each comes about in its turn. -/
theorem run_mapM_recordOf_iff : (cases.mapM c.recordOf).run.run h s = (.ok (.ok records), t) ↔
    Normalizes h c cases s records t := by
  induction cases generalizing s t records with
  | nil =>
    rw [List.mapM_nil]
    constructor
    · intro hrun
      cases hrun
      exact .nil
    · intro hnormal
      cases hnormal
      rfl
  | cons p cases ih =>
    rw [List.mapM_cons, Attempt.run_bind_eq_ok_iff]
    simp only [Attempt.run_bind_eq_ok_iff, run_recordOf_iff, ih]
    constructor
    · rintro ⟨r, v, ⟨comments, hcomments, hnormal⟩, rest, w, hrest, hrun⟩
      cases hrun
      exact .cons hcomments hnormal hrest
    · rintro (_ | ⟨hcomments, hnormal, hrest⟩)
      exact ⟨_, _, ⟨_, hcomments, hnormal⟩, _, _, hrest, rfl⟩

/-- There are records of a fetch just if the cases come whole and each of them with its comments. -/
theorem run_openRecords_iff : (c.openRecords orgId).run.run h s = (.ok (.ok records), t) ↔
    ∃ cases u, ListedWhole h (c.casePage orgId) (c.openCases orgId) s cases u ∧
      Normalizes h c cases u records t := by
  rw [openRecords, Attempt.run_bind_eq_ok_iff]
  simp only [run_mapM_recordOf_iff]
  constructor
  · rintro ⟨cases, u, hcases, hrecords⟩
    exact ⟨cases, u, listedWhole_iff.2 hcases, hrecords⟩
  · rintro ⟨cases, u, hcases, hrecords⟩
    exact ⟨cases, u, hcases.run, hrecords⟩

/-- What a search makes of a fetch. -/
theorem run_searchOpen_iff {result : Except SourceFailure (List CaseRecord)} :
    (c.searchOpen orgId).run h s = (.ok (result, d), t) ↔
      (c.openRecords orgId).run.run h s = (.ok result, t) ∧
        d = match result with
          | .ok records => records.foldl remember c
          | .error _ => c := by
  change ((c.openRecords orgId).run >>= _).run h s = _ ↔ _
  rw [Proc.run_bind]
  rcases (c.openRecords orgId).run.run h s with ⟨crash | found, v⟩
  · simp
  · constructor
    · intro hrun
      cases found with
      | error f =>
        cases hrun
        exact ⟨rfl, rfl⟩
      | ok records =>
        cases hrun
        exact ⟨rfl, rfl⟩
    · rintro ⟨hrun, rfl⟩
      cases hrun
      cases result <;> rfl

/-! ## The names of the cases -/

/-- The full name of the last case with the number. -/
def lastName? (number : String) : List CasePayload → Option String
  | [] => none
  | p :: cases =>
    (lastName? number cases).or (if p.number? = some number then some p.name else none)

theorem lastName?_append (number : String) (front back : List CasePayload) :
    lastName? number (front ++ back) = (lastName? number back).or (lastName? number front) := by
  induction front with
  | nil => simp [lastName?]
  | cons p front ih => rw [List.cons_append, lastName?, ih, lastName?, Option.or_assoc]

theorem lastName?_eq_none {number : String} (h : ∀ p ∈ cases, p.number? ≠ some number) :
    lastName? number cases = none := by
  induction cases with
  | nil => rfl
  | cons p cases ih =>
    obtain ⟨hp, hcases⟩ := List.forall_mem_cons.1 h
    rw [lastName?, ih hcases, if_neg hp, Option.or_none]

/-- The case after which there is none with its number is the last one. -/
theorem lastName?_last {number : String} {p : CasePayload} (front : List CasePayload)
    {back : List CasePayload} (hp : p.number? = some number)
    (hback : ∀ q ∈ back, q.number? ≠ some number) :
    lastName? number (front ++ p :: back) = some p.name := by
  rw [lastName?_append, lastName?, lastName?_eq_none hback, if_pos hp, Option.none_or, Option.some_or]

theorem orgId_foldl_remember (c : Client) (records : List CaseRecord) :
    (records.foldl remember c).orgId = c.orgId := by
  induction records generalizing c with
  | nil => rfl
  | cons r records ih => exact ih (c.remember r)

/-- A client remembers the last name for each number. -/
theorem Normalizes.find?_names (hn : Normalizes h c cases s records t) (d : Client) (number : String) :
    (records.foldl remember d).names.find? (octets number) =
      (lastName? number cases).or (d.names.find? (octets number)) := by
  induction hn generalizing d with
  | nil => rfl
  | @cons p cases comments r records s t u _ normal _ ih =>
    have hkey : octets r.number = octets number ↔ p.number? = some number := by
      rw [octets_inj, CasePayload.number?_of_normalize normal, Option.some.injEq]
    rw [List.foldl_cons, ih, remember, Table.find?_insert, lastName?, Option.or_assoc]
    by_cases hsame : octets r.number = octets number
    · rw [if_pos hsame, if_pos (hkey.1 hsame), CasePayload.resourceName_of_normalize normal,
        Option.some_or]
    · rw [if_neg hsame, if_neg fun hp => hsame (hkey.2 hp), Option.none_or]

/-- A client that has done searches for open cases, with the cases that these have returned. -/
inductive Reached : List CasePayload → Client → Prop
  | new (transport : Net.Transport) (orgId : String) (announces : Bool) :
      Reached [] (new transport orgId announces)
  | failed {told : List CasePayload} {c d : Client} {orgId : String} {σ : Type}
      {h : Proc.Handler Net.interface σ} {s t : σ} {f : SourceFailure} (before : Reached told c)
      (run : (c.searchOpen orgId).run h s = (.ok (.error f, d), t)) : Reached told d
  | returned {told cases : List CasePayload} {c d : Client} {orgId : String} {σ : Type}
      {h : Proc.Handler Net.interface σ} {s t u : σ} {records : List CaseRecord}
      (before : Reached told c) (run : (c.searchOpen orgId).run h s = (.ok (.ok records, d), t))
      (listed : ListedWhole h (c.casePage orgId) (c.openCases orgId) s cases u) :
      Reached (told ++ cases) d

/-- **The names that a client has are the last ones that it has returned.** -/
theorem Reached.find?_names (hc : Reached told c) (number : String) :
    c.names.find? (octets number) = lastName? number told := by
  induction hc with
  | new => rfl
  | failed before run ih =>
    obtain ⟨-, rfl⟩ := run_searchOpen_iff.1 run
    exact ih
  | @returned told cases c d orgId σ h s t u records before run listed ih =>
    obtain ⟨hrecords, rfl⟩ := run_searchOpen_iff.1 run
    obtain ⟨cases', v, hcases, hnormal⟩ := run_openRecords_iff.1 hrecords
    obtain rfl : cases' = cases := by
      have hsame := hcases.run.symm.trans listed.run
      cases hsame
      rfl
    rw [hnormal.find?_names c, ih, lastName?_append]

/-! ## The law -/

/-- What names a client tells after it has returned cases, when it has returned others before. -/
structure Remembers (told : List CasePayload) (c : Client) (cases : List CasePayload) (d : Client) :
    Prop where
  /-- a returned case has its name, or that of the last one with its number -/
  last : ∀ front p back number, cases = front ++ p :: back → p.number? = some number →
    (∀ q ∈ back, q.number? ≠ some number) → d.caseName number = p.name
  /-- other names are as before -/
  others : ∀ number, (∀ p ∈ cases, p.number? ≠ some number) → d.caseName number = c.caseName number
  /-- a case that has never been returned is looked for in the organisation -/
  never : ∀ number, (∀ p ∈ told ++ cases, p.number? ≠ some number) →
    d.caseName number = "organizations/" ++ c.orgId ++ "/cases/" ++ number

theorem Reached.remembers (hc : Reached told c) (hn : Normalizes h c cases s records t) :
    Remembers told c cases (records.foldl remember c) := by
  have hname (number : String) : (records.foldl remember c).caseName number =
      ((lastName? number cases).or (c.names.find? (octets number))).getD
        ("organizations/" ++ c.orgId ++ "/cases/" ++ number) := by
    rw [caseName, hn.find?_names, orgId_foldl_remember]
  constructor
  · rintro front p back number rfl hp hback
    rw [hname, lastName?_last front hp hback]
    rfl
  · intro number hcases
    rw [hname, lastName?_eq_none hcases, Option.none_or]
    rfl
  · intro number hall
    rw [hname, hc.find?_names, ← lastName?_append, lastName?_eq_none hall]
    rfl

/-- What a search for open cases comes to, by a client that has returned the cases `told` before. -/
structure SearchedWhole (told : List CasePayload) (c : Client) (orgId : String)
    (h : Proc.Handler Net.interface σ) (s : σ) : Prop where
  /-- it ends with records or a failure just if no response asks to wait for too long -/
  answers_iff : (∃ answer, ((c.searchOpen orgId).run h s).1 = .ok answer) ↔
    ∀ x ∈ (c.searchOpen orgId).exchanges h s, ∀ r, Net.received? x = some r → ¬r.AsksForever
  /-- it crashes just if one does -/
  crashes_iff : ((c.searchOpen orgId).run h s).1 = .error .delayOverflow ↔
    ∃ x ∈ (c.searchOpen orgId).exchanges h s, ∃ r, Net.received? x = some r ∧ r.AsksForever
  /-- a failure leaves the client as it was -/
  failed : ∀ f d t, (c.searchOpen orgId).run h s = (.ok (.error f, d), t) → d = c
  /-- records are those of all cases that are listed, and the client remembers their names -/
  returned : ∀ records d t, (c.searchOpen orgId).run h s = (.ok (.ok records, d), t) →
    ∃ cases u, ListedWhole h (c.casePage orgId) (c.openCases orgId) s cases u ∧
      Normalizes h c cases u records t ∧ Remembers told c cases d
  /-- they are returned if they can be -/
  returns : ∀ cases u records t, ListedWhole h (c.casePage orgId) (c.openCases orgId) s cases u →
    Normalizes h c cases u records t → ∃ d, (c.searchOpen orgId).run h s = (.ok (.ok records, d), t)

/-- **Open cases are fetched whole or not at all**, from any server. -/
theorem searched_whole (hc : Reached told c) (ht : c.transport.retry.TellsBackoffs) (orgId : String)
    (h : Proc.Handler Net.interface σ) (s : σ) : SearchedWhole told c orgId h s := by
  have hends := (crashesOn_searchOpen ht orgId).ends h s
  refine ⟨by simpa [Net.IsOverlong] using hends.ok_iff, hends.crash_iff, ?_, ?_, ?_⟩
  · intro f d t hrun
    exact (run_searchOpen_iff.1 hrun).2
  · intro records d t hrun
    obtain ⟨hrecords, rfl⟩ := run_searchOpen_iff.1 hrun
    obtain ⟨cases, u, hcases, hnormal⟩ := run_openRecords_iff.1 hrecords
    exact ⟨cases, u, hcases, hnormal, hc.remembers hnormal⟩
  · intro cases u records t hcases hnormal
    have hrecords := run_openRecords_iff.2 ⟨cases, u, hcases, hnormal⟩
    exact ⟨_, run_searchOpen_iff.2 ⟨hrecords, rfl⟩⟩

/-! ## Two servers -/

/-- A client of the organisation 1 that has not searched for anything. -/
def fresh : Client := new (.new "desk" "http://[::1]" (.fixed "key") none (.usual 0)) "1" false

/-- A server that replies with one document after the other. -/
def replying : Proc.Handler Net.interface (List Json.Value)
  | .send _, [] => (.error (.lost "no document"), [])
  | .send _, v :: rest => (.ok ⟨200, [], v.write.flatMap String.utf8EncodeChar⟩, rest)
  | .readFile path, s => (.error path, s)
  | .pause _, s => ((), s)
  | .stamp, s => ((.ofNat 0, .closingMark), s)

/-- The case with the number 7 in a project. -/
def seventh (project : String) : CasePayload :=
  ⟨"projects/" ++ project ++ "/cases/7", "", "NEW", some "P1", none, false,
    some "2024-01-01T00:00:00Z", []⟩

/-- Two pages with cases of one number, and then the comments on each. -/
def namesakes : List Json.Value :=
  [.object [("cases", .list [(seventh "a").toJson]), ("nextPageToken", .text "more")],
    .object [("cases", .list [(seventh "b").toJson])],
    .object [],
    .object [("comments", .list [CommentPayload.toJson ⟨"", some "2024-01-01T00:00:00Z", none, "hello"⟩])]]

theorem searched_whole_namesakes :
    Reached [] fresh ∧ fresh.transport.retry.TellsBackoffs ∧
      SearchedWhole [] fresh "1" replying namesakes ∧
      ((fresh.searchOpen "1").run replying namesakes).1.map
        (fun answer => (answer.1.map fun records => records.map CaseRecord.resourceName,
          answer.2.caseName "7", answer.2.caseName "8")) =
        .ok (.ok ["projects/a/cases/7", "projects/b/cases/7"], "projects/b/cases/7",
          "organizations/1/cases/8") := by
  have hreached : Reached [] fresh := .new _ _ _
  have htells : fresh.transport.retry.TellsBackoffs := Net.RetryPolicy.tellsBackoffs_usual 0
  exact ⟨hreached, htells, searched_whole hreached htells "1" replying namesakes, by decide +kernel⟩

/-- A fetch neither fails nor returns if a page asks to wait for too long. -/
theorem search_crashes_overlong :
    ((fresh.searchOpen "1").run (Net.Transport.answering Net.Transport.overlong) ()).1 =
      .error .delayOverflow := by
  have hcrash : (fresh.openRecords "1").run.run (Net.Transport.answering Net.Transport.overlong) () =
      (.error .delayOverflow, ()) := by decide +kernel
  exact congrArg Prod.fst (Proc.Met.bind_crash ⟨hcrash, rfl⟩).run

end Client

end Support

end CaseHerald
