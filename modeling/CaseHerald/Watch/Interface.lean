import CaseHerald.Event
import CaseHerald.Failure
import CaseHerald.Proc
import CaseHerald.Span
import CaseHerald.Store.Query

/-!
# What a watcher asks for

A watcher talks to the case service, the store, the resource tree, the subscribers of a case, those it
announces to, and a clock. Each talk is one request, so that everything a watcher does can be read as
a sequence of them, and interleaved with those of other watchers.
-/
namespace CaseHerald

/-- A comment to be made on a case. -/
structure CommentRequest where
  channel : String
  caseNumber : String
  body : String
  user : String
  /-- who signs the comment -/
  author : String
  /-- whether the comment is announced in the channel as well -/
  announced : Bool
  deriving DecidableEq, Repr

/-- The body of the comment with its signature. -/
def CommentRequest.signedBody (c : CommentRequest) : String :=
  if c.author.isEmpty then c.body else c.body ++ "\n\n- " ++ c.author

/-- A request to the resource tree. -/
inductive Lookup
  /-- the path of a case's parent -/
  | parent (caseNumber : String)
  | project (id : String)
  | folder (id : String)
  deriving DecidableEq, Repr

/-- The name of what is looked up. -/
def Lookup.resource : Lookup → String
  | .parent number => "cases/" ++ number
  | .project id => "projects/" ++ id
  | .folder id => "folders/" ++ id

/-- What the resource tree answers with. -/
def Lookup.Answer : Lookup → Type
  | .parent _ => String
  | .project _ => Project
  | .folder _ => Folder

namespace Watch

/-- A request of a watcher. -/
inductive Request
  /-- fetches the records of all open cases -/
  | fetch
  /-- does a step on the store -/
  | store (q : Store.Query)
  /-- sends an announcement -/
  | announce (e : Event)
  /-- looks into the resource tree -/
  | find (l : Lookup)
  /-- adds subscribers to a case; answers those that are new -/
  | subscribe (channel caseNumber : String) (emails : List String) (user : String)
  /-- makes a comment -/
  | comment (c : CommentRequest)
  /-- lets a span of time pass -/
  | sleep (span : Span)
  /-- lets a span of time pass; answers whether an end was called for in it, which ends it early -/
  | pause (span : Span)
  /-- answers whether an end has been called for -/
  | isStopping

/-- The reply to a request of a watcher. -/
def Request.Reply : Request → Type
  | .fetch => Except SourceFailure (List CaseRecord)
  | .store q => Except StoreFailure q.Answer
  | .announce _ => Except NotifyFailure Unit
  | .find l => Except HierarchyFailure l.Answer
  | .subscribe .. => Except Failure (List String)
  | .comment _ => Except Failure Unit
  | .sleep _ => Unit
  | .pause _ => Bool
  | .isStopping => Bool

/-- The interface of a watcher. -/
abbrev interface : Interface := ⟨Request, Request.Reply⟩

/-- A watcher's program that may fail. -/
abbrev Step (α : Type) := Attempt interface Failure α

/-- The records of all open cases. -/
def fetch : Step (List CaseRecord) := Attempt.ask .source (Proc.request (P := interface) .fetch)

/-- A step on the store. -/
def store (q : Store.Query) : Step q.Answer :=
  Attempt.ask .store (Proc.request (P := interface) (.store q))

/-- Sends an announcement. Whether it arrives makes no difference. -/
def announce (e : Event) : Step Unit :=
  ExceptT.lift (Functor.map (fun _ => ()) (Proc.request (P := interface) (.announce e)))

/-- What the resource tree tells. -/
def find (l : Lookup) : Attempt interface HierarchyFailure l.Answer :=
  Attempt.ask id (Proc.request (P := interface) (.find l))

/-- Adds subscribers to a case. -/
def subscribe (channel caseNumber : String) (emails : List String) (user : String) :
    Step (List String) :=
  Attempt.ask id (Proc.request (P := interface) (.subscribe channel caseNumber emails user))

/-- Lets a span of time pass. -/
def sleep (span : Span) : Proc interface Unit := Proc.request (P := interface) (.sleep span)

/-- Lets a span of time pass; answers whether an end was called for in it, which ends it early. -/
def pause (span : Span) : Proc interface Bool := Proc.request (P := interface) (.pause span)

/-- Whether an end has been called for. -/
def isStopping : Proc interface Bool := Proc.request (P := interface) .isStopping

/-- Makes a comment. -/
def comment (c : CommentRequest) : Step Unit :=
  Attempt.ask id (Proc.request (P := interface) (.comment c))

end Watch

end CaseHerald
