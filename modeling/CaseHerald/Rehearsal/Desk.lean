import CaseHerald.Rehearsal.Tree
import CaseHerald.Watch.AutoSubscribe

/-!
# A support desk for rehearsals

The desk keeps the subscribers of each case and the comments made. It adds an address unless it has
it, where the case of ASCII letters makes no difference, and answers the addresses added.
-/
namespace CaseHerald.Rehearsal

/-- The subscribers of cases, the comments made, and what is refused. -/
structure Desk where
  subscribers : List (String × List String)
  comments : List CommentRequest
  /-- the channels through which nobody can be subscribed -/
  failingChannels : List String
  /-- whether comments are refused -/
  failsComments : Bool

namespace Desk

/-- A desk that has nothing and refuses nothing. -/
def empty : Desk := ⟨[], [], [], false⟩

/-- The subscribers of the case. -/
def subscribersOf (d : Desk) (number : String) : List String :=
  (valueOf? number d.subscribers).getD []

/-- The desk with other subscribers of the case. -/
def withSubscribers (d : Desk) (number : String) (emails : List String) : Desk :=
  { d with subscribers := (number, emails) :: d.subscribers.filter fun e => e.1 != number }

/-- The refusal of a channel. -/
def refusal (channel : String) : Failure :=
  .source (.rejected "fake" 403 ("channel " ++ channel ++ " not permitted"))

/-- Adds the addresses to the subscribers of the case; answers those that are new. -/
def subscribe (d : Desk) (channel number : String) (emails : List String) :
    Except Failure (List String) × Desk :=
  if d.failingChannels.contains channel then (.error (refusal channel), d)
  else
    let before := d.subscribersOf number
    let after := emails.foldl Watch.addAddress before
    (.ok (after.drop before.length), d.withSubscribers number after)

/-- Makes a comment. -/
def comment (d : Desk) (c : CommentRequest) : Except Failure Unit × Desk :=
  if d.failsComments then (.error (.source (.rejected "fake" 403 "comments not permitted")), d)
  else (.ok (), { d with comments := d.comments ++ [c] })

end Desk

end CaseHerald.Rehearsal
