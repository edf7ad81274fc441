import CaseHerald.Case.Field
import CaseHerald.Guid
import CaseHerald.Instant.Basic

/-!
# Records of cases

A record is what is known of one support case at one time: its number, where it belongs, its state,
priority and escalation, when it was last updated, and its comments, the newest first. The times in it
are instants, unless it is said that they are others.
-/
namespace CaseHerald

/-- Who wrote a comment. -/
structure Author where
  displayName : String
  email : Option String
  /-- whether the author belongs to the support staff -/
  isSupport : Bool
  deriving DecidableEq

/-- A comment on a case. -/
structure Comment (τ : Type := Instant) where
  author : Author
  body : String
  created : τ
  deriving DecidableEq

/-- The comments from the newest to the oldest; those of one time keep their order. -/
def newestFirst (comments : List Comment) : List Comment :=
  comments.mergeSort fun a b => decide (b.created ≤ a.created)

/-- What is known of a case. -/
structure CaseRecord (τ : Type := Instant) where
  number : String
  parent : String
  displayName : String
  state : CaseState
  priority : Priority
  escalated : Bool
  updated : τ
  comments : List (Comment τ)
  deriving DecidableEq

namespace CaseRecord

/-- Whether the case is open. -/
def isActive (r : CaseRecord) : Bool := r.state.isActive

/-- The newest comment. -/
def newest? (r : CaseRecord) : Option Comment := r.comments.head?

/-- The record of a case that has been announced as closed. -/
def mark (r : CaseRecord) : CaseRecord := { r with updated := .closingMark }

/-- Whether the case has been announced as closed. -/
def isMarked (r : CaseRecord) : Bool := r.updated = .closingMark

end CaseRecord

/-- The last record of a case that was stored, with the token of its write. -/
structure Snapshot (τ : Type := Instant) where
  record : CaseRecord τ
  guid : Guid
  deriving DecidableEq

namespace Snapshot

/-- The number of the case. -/
def number (s : Snapshot) : String := s.record.number

/-- Whether the case has been announced as closed. -/
def isMarked (s : Snapshot) : Bool := s.record.isMarked

end Snapshot

/-- The write that was the first to store a case at a time of update. Later writes of the same case
and time do not replace it. -/
structure Marker (τ : Type := Instant) where
  guid : Guid
  record : CaseRecord τ
  deriving DecidableEq

end CaseHerald
