import CaseHerald.Failure
import CaseHerald.Json.Record
import CaseHerald.Store.Volume

/-!
# Failures as documents

A failure is named by its family and its cause, and told by a document with that name and the fields
of the cause. A text that is missing is empty, and a number that is missing is zero.
-/
namespace CaseHerald

open Json (Raw Record Decoder)

/-- The name of the cause. -/
def StoreFailure.kind : StoreFailure → String
  | .backend _ => "Backend"
  | .serialization .. => "Serialization"
  | .transaction _ => "TransactionFailed"
  | .poisoned => "LockPoisoned"

/-- The name of the cause. -/
def SourceFailure.kind : SourceFailure → String
  | .transient .. => "Transient"
  | .malformed .. => "Malformed"
  | .rejected .. => "Rejected"

/-- The name of the cause. -/
def HierarchyFailure.kind : HierarchyFailure → String
  | .noProject .. => "NoProject"
  | .lookup .. => "Lookup"
  | .tooDeep .. => "TooDeep"

/-- The name of the cause. -/
def NotifyFailure.kind : NotifyFailure → String
  | .delivery .. => "Delivery"
  | .notConfigured .. => "NotConfigured"

/-- The name of the cause. -/
def ConfigFailure.kind : ConfigFailure → String
  | .missing _ => "MissingRequired"
  | .invalid .. => "InvalidValue"
  | .unreadable .. => "Io"
  | .unparsable _ => "Parse"

/-- The name of the family and the cause. -/
def Failure.kind : Failure → String
  | .store f => "Storage." ++ f.kind
  | .source f => "Source." ++ f.kind
  | .hierarchy f => "Hierarchy." ++ f.kind
  | .notify f => "Notify." ++ f.kind
  | .config f => "Config." ++ f.kind

/-- The fields of a document that tells a failure. -/
structure Told where
  record : Record

namespace Told

/-- The names of all fields. -/
def names : List String :=
  ["kind", "reason", "key", "service", "attempts", "case_number", "status", "message", "parent",
   "resource", "max_depth", "sink", "field", "value", "path", "name", "size"]

/-- The fields of a document. -/
def read? (raw : Raw) : Option Told := (Record.read? names false raw).map (⟨·⟩)

/-- A text that may be missing. -/
def text? (t : Told) (name : String) : Option (Option String) :=
  t.record.orElse name (.optional .text) none

/-- A text, which is empty if it is missing. -/
def text (t : Told) (name : String) : Option String := (t.text? name).map (·.getD "")

/-- A number, which is zero if it is missing. -/
def number (t : Told) (name : String) : Option Nat :=
  match t.record.field? name with
  | none | some .null => some 0
  | some (.number n) => n.toNat?
  | _ => none

end Told

/-- The failure that a document tells. -/
def Failure.ofJson? : Decoder Failure := fun raw => do
  let t ← Told.read? raw
  match ← t.text "kind" with
  | "Storage.Backend" => return .store (.backend (← t.text "reason"))
  | "Storage.Serialization" => return .store (.serialization (← t.text "key") (← t.text "reason"))
  | "Storage.TransactionFailed" => return .store (.transaction (← t.text "reason"))
  | "Storage.LockPoisoned" => return .store .poisoned
  | "Source.Transient" =>
    return .source (.transient (← t.text "service") (← t.number "attempts") (← t.text "reason"))
  | "Source.Malformed" =>
    return .source (.malformed (← t.text? "case_number") (← t.text "reason"))
  | "Source.Rejected" =>
    return .source (.rejected (← t.text "service") (← t.number "status") (← t.text "message"))
  | "Hierarchy.NoProject" =>
    return .hierarchy (.noProject (← t.text "case_number") (← t.text "parent"))
  | "Hierarchy.Lookup" => return .hierarchy (.lookup (← t.text "resource") (← t.text "reason"))
  | "Hierarchy.TooDeep" =>
    return .hierarchy (.tooDeep (← t.text "resource") (← t.number "max_depth"))
  | "Notify.Delivery" => return .notify (.delivery (← t.text "sink") (← t.text "reason"))
  | "Notify.NotConfigured" => return .notify (.notConfigured (← t.text "sink") (← t.text "reason"))
  | "Config.MissingRequired" => return .config (.missing (← t.text "field"))
  | "Config.InvalidValue" =>
    return .config (.invalid (← t.text "field") (← t.text "value") (← t.text "reason"))
  | "Config.Io" => return .config (.unreadable (← t.text "path") (← t.text "reason"))
  | "Config.Parse" => return .config (.unparsable (← t.text "reason"))
  | _ => none

/-- The failure of a volume that a document tells. -/
def VolumeFailure.ofJson? : Decoder VolumeFailure := fun raw => do
  let t ← Told.read? raw
  match ← t.text "kind" with
  | "EnvOpen" => return .environment (← t.text "reason")
  | "DbOpen" => return .database (← t.text "name") (← t.text "reason")
  | "Transaction" => return .transaction (← t.text "reason")
  | "MapSize" => return .mapSize (← t.number "size")
  | "Serialization" => return .serialization (← t.text "key") (← t.text "reason")
  | "Io" => return .io (← t.text "reason")
  | _ => none

end CaseHerald
