import CaseHerald.Text.Quoted

/-!
# Failures

What can go wrong, as causes, and the wording of each. A `Failure` is any of them, with its family
named in front. The two questions that the schedule asks of a failure are whether it may pass by
itself (`isTransient`) and whether it is a record that makes no sense (`isMalformed`).
-/
namespace CaseHerald

/-- A failure of the store. -/
inductive StoreFailure
  | backend (reason : String)
  | serialization (key reason : String)
  | transaction (reason : String)
  | poisoned
  deriving DecidableEq, Repr

/-- The failure in words. -/
def StoreFailure.message : StoreFailure → String
  | .backend reason => "Store backend failure: " ++ reason
  | .serialization key reason => "Serialization failed for " ++ key ++ ": " ++ reason
  | .transaction reason => "Transaction failed: " ++ reason
  | .poisoned => "Storage lock poisoned"

/-- A failure of the case service. -/
inductive SourceFailure
  /-- a fault of the network or the server that outlived the retries -/
  | transient (service : String) (attempts : Nat) (reason : String)
  /-- a record that does not fit the model of a case -/
  | malformed (caseNumber : Option String) (reason : String)
  /-- a request that the service refuses -/
  | rejected (service : String) (status : Nat) (message : String)
  deriving DecidableEq, Repr

/-- The failure in words. -/
def SourceFailure.message : SourceFailure → String
  | .transient service attempts reason =>
    "Transient failure calling " ++ service ++ " after " ++ toString attempts ++ " attempts: " ++ reason
  | .malformed caseNumber reason =>
    "Malformed record" ++ (match caseNumber with
      | some c => " " ++ c
      | none => "") ++ ": " ++ reason
  | .rejected service status message =>
    "Request to " ++ service ++ " rejected with status " ++ toString status ++ ": " ++ message

/-- A failure to place a case in the resource tree. -/
inductive HierarchyFailure
  | noProject (caseNumber parent : String)
  | lookup (resource reason : String)
  | tooDeep (resource : String) (levels : Nat)
  deriving DecidableEq, Repr

/-- The failure in words. -/
def HierarchyFailure.message : HierarchyFailure → String
  | .noProject caseNumber parent =>
    "No project in parent " ++ Text.quoted parent ++ " of case " ++ caseNumber
  | .lookup resource reason => "Lookup of " ++ resource ++ " failed: " ++ reason
  | .tooDeep resource levels => "Ancestry of " ++ resource ++ " exceeds " ++ toString levels ++ " levels"

/-- A failure to deliver an announcement. -/
inductive NotifyFailure
  | delivery (sink reason : String)
  | notConfigured (sink reason : String)
  deriving DecidableEq, Repr

/-- The failure in words. -/
def NotifyFailure.message : NotifyFailure → String
  | .delivery sink reason => "Delivery via " ++ sink ++ " failed: " ++ reason
  | .notConfigured sink reason => "Sink " ++ sink ++ " not configured: " ++ reason

/-- A failure of the configuration. -/
inductive ConfigFailure
  | missing (field : String)
  | invalid (field value reason : String)
  | unreadable (path reason : String)
  | unparsable (reason : String)
  deriving DecidableEq, Repr

/-- The failure in words. -/
def ConfigFailure.message : ConfigFailure → String
  | .missing field => "Missing required configuration field: " ++ field
  | .invalid field value reason => "Invalid value for " ++ field ++ ": " ++ value ++ " - " ++ reason
  | .unreadable path reason => "Failed to read config file " ++ path ++ ": " ++ reason
  | .unparsable reason => "Failed to parse config TOML: " ++ reason

/-- Any failure of the watcher. -/
inductive Failure
  | store (f : StoreFailure)
  | source (f : SourceFailure)
  | hierarchy (f : HierarchyFailure)
  | notify (f : NotifyFailure)
  | config (f : ConfigFailure)
  deriving DecidableEq, Repr

namespace Failure

/-- The failure in words, after its family. -/
def message : Failure → String
  | .store f => "Storage error: " ++ f.message
  | .source f => "Source error: " ++ f.message
  | .hierarchy f => "Hierarchy error: " ++ f.message
  | .notify f => "Notify error: " ++ f.message
  | .config f => "Config error: " ++ f.message

/-- Whether the failure may pass by itself. -/
def isTransient : Failure → Bool
  | .source (.transient ..) | .store (.backend _) | .store (.transaction _) => true
  | _ => false

/-- Whether the failure is a record that does not fit the model of a case. -/
def isMalformed : Failure → Bool
  | .source (.malformed ..) => true
  | _ => false

end Failure

end CaseHerald
