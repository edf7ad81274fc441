import CaseHerald.Case.Record
import CaseHerald.Resource

/-!
# Questions to the store

The store is the only state that watchers share. A `Query` is one indivisible step on it, and
`Query.Answer` is what the step answers with if it does not fail.
-/
namespace CaseHerald.Store

/-- A step on the store. -/
inductive Query
  /-- the snapshots of all cases, in the byte order of their numbers -/
  | list
  /-- stores a record; answers the token of this write -/
  | write (record : CaseRecord)
  /-- the first write of a case at a time of update -/
  | firstWriter (number : String) (updated : Instant)
  /-- removes the snapshot and the markers of a case, if there are any -/
  | delete (number : String)
  /-- all assets, in the byte order of their keys -/
  | assets
  /-- keeps an asset, in place of one with its key -/
  | upsertAsset (asset : Asset)
  /-- removes the asset with the key; answers whether there was one -/
  | removeAsset (asset : Asset)
  /-- the channels that follow a case, in byte order -/
  | channels (number : String)
  /-- lets a channel follow a case -/
  | track (channel number : String)
  /-- lets a channel no longer follow a case; answers whether it did -/
  | untrack (channel number : String)
  deriving DecidableEq

/-- What a step answers with. -/
def Query.Answer : Query → Type
  | .list => List Snapshot
  | .write _ => Guid
  | .firstWriter .. => Option Marker
  | .delete _ => Unit
  | .assets => List Asset
  | .upsertAsset _ => Unit
  | .removeAsset _ => Bool
  | .channels _ => List String
  | .track .. => Unit
  | .untrack .. => Bool

end CaseHerald.Store
