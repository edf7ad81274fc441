import CaseHerald.Failure
import CaseHerald.Store.Key
import CaseHerald.Store.Query
import CaseHerald.Table

/-!
# A store in memory

Four tables: snapshots by case number, markers by case number and time of update, assets by their
keys, and for each case the channels that follow it. `Memory.answer` does one step. A write keeps its
record and sets the marker of its version unless there is one; that is all the concurrency control
there is.
-/
namespace CaseHerald.Store

open Text (octets)

/-- The tables of a store in memory, and whether cases may be written and deleted. -/
structure Memory where
  snapshots : Table Snapshot
  markers : Table Marker
  assets : Table Asset
  /-- the channels of each case, under their own names -/
  channels : Table (Table String)
  writable : Bool

namespace Memory

/-- The store without contents. -/
def empty : Memory := ⟨∅, ∅, ∅, ∅, true⟩

/-- Keeps the record with its token, and marks its version unless that is marked. -/
def write (s : Memory) (fresh : Guid) (r : CaseRecord) : Memory :=
  let key := markerKey r.number r.updated
  { s with
    snapshots := s.snapshots.insert (octets r.number) ⟨r, fresh⟩
    markers := if s.markers.contains key then s.markers else s.markers.insert key ⟨fresh, r⟩ }

/-- Removes the snapshot and the markers of the case. -/
def delete (s : Memory) (number : String) : Memory :=
  { s with
    snapshots := s.snapshots.erase (octets number)
    markers := s.markers.keep fun key => !isMarkerOf number key }

/-- The channels that follow the case, under their own names. -/
def followers (s : Memory) (number : String) : Table String :=
  (s.channels.find? (octets number)).getD ∅

/-- Lets the channel follow the case. -/
def track (s : Memory) (channel number : String) : Memory :=
  let set := (s.followers number).insert (octets channel) channel
  { s with channels := s.channels.insert (octets number) set }

/-- Lets the channel no longer follow the case. -/
def untrack (s : Memory) (channel number : String) : Memory :=
  let set := (s.followers number).erase (octets channel)
  { s with channels :=
      if set.size = 0 then s.channels.erase (octets number)
      else s.channels.insert (octets number) set }

/-- The failure of a write while the store may not be written. -/
def writesDisabled : StoreFailure := .backend "writes disabled"

/-- One step on the store, where `fresh` is the token of a write. -/
def answer (fresh : Guid) (q : Query) (s : Memory) : Except StoreFailure q.Answer × Memory :=
  match q with
  | .list => (.ok s.snapshots.values, s)
  | .write r => if s.writable then (.ok fresh, s.write fresh r) else (.error writesDisabled, s)
  | .firstWriter number updated => (.ok (s.markers.find? (markerKey number updated)), s)
  | .delete number => if s.writable then (.ok (), s.delete number) else (.error writesDisabled, s)
  | .assets => (.ok s.assets.values, s)
  | .upsertAsset a => (.ok (), { s with assets := s.assets.insert (octets a.key) a })
  | .removeAsset a =>
    (.ok (s.assets.contains (octets a.key)), { s with assets := s.assets.erase (octets a.key) })
  | .channels number => (.ok (s.followers number).values, s)
  | .track channel number => (.ok (), s.track channel number)
  | .untrack channel number =>
    (.ok ((s.followers number).contains (octets channel)), s.untrack channel number)

end Memory

end CaseHerald.Store
