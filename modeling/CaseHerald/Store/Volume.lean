import CaseHerald.Case.Written
import CaseHerald.Failure
import CaseHerald.Store.Key
import CaseHerald.Store.Query
import CaseHerald.Table

/-!
# A store on a volume

A volume holds named tables of texts under octet keys. A key has 1 to 511 octets, a volume at most 16
tables, and every step on it either succeeds as a whole or changes nothing. A deployment keeps its
store in four tables under its own namespace, each value as a JSON text. `Volume.answer` does one step
on the store of a namespace.
-/
namespace CaseHerald

/-- A failure of a volume. -/
inductive VolumeFailure
  | environment (reason : String)
  | database (name reason : String)
  | transaction (reason : String)
  | mapSize (megabytes : Nat)
  | serialization (key reason : String)
  | io (reason : String)
  deriving DecidableEq, Repr

namespace VolumeFailure

/-- The failure in words. -/
def message : VolumeFailure → String
  | .environment reason => "Failed to open LMDB environment: " ++ reason
  | .database name reason => "Failed to open database " ++ name ++ ": " ++ reason
  | .transaction reason => "Transaction error: " ++ reason
  | .mapSize megabytes => "Invalid map size: " ++ toString megabytes ++ " MB"
  | .serialization key reason => "Serialization error for " ++ key ++ ": " ++ reason
  | .io reason => "I/O error: " ++ reason

/-- The failure as one of the store. -/
def toStore : VolumeFailure → StoreFailure
  | .serialization key reason => .serialization key reason
  | .transaction reason => .transaction reason
  | f => .backend f.message

end VolumeFailure

namespace Store

open Text (Octets octets)

/-- Named tables of texts, and the size that the volume was opened with. -/
structure Volume where
  megabytes : Nat
  tables : Table (Table String)

namespace Volume

/-- The refusal of a key that is empty or too long. -/
def badSize : String :=
  "MDB_BAD_VALSIZE: Unsupported size of key/DB name/data, or wrong DUPFIXED size"

/-- The refusal of another table. -/
def tablesFull : String := "MDB_DBS_FULL: Environment maxdbs limit reached"

/-- The most octets of a key. -/
def longestKey : Nat := 511

/-- The most tables of a volume. -/
def mostTables : Nat := 16

/-- The four kinds of table that a store needs. -/
inductive Kind
  | snapshots
  | markers
  | assets
  | channels
  deriving DecidableEq

/-- The name of a store's table. -/
def tableName (space : String) (kind : Kind) : String :=
  space ++ match kind with
    | .snapshots => ":snapshots"
    | .markers => ":first_writers"
    | .assets => ":assets"
    | .channels => ":channels"

/-! ## Opening -/

/-- Mebibytes in the range of addresses. -/
def addressable : Nat := Nat.pow 2 44

/-- Mebibytes that can be mapped. -/
def mappable : Nat := Nat.pow 2 27

/-- A volume of the size, without tables. -/
def create (megabytes : Nat) : Except VolumeFailure Volume :=
  if megabytes = 0 ∨ addressable ≤ megabytes then .error (.mapSize megabytes)
  else if mappable ≤ megabytes then .error (.environment "Cannot allocate memory (os error 12)")
  else .ok ⟨megabytes, ∅⟩

/-- The volume opened once more, with a size that has to be the same. -/
def openAgain (v : Volume) (megabytes : Nat) : Except VolumeFailure Volume :=
  if megabytes = 0 ∨ addressable ≤ megabytes then .error (.mapSize megabytes)
  else if megabytes = v.megabytes then .ok v
  else .error (.environment "an environment is already opened with different options")

/-- The volume with the table. -/
def addTable (v : Volume) (name : String) : Except VolumeFailure Volume :=
  if v.tables.contains (octets name) then .ok v
  else if longestKey < (octets name).length then .error (.database name badSize)
  else if mostTables ≤ v.tables.size then .error (.database name tablesFull)
  else .ok { v with tables := v.tables.insert (octets name) ∅ }

/-- The volume with the tables of the store. -/
def addStore (v : Volume) (space : String) : Except VolumeFailure Volume := do
  let v ← v.addTable (tableName space .snapshots)
  let v ← v.addTable (tableName space .markers)
  let v ← v.addTable (tableName space .assets)
  v.addTable (tableName space .channels)

/-! ## Single accesses -/

/-- A table of the store. -/
def table (v : Volume) (space : String) (kind : Kind) : Table String :=
  (v.tables.find? (octets (tableName space kind))).getD ∅

/-- The volume with another table of the store. -/
def withTable (v : Volume) (space : String) (kind : Kind) (t : Table String) : Volume :=
  { v with tables := v.tables.insert (octets (tableName space kind)) t }

/-- The text under the key. -/
def get (v : Volume) (space : String) (kind : Kind) (key : Octets) :
    Except VolumeFailure (Option String) :=
  if key.isEmpty then .error (.transaction badSize) else .ok ((v.table space kind).find? key)

/-- Puts the text under the key. -/
def put (v : Volume) (space : String) (kind : Kind) (key : Octets) (text : String) :
    Except VolumeFailure Volume :=
  if key.isEmpty ∨ longestKey < key.length then .error (.transaction badSize)
  else .ok (v.withTable space kind ((v.table space kind).insert key text))

/-- Removes the key; answers whether it was there. -/
def remove (v : Volume) (space : String) (kind : Kind) (key : Octets) :
    Except VolumeFailure (Bool × Volume) :=
  if key.isEmpty then .error (.transaction badSize)
  else .ok ((v.table space kind).contains key,
    v.withTable space kind ((v.table space kind).erase key))

/-- The value that the text under a key is. -/
def decode {α : Type} (d : Json.Decoder α) (key : Octets) (text : String) :
    Except VolumeFailure α :=
  match ofJsonText? d (Text.gapless text) with
  | some a => .ok a
  | none => .error (.serialization (Text.tolerant (Text.ofOctets key)) "unreadable value")

/-- The value under the key. -/
def getValue {α : Type} (v : Volume) (space : String) (kind : Kind) (d : Json.Decoder α)
    (key : Octets) : Except VolumeFailure (Option α) := do
  match ← v.get space kind key with
  | none => return none
  | some text => return some (← decode d key text)

/-- All values of a table. -/
def allValues {α : Type} (v : Volume) (space : String) (kind : Kind) (d : Json.Decoder α) :
    Except VolumeFailure (List α) :=
  (v.table space kind).entries.mapM fun e => decode d e.1 e.2

/-! ## Steps on the store -/

/-- Keeps the record with its token, and marks its version unless that is marked. -/
def write (v : Volume) (space : String) (fresh : Guid) (r : CaseRecord) :
    Except VolumeFailure Volume := do
  let v ← v.put space .snapshots (octets r.number) (Snapshot.toJson ⟨r, fresh⟩).render
  let key := markerKey r.number r.updated
  match ← v.get space .markers key with
  | some _ => return v
  | none => v.put space .markers key (Marker.toJson ⟨fresh, r⟩).render

/-- Removes the snapshot and the markers of the case. -/
def delete (v : Volume) (space : String) (number : String) : Except VolumeFailure Volume := do
  let (_, v) ← v.remove space .snapshots (octets number)
  return v.withTable space .markers ((v.table space .markers).keep fun key => !isMarkerOf number key)

/-- The channels that follow the case. -/
def followers (v : Volume) (space : String) (number : String) :
    Except VolumeFailure (List String) := do
  return (← v.getValue space .channels (.list .text) (octets number)).getD []

/-- Lets the channel follow the case. -/
def track (v : Volume) (space : String) (channel number : String) : Except VolumeFailure Volume := do
  let channels ← v.followers space number
  if channels.contains channel then return v
  else
    let channels := (channels ++ [channel]).mergeSort fun a b => decide (octets a ≤ octets b)
    v.put space .channels (octets number) (Json.Document.texts channels).render

/-- Lets the channel no longer follow the case. -/
def untrack (v : Volume) (space : String) (channel number : String) :
    Except VolumeFailure (Bool × Volume) := do
  let before ← v.followers space number
  let channels := before.filter (· != channel)
  let removed := channels.length != before.length
  if channels.isEmpty then
    let (_, v) ← v.remove space .channels (octets number)
    return (removed, v)
  else if removed then
    return (removed, ← v.put space .channels (octets number) (Json.Document.texts channels).render)
  else return (removed, v)

/-- One step on the store of the namespace, where `fresh` is the token of a write. -/
def step (fresh : Guid) (space : String) (q : Query) (v : Volume) :
    Except VolumeFailure (q.Answer × Volume) :=
  match q with
  | .list => do return (← v.allValues space .snapshots Snapshot.ofJson?, v)
  | .write r => do return (fresh, ← v.write space fresh r)
  | .firstWriter number updated => do
    return (← v.getValue space .markers Marker.ofJson? (markerKey number updated), v)
  | .delete number => do return ((), ← v.delete space number)
  | .assets => do return (← v.allValues space .assets Asset.ofJson?, v)
  | .upsertAsset a => do return ((), ← v.put space .assets (octets a.key) a.toJson.render)
  | .removeAsset a => v.remove space .assets (octets a.key)
  | .channels number => do return (← v.followers space number, v)
  | .track channel number => do return ((), ← v.track space channel number)
  | .untrack channel number => v.untrack space channel number

/-- One step on the store of the namespace. One that fails changes nothing. -/
def answer (fresh : Guid) (space : String) (q : Query) (v : Volume) :
    Except StoreFailure q.Answer × Volume :=
  match step fresh space q v with
  | .ok (a, v) => (.ok a, v)
  | .error f => (.error f.toStore, v)

end Volume

end Store

end CaseHerald
