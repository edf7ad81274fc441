import CaseHerald.Instant.Text
import CaseHerald.Text.Octets

/-!
# Keys of the store

Snapshots are kept under the number of the case. A marker is kept under the number, a NUL character
and the time of update with all nine digits of its fraction, so that the markers of one case share
what their keys begin with.
-/
namespace CaseHerald.Store

open Text (Octets octets)

/-- What the keys of a case's markers begin with. -/
def markerFront (number : String) : Octets := octets number ++ [0]

/-- The key of the marker for a case and a time of update, as text. -/
def markerName (number : String) (updated : Timestamp) : String :=
  number ++ String.ofList ('\x00' :: updated.writeFull)

/-- The key of the marker for a case and a time of update. -/
def markerKey (number : String) (updated : Instant) : Octets := octets (markerName number updated)

/-- Whether the key is that of a marker of the case. -/
def isMarkerOf (number : String) (key : Octets) : Bool := (markerFront number).isPrefixOf key

end CaseHerald.Store
