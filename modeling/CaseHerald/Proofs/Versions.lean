import CaseHerald.Proofs.InstantText
import CaseHerald.Proofs.Store
import Mathlib.Data.List.DropRight

/-!
# Versions by the keys of their markers

The key of a marker tells the case and the time of update, and `versionOf?` reads both of them off it: the
time is what comes after the last NUL character, since its text has none, and the number of the case is what
comes before, even where the number has NUL characters of its own. An instant is read back from its text in
every year and in leap seconds. It has one text, whatever the offset was in which its timestamp has been
given; that every timestamp in a text denotes an instant is `Instant.exists_denotes_iff`. A timestamp that no
text denotes has the key of the instant that it is carried to.
-/
namespace CaseHerald

section Last

variable {α : Type} [DecidableEq α] {c : α} {xs r : List α}

theorem forall_ne_of_notMem (hr : c ∉ r) : ∀ a ∈ r.reverse, decide (a ≠ c) = true := fun _ ha =>
  decide_eq_true fun heq => hr (heq ▸ List.mem_reverse.1 ha)

/-- What comes after the last one. -/
theorem rtakeWhile_ne (hr : c ∉ r) : (xs ++ c :: r).rtakeWhile (· ≠ c) = r := by
  rw [List.rtakeWhile, List.reverse_append, List.reverse_cons, List.append_assoc,
    List.takeWhile_append_of_pos (forall_ne_of_notMem hr)]
  simp

/-- What comes before the last one, and the last one itself. -/
theorem rdropWhile_ne (hr : c ∉ r) : (xs ++ c :: r).rdropWhile (· ≠ c) = xs ++ [c] := by
  rw [List.rdropWhile, List.reverse_append, List.reverse_cons, List.append_assoc,
    List.dropWhile_append_of_pos (forall_ne_of_notMem hr)]
  simp

end Last

namespace Store

open Text (octets)

/-- The case and the time of update that the key of a marker is for, if it is one. -/
def versionOf? (name : String) : Option (String × Instant) :=
  match name.toList.rdropWhile (· ≠ '\x00') with
  | [] => none
  | front =>
    (Instant.readLenient? (String.ofList (name.toList.rtakeWhile (· ≠ '\x00')))).map fun updated =>
      (String.ofList front.dropLast, updated)

/-- **The case and the instant of the update are read off a key.** -/
theorem versionOf?_markerName (c : String) (t : Timestamp) :
    versionOf? (markerName c t) = some (c, t.carry) := by
  have hname : (markerName c t).toList = c.toList ++ '\x00' :: t.writeFull := by
    rw [markerName, String.toList_append, String.toList_ofList]
  have hnul := nul_notMem_writeFull t
  unfold versionOf?
  rw [hname, rdropWhile_ne hnul, rtakeWhile_ne hnul, Timestamp.readLenient?_writeFull]
  cases hfront : c.toList ++ ['\x00'] with
  | nil => simp at hfront
  | cons =>
    simp only [Option.map_some]
    rw [← hfront, List.dropLast_concat, String.ofList_toList]

/-- **The key of a marker is that of one version**, from which the version is read, and begins like the keys
of all markers of its case. Timestamps share a key just if they are carried to one instant. -/
theorem marker_keys_tell_versions :
    (∀ c (t : Timestamp), versionOf? (markerName c t) = some (c, t.carry)) ∧
      (∀ c d (t u : Timestamp), markerName c t = markerName d u ↔ c = d ∧ t.carry = u.carry) ∧
      (∀ t : Timestamp, t.carry.toTimestamp = t ↔ t.LeapEndsMinute) ∧
      (∀ c d (t u : Instant), markerKey c t = markerKey d u ↔ c = d ∧ t = u) ∧
      ∀ c (t : Timestamp), octets c ++ [0] = markerFront c ∧
        markerFront c <+: octets (markerName c t) := by
  refine ⟨versionOf?_markerName, fun c d t u => markerName_eq_iff, fun t => Timestamp.carry_eq_self_iff,
    fun c d t u => markerKey_inj, fun c t => ⟨rfl, ?_⟩⟩
  rw [octets_markerName]
  exact List.prefix_append _ _

/-- A leap second within a minute shares its key with the second after it. -/
theorem leapWithin_shares_key :
    ¬(markerName "1" .leapWithin = markerName "1" .secondAfter ↔
      "1" = "1" ∧ Timestamp.leapWithin = .secondAfter) := by
  rw [markerName_eq_iff]
  decide

/-- A number may hold NUL characters, and a leap second has a text of its own. -/
example : versionOf? "1\x002\x00+10000-12-31T23:59:60.000000001Z" =
    some ("1\x002", ⟨⟨253433923199, 1000000001, by decide, by decide, by decide⟩, by decide⟩) := by
  rfl

end Store

end CaseHerald
