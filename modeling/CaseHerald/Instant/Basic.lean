import CaseHerald.Instant.Civil

/-!
# Instants

A point in time, in Coordinated Universal Time to the nanosecond. A fraction of one second or more is
that of a leap second. A `Timestamp` can have one in any second; in the `Instant`s that are read from
texts, leap seconds end a minute. Instants are ordered by their seconds and then by their fraction.
-/
namespace CaseHerald

/-- Nanoseconds in a second. -/
abbrev nanosInSecond : Nat := 1000000000

/-- Seconds in a day. -/
abbrev secondsInDay : Int := 86400

/-- The years that instants lie in. -/
abbrev firstYear : Int := -262143

/-- The last of the years that instants lie in. -/
abbrev lastYear : Int := 262142

/-- The seconds since the start of 1970 at the start of the first year. -/
abbrev firstSecond : Int := -8334601228800

/-- The seconds since the start of 1970 in the last second of the last year. -/
abbrev lastSecond : Int := 8210266876799

/-- Seconds since the start of 1970 and nanoseconds since that second began. -/
structure Timestamp where
  seconds : Int
  nanos : Nat
  first_le : firstSecond ≤ seconds
  le_last : seconds ≤ lastSecond
  nanos_lt : nanos < 2 * nanosInSecond
  deriving DecidableEq

/-- Whether a leap second is the last second of its minute. -/
def Timestamp.LeapEndsMinute (t : Timestamp) : Prop := nanosInSecond ≤ t.nanos → t.seconds % 60 = 59

instance (t : Timestamp) : Decidable t.LeapEndsMinute :=
  inferInstanceAs (Decidable (nanosInSecond ≤ t.nanos → t.seconds % 60 = 59))

/-- A timestamp as texts denote it, where a leap second ends its minute. -/
structure Instant extends Timestamp where
  leap : toTimestamp.LeapEndsMinute
  deriving DecidableEq

instance : Coe Instant Timestamp := ⟨Instant.toTimestamp⟩

namespace Instant

/-- The instant with these seconds and nanoseconds, if there is one. -/
def of? (seconds : Int) (nanos : Nat) : Option Instant :=
  if h : firstSecond ≤ seconds ∧ seconds ≤ lastSecond ∧ nanos < 2 * nanosInSecond ∧
      (nanosInSecond ≤ nanos → seconds % 60 = 59) then
    some ⟨⟨seconds, nanos, h.1, h.2.1, h.2.2.1⟩, h.2.2.2⟩
  else none

/-- Whether one instant lies before another. -/
def before (a b : Instant) : Bool :=
  decide (a.seconds < b.seconds) || (decide (a.seconds = b.seconds) && decide (a.nanos < b.nanos))

instance : LT Instant := ⟨fun a b => a.before b = true⟩
instance : LE Instant := ⟨fun a b => b.before a = false⟩
instance (a b : Instant) : Decidable (a < b) := inferInstanceAs (Decidable (_ = _))
instance (a b : Instant) : Decidable (a ≤ b) := inferInstanceAs (Decidable (_ = _))

/-- The start of a second. -/
def atSecond (seconds : Int) (hfirst : firstSecond ≤ seconds) (hlast : seconds ≤ lastSecond) : Instant :=
  ⟨⟨seconds, 0, hfirst, hlast, by decide⟩,
    fun h => absurd (show nanosInSecond ≤ 0 from h) (by decide)⟩

/-- The last second of the year 2100, at which no case is ever updated. It stands in a record of a
case that has been announced as closed. -/
def closingMark : Instant := atSecond 4133980799 (by decide) (by decide)

theorem of?_eq_some_iff {s : Int} {n : Nat} {t : Instant} :
    of? s n = some t ↔ t.seconds = s ∧ t.nanos = n := by
  constructor
  · intro h
    unfold of? at h
    split at h
    · cases h; exact ⟨rfl, rfl⟩
    · cases h
  · rintro ⟨rfl, rfl⟩
    rw [of?, dif_pos ⟨t.first_le, t.le_last, t.nanos_lt, t.leap⟩]

theorem ext_iff_seconds {a b : Instant} : a = b ↔ a.seconds = b.seconds ∧ a.nanos = b.nanos := by
  obtain ⟨⟨_, _, _, _, _⟩, _⟩ := a
  obtain ⟨⟨_, _, _, _, _⟩, _⟩ := b
  simp

theorem lt_iff {a b : Instant} :
    a < b ↔ a.seconds < b.seconds ∨ (a.seconds = b.seconds ∧ a.nanos < b.nanos) := by
  change a.before b = true ↔ _
  simp [before]

theorem le_iff_not_lt {a b : Instant} : a ≤ b ↔ ¬b < a := by
  change b.before a = false ↔ ¬b.before a = true
  simp

theorem lt_trichotomy (a b : Instant) : a < b ∨ a = b ∨ b < a := by
  simp only [lt_iff, ext_iff_seconds]; omega

theorem lt_trans {a b c : Instant} (hab : a < b) (hbc : b < c) : a < c := by
  simp only [lt_iff] at *; omega

theorem lt_irrefl (a : Instant) : ¬a < a := by
  simp only [lt_iff]; omega

theorem le_refl (a : Instant) : a ≤ a := le_iff_not_lt.2 (lt_irrefl a)

theorem le_antisymm {a b : Instant} (hab : a ≤ b) (hba : b ≤ a) : a = b := by
  rcases lt_trichotomy a b with h | h | h
  · exact absurd h (le_iff_not_lt.1 hba)
  · exact h
  · exact absurd h (le_iff_not_lt.1 hab)

theorem le_trans {a b c : Instant} (hab : a ≤ b) (hbc : b ≤ c) : a ≤ c := by
  simp only [le_iff_not_lt, lt_iff] at *; omega

end Instant

end CaseHerald
