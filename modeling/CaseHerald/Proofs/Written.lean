import CaseHerald.Instant.Text
import CaseHerald.Proofs.Calendar
import CaseHerald.Text.Octets
import Mathlib.Data.List.Infix

/-!
# Written forms that lose nothing

The encoding of a text and a number in decimal digits can be read back, so that equal written forms mean
equal values: `octets_inj` and `padded_inj`. A timestamp with all nine digits of its fraction is read back as
the instant that it is carried to, which is the timestamp itself unless a leap second is within its minute:
`Timestamp.writeFull_eq_iff`.
-/
namespace CaseHerald

open Text (octets padded)

/-! ## Texts as octets -/

theorem octets_inj {a b : String} : octets a = octets b ↔ a = b := by
  constructor
  · intro h
    have hencode (s : String) : s.toByteArray = (octets s).toByteArray := by
      rw [← String.utf8Encode_toList]; rfl
    rw [← String.toByteArray_inj, hencode, hencode, h]
  · rintro rfl; rfl

/-! ## Separators -/

/-- Texts that end at the first of a separator. -/
theorem append_first_inj {α : Type} {c : α} {xs ys r s : List α} (hx : c ∉ xs) (hy : c ∉ ys)
    (h : xs ++ c :: r = ys ++ c :: s) : xs = ys ∧ r = s := by
  induction xs generalizing ys with
  | nil =>
    cases ys with
    | nil => exact ⟨rfl, by simpa using h⟩
    | cons y ys => exact absurd (by simp_all) hy
  | cons x xs ih =>
    cases ys with
    | nil => exact absurd (by simp_all) hx
    | cons y ys =>
      obtain ⟨rfl, htail⟩ := List.cons.inj h
      obtain ⟨rfl, hrest⟩ := ih (fun hm => hx (List.mem_cons_of_mem _ hm))
        (fun hm => hy (List.mem_cons_of_mem _ hm)) htail
      exact ⟨rfl, hrest⟩

/-- Texts that start after the last of a separator. -/
theorem append_last_inj {α : Type} {c : α} {xs ys r s : List α} (hr : c ∉ r) (hs : c ∉ s)
    (h : xs ++ c :: r = ys ++ c :: s) : xs = ys ∧ r = s := by
  have hrev : r.reverse ++ c :: xs.reverse = s.reverse ++ c :: ys.reverse := by
    simpa using congrArg List.reverse h
  obtain ⟨h₁, h₂⟩ := append_first_inj (by simpa using hr) (by simpa using hs) hrev
  exact ⟨List.reverse_inj.1 h₂, List.reverse_inj.1 h₁⟩

/-- What begins like a text up to its last separator. -/
theorem append_last_prefix_iff {α : Type} {c : α} {xs ys r : List α} (hr : c ∉ r) :
    xs ++ [c] <+: ys ++ c :: r ↔ xs = ys ∨ xs ++ [c] <+: ys := by
  constructor
  · intro h
    rcases List.prefix_or_prefix_of_prefix h (List.prefix_append ys (c :: r)) with hxs | hys
    · exact .inr hxs
    rcases List.prefix_concat_iff.1 hys with rfl | ⟨zs, rfl⟩
    · exact .inr (List.prefix_refl _)
    · left
      rw [List.append_assoc, List.prefix_append_right_inj] at h
      cases zs with
      | nil => rw [List.append_nil]
      | cons z zs =>
        rw [List.cons_append, List.cons_prefix_cons] at h
        exact absurd (h.2.subset (List.mem_append_right _ List.mem_cons_self)) hr
  · rintro (rfl | h)
    · rw [List.prefix_append_right_inj, List.prefix_cons_inj]
      exact List.nil_prefix
    · exact h.trans (List.prefix_append _ _)

/-! ## Numbers in digits -/

theorem ofDigitChars_padded (width n : Nat) : Nat.ofDigitChars 10 (padded width n) 0 = n := by
  simp only [padded, Nat.ofDigitChars_append, Nat.ofDigitChars_replicate_zero, Nat.mul_zero]
  exact Nat.ofDigitChars_ten_toDigits

theorem padded_inj {width m n : Nat} : padded width m = padded width n ↔ m = n := by
  constructor
  · intro h
    rw [← ofDigitChars_padded width m, h, ofDigitChars_padded]
  · rintro rfl; rfl

theorem isDigit_of_mem_padded {c : Char} {width n : Nat} (h : c ∈ padded width n) : c.isDigit := by
  rcases List.mem_append.1 h with h | h
  · rw [(List.mem_replicate.1 h).2]; rfl
  · exact Nat.isDigit_of_mem_toDigits (by decide) (by decide) h

/-- A number ends before a character that is no digit. -/
theorem padded_append_inj {c : Char} (hc : c.isDigit = false) {width m n : Nat} {r s : List Char}
    (h : padded width m ++ c :: r = padded width n ++ c :: s) : m = n ∧ r = s := by
  have hnot (k : Nat) : c ∉ padded width k := fun hm => by
    simp [isDigit_of_mem_padded hm] at hc
  obtain ⟨h₁, h₂⟩ := append_first_inj (hnot m) (hnot n) h
  exact ⟨padded_inj.1 h₁, h₂⟩

theorem exists_padded_eq_cons (width n : Nat) :
    ∃ c r, padded width n = c :: r ∧ c.isDigit := by
  cases h : padded width n with
  | nil => simp [padded, Nat.toDigits_ne_nil] at h
  | cons c r => exact ⟨c, r, rfl, isDigit_of_mem_padded (h ▸ List.mem_cons_self)⟩

/-! ## Timestamps -/

namespace Timestamp

variable {t u : Timestamp}

theorem not_leapEndsMinute_iff :
    ¬t.LeapEndsMinute ↔ nanosInSecond ≤ t.nanos ∧ t.seconds % 60 ≠ 59 := Classical.not_imp

/-- The instant that the text of a timestamp is of. A leap second within a minute has the text of the
second after it. -/
def carry (t : Timestamp) : Instant where
  seconds := if t.LeapEndsMinute then t.seconds else t.seconds + 1
  nanos := if t.LeapEndsMinute then t.nanos else t.nanos - nanosInSecond
  first_le := by
    have hfirst := t.first_le
    split <;> omega
  le_last := by
    have hlast := t.le_last
    split
    · exact hlast
    next hwithin =>
      have hsecond := (not_leapEndsMinute_iff.1 hwithin).2
      simp only [lastSecond] at *
      omega
  nanos_lt := by
    have hnanos := t.nanos_lt
    split <;> omega
  leap := by
    have hnanos := t.nanos_lt
    intro hlate
    simp only [nanosInSecond] at *
    split
    next hends => exact hends (by simpa [hends] using hlate)
    next hwithin =>
      rw [if_neg hwithin] at hlate
      omega

theorem carry_of_leapEndsMinute (h : t.LeapEndsMinute) : t.carry.toTimestamp = t := by
  simp only [carry, h, if_true]

/-- Nothing is carried in an instant. -/
@[simp] theorem carry_coe (t : Instant) : t.toTimestamp.carry = t :=
  Instant.ext_iff_seconds.2 ⟨if_pos t.leap, if_pos t.leap⟩

/-- **A timestamp is the instant of its text if a leap second in it ends its minute.** -/
theorem carry_eq_self_iff : t.carry.toTimestamp = t ↔ t.LeapEndsMinute :=
  ⟨fun h => h ▸ t.carry.leap, carry_of_leapEndsMinute⟩

/-- A third of a second into a leap second after 23:56:04, on the last day of June 2015. -/
def leapWithin : Timestamp := ⟨1435708564, 1333333333, by decide, by decide, by decide⟩

/-- A third of a second after 23:56:05 on the same day. -/
def secondAfter : Timestamp := ⟨1435708565, 333333333, by decide, by decide, by decide⟩

example : leapWithin.carry.toTimestamp = secondAfter := by decide

/-- What stands before the digits of a year. -/
def yearSign (y : Int) : List Char :=
  if y < 0 then ['-'] else if y ≤ 9999 then [] else ['+']

theorem yearText_eq (y : Int) : yearText y = yearSign y ++ padded 4 y.natAbs := by
  unfold yearText yearSign
  by_cases hneg : y < 0
  · rw [if_neg (by omega), if_pos hneg, if_pos hneg]; rfl
  · rw [if_neg hneg, if_neg hneg]
    by_cases hle : y ≤ 9999
    · rw [if_pos ⟨by omega, hle⟩, if_pos hle, show y.toNat = y.natAbs by omega]; rfl
    · rw [if_neg (by omega), if_neg hle]; rfl

/-- A sign is no digit, so the first character of a year tells its range. -/
theorem yearSign_append_inj {y z : Int} {c d : Char} {r s : List Char} (hc : c.isDigit)
    (hd : d.isDigit) (h : yearSign y ++ c :: r = yearSign z ++ d :: s) :
    (y < 0 ↔ z < 0) ∧ (y ≤ 9999 ↔ z ≤ 9999) := by
  have hsign {e : Char} (he : e.isDigit) : e ≠ '-' ∧ e ≠ '+' := by
    constructor <;> rintro rfl <;> exact absurd he (by decide)
  obtain ⟨hcm, hcp⟩ := hsign hc
  obtain ⟨hdm, hdp⟩ := hsign hd
  have hmd := hdm.symm
  have hpd := hdp.symm
  unfold yearSign at h
  by_cases hy : y < 0 <;> by_cases hz : z < 0 <;> by_cases hy' : y ≤ 9999 <;>
    by_cases hz' : z ≤ 9999 <;> simp_all <;> omega

theorem yearText_append_inj {y z : Int} {r s : List Char}
    (h : yearText y ++ '-' :: r = yearText z ++ '-' :: s) : y = z ∧ r = s := by
  rw [yearText_eq, yearText_eq, List.append_assoc, List.append_assoc] at h
  obtain ⟨c, cs, hc, hcd⟩ := exists_padded_eq_cons 4 y.natAbs
  obtain ⟨d, ds, hd, hdd⟩ := exists_padded_eq_cons 4 z.natAbs
  obtain ⟨hneg, hlong⟩ := yearSign_append_inj hcd hdd (by simpa [hc, hd] using h)
  have hsign : yearSign y = yearSign z := by simp only [yearSign, hneg, hlong]
  rw [hsign, List.append_cancel_left_eq] at h
  obtain ⟨habs, hrest⟩ := padded_append_inj (by decide) h
  exact ⟨by omega, hrest⟩

/-- The text of a second tells its minute, and the second within it that is written. -/
theorem secondsText_append_inj {r s : List Char}
    (h : t.secondsText ++ '.' :: r = u.secondsText ++ '.' :: s) :
    t.seconds / 60 = u.seconds / 60 ∧
      t.seconds % 60 + t.nanos / nanosInSecond = u.seconds % 60 + u.nanos / nanosInSecond ∧ r = s := by
  simp only [secondsText, List.append_assoc, List.cons_append] at h
  obtain ⟨hyear, h⟩ := yearText_append_inj h
  obtain ⟨hmonth, h⟩ := padded_append_inj (by decide) h
  obtain ⟨hday, h⟩ := padded_append_inj (by decide) h
  obtain ⟨hhour, h⟩ := padded_append_inj (by decide) h
  obtain ⟨hminute, h⟩ := padded_append_inj (by decide) h
  obtain ⟨hsecond, h⟩ := padded_append_inj (by decide) h
  have hdate : t.seconds / secondsInDay = u.seconds / secondsInDay := by
    rw [← Civil.Date.dayNumber_ofDayNumber (t.seconds / secondsInDay),
      ← Civil.Date.dayNumber_ofDayNumber (u.seconds / secondsInDay)]
    simp only [Civil.Date.dayNumber, hyear, hmonth, hday]
  simp only [secondsInDay, nanosInSecond] at *
  refine ⟨by omega, by omega, h⟩

/-- The second after a leap second within a minute has its text. -/
theorem secondsText_carry (t : Timestamp) : t.carry.secondsText = t.secondsText := by
  by_cases h : t.LeapEndsMinute
  · rw [carry_of_leapEndsMinute h]
  · obtain ⟨hlate, hsecond⟩ := not_leapEndsMinute_iff.1 h
    have hnanos := t.nanos_lt
    simp only [secondsText, carry, h, if_false]
    simp only [secondsInDay, nanosInSecond] at *
    have hday : (t.seconds + 1) / 86400 = t.seconds / 86400 := by omega
    have htime : ((t.seconds + 1) % 86400).toNat = (t.seconds % 86400).toNat + 1 := by omega
    have hhour : ((t.seconds % 86400).toNat + 1) / 3600 = (t.seconds % 86400).toNat / 3600 := by omega
    have hminute : ((t.seconds % 86400).toNat + 1) / 60 = (t.seconds % 86400).toNat / 60 := by omega
    have hwritten : ((t.seconds % 86400).toNat + 1) % 60 + (t.nanos - 1000000000) / 1000000000 =
        (t.seconds % 86400).toNat % 60 + t.nanos / 1000000000 := by omega
    rw [hday, htime, hhour, hminute, hwritten]

theorem nanos_carry (t : Timestamp) : t.carry.nanos % nanosInSecond = t.nanos % nanosInSecond := by
  by_cases h : t.LeapEndsMinute
  · rw [carry_of_leapEndsMinute h]
  · have hlate := (not_leapEndsMinute_iff.1 h).1
    simp only [carry, h, if_false, nanosInSecond] at *
    omega

theorem write_carry (t : Timestamp) : t.carry.write = t.write := by
  rw [write, secondsText_carry, nanos_carry, write]

theorem writeFull_carry (t : Timestamp) : t.carry.writeFull = t.writeFull := by
  rw [writeFull, secondsText_carry, nanos_carry, writeFull]

/-- **The text of a timestamp with all nine digits tells its instant**, and no more. -/
theorem writeFull_eq_iff : t.writeFull = u.writeFull ↔ t.carry = u.carry := by
  constructor
  · intro h
    simp only [writeFull, List.append_assoc] at h
    obtain ⟨hminute, hsecond, h⟩ := secondsText_append_inj h
    obtain ⟨hnanos, -⟩ := padded_append_inj (by decide) h
    have ht := t.nanos_lt
    have hu := u.nanos_lt
    -- second 60 is written for a leap second that ends its minute, and is left as it is
    refine Instant.ext_iff_seconds.2 ?_
    by_cases htleap : t.LeapEndsMinute <;> by_cases huleap : u.LeapEndsMinute <;>
      simp only [carry, htleap, huleap, if_true, if_false] <;>
      simp only [LeapEndsMinute, nanosInSecond] at * <;> omega
  · intro h
    rw [← writeFull_carry, h, writeFull_carry]

end Timestamp

end CaseHerald
