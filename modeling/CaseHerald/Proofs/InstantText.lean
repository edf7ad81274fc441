import CaseHerald.Instant.Reader
import CaseHerald.Proofs.Calendar
import CaseHerald.Proofs.Written
import Mathlib.Algebra.Group.Nat.Defs
import Mathlib.Data.List.TakeWhile

/-!
# A written instant is read back

The lenient reader takes what an instant is written as, part by part: every number is written in
digits and followed by a character that is none, so the reader finds its end. `readLenient?_render`
puts the parts together for all years, leap seconds and lengths of the fraction. A timestamp that is no
instant has the text of the one that it is carried to, and is read as that.
-/
namespace CaseHerald

namespace Instant

open Text (digit? padded)
open Timestamp (yearText yearSign yearText_eq fractionText)

/-! ## Digits -/

theorem digit?_of_isDigit {c : Char} (h : c.isDigit) : digit? c = some (c.toNat - '0'.toNat) := by
  simp only [Char.isDigit, Bool.and_eq_true, decide_eq_true_eq] at h
  exact if_pos ⟨h.1, h.2⟩

theorem length_padded {width n : Nat} (hwidth : 0 < width) (hn : n < 10 ^ width) :
    (padded width n).length = width := by
  have hle := (Nat.length_toDigits_le_iff (by decide) hwidth).2 hn
  simp only [padded, List.length_append, List.length_replicate]
  omega

theorem le_length_padded (width n : Nat) : width ≤ (padded width n).length := by
  simp only [padded, List.length_append, List.length_replicate]
  omega

namespace Scan

variable {α β : Type}

/-- What a reader does first. -/
theorem run_bind_of {p : Scan α} {s t : List Char} {a : α} (h : p.run s = .ok (a, t))
    (f : α → Scan β) : (p >>= f).run s = (f a).run t := by
  rw [StateT.run_bind, h]
  rfl

theorem run_rest_bind (s : List Char) (f : List Char → Scan β) :
    (rest >>= f).run s = (f s).run s := rfl

theorem run_set_bind (s t : List Char) (f : PUnit → Scan β) :
    (set t >>= f : Scan β).run s = (f ⟨⟩).run t := rfl

theorem holdsOctets_of_le_length {n : Nat} {cs : List Char} (h : n ≤ cs.length) :
    holdsOctets n cs = true := by
  have hsize (ds : List Char) : ds.length ≤ (String.ofList ds).utf8ByteSize := by
    induction ds with
    | nil => exact Nat.zero_le _
    | cons d ds ih =>
      have hd := Char.utf8Size_pos d
      rw [String.ofList_cons, String.utf8ByteSize_append, String.utf8ByteSize_singleton,
        List.length_cons]
      omega
  exact decide_eq_true (Nat.le_trans h (hsize cs))

/-- The digits at the front of a text are taken, up to a character that is none. -/
theorem takeWhile_digits {cs t : List Char} (hcs : ∀ c ∈ cs, c.isDigit)
    (ht : ∀ c ∈ t.head?, digit? c = none) :
    ((cs ++ t).map digit?).takeWhile Option.isSome = cs.map digit? := by
  induction cs with
  | nil =>
    cases t with
    | nil => rfl
    | cons c t => simp [ht c rfl]
  | cons c cs ih =>
    have hc := digit?_of_isDigit (hcs c List.mem_cons_self)
    rw [List.cons_append, List.map_cons, List.takeWhile_cons_of_pos (by simp [hc]),
      ih fun d hd => hcs d (List.mem_cons_of_mem _ hd), List.map_cons]

/-- Digits are read up to a character that is none. -/
theorem run_digits {least : Nat} {most : Option Nat} {cs : List Char} {c : Char}
    (hcs : ∀ c ∈ cs, c.isDigit) (hleast : least ≤ cs.length) (hmost : ∀ n ∈ most, cs.length ≤ n)
    (hc : digit? c = none) (after : List Char) :
    (digits least most).run (cs ++ c :: after) =
      .ok (cs.map fun c => c.toNat - '0'.toNat, c :: after) := by
  have hvalues : cs.map digit? = (cs.map fun c => c.toNat - '0'.toNat).map some := by
    rw [List.map_map]
    exact List.map_congr_left fun d hd => digit?_of_isDigit (hcs d hd)
  have htaken (front : List Char) (hfront : (front.map digit?).takeWhile Option.isSome = cs.map digit?) :
      (do
        let ds := (front.map digit?).takeWhile Option.isSome
        if ds.length < least then throw .invalid
        else
          set ((cs ++ c :: after).drop ds.length)
          return ds.filterMap id : Scan (List Nat)).run (cs ++ c :: after) =
        .ok (cs.map fun c => c.toNat - '0'.toNat, c :: after) := by
    simp only [hfront, List.length_map]
    rw [if_neg (by omega), List.drop_left' rfl, hvalues, List.filterMap_map, Function.id_comp,
      List.filterMap_some]
    rfl
  have hholds : holdsOctets least (cs ++ c :: after) = true :=
    holdsOctets_of_le_length (by rw [List.length_append]; omega)
  rw [digits, run_rest_bind, if_pos hholds]
  cases most with
  | none => exact htaken _ (takeWhile_digits hcs (by simpa using hc))
  | some n =>
    refine htaken ((cs ++ c :: after).take n) ?_
    rw [List.take_append, List.take_of_length_le (hmost n rfl)]
    refine takeWhile_digits hcs fun d hd => ?_
    cases hk : n - cs.length with
    | zero => simp [hk] at hd
    | succ k => simp_all

theorem foldl_values (cs : List Char) :
    (cs.map fun c => c.toNat - '0'.toNat).foldl (fun n d => n * 10 + d) 0 =
      Nat.ofDigitChars 10 cs 0 := by
  rw [List.foldl_map, Nat.ofDigitChars_eq_foldl]
  simp only [Nat.mul_comm 10]

theorem run_number {least : Nat} {most : Option Nat} {cs : List Char} {c : Char}
    (hcs : ∀ c ∈ cs, c.isDigit) (hleast : least ≤ cs.length) (hmost : ∀ n ∈ most, cs.length ≤ n)
    (hc : digit? c = none) (after : List Char) :
    (number least most).run (cs ++ c :: after) = .ok (Nat.ofDigitChars 10 cs 0, c :: after) := by
  rw [number, run_bind_of (run_digits hcs hleast hmost hc after), foldl_values]
  rfl

/-- A number that fits its width is read. -/
theorem run_number_padded {least width n : Nat} {most : Option Nat} {c : Char}
    (hleast : least ≤ width) (hmost : ∀ k ∈ most, (padded width n).length ≤ k)
    (hc : digit? c = none) (after : List Char) :
    (number least most).run (padded width n ++ c :: after) = .ok (n, c :: after) := by
  rw [run_number (fun d hd => isDigit_of_mem_padded hd)
    (Nat.le_trans hleast (le_length_padded width n)) hmost hc, ofDigitChars_padded]

theorem run_blanks {c : Char} (hc : Text.isBlank c = false) (after : List Char) :
    blanks.run (c :: after) = .ok ((), c :: after) := by
  have hdrop : Text.dropBlanks (c :: after) = c :: after :=
    List.dropWhile_cons_of_neg (by simp [hc])
  change Except.ok ((), Text.dropBlanks (c :: after)) = _
  rw [hdrop]

theorem isBlank_of_isDigit {c : Char} (h : c.isDigit) : Text.isBlank c = false := by
  simp only [Char.isDigit, Bool.and_eq_true, decide_eq_true_eq] at h
  have hlow : 48 ≤ c.toNat := h.1
  have hhigh : c.toNat ≤ 57 := h.2
  simp [Text.isBlank, Text.within, Text.blanks]
  omega

end Scan

open Scan (run_bind_of run_rest_bind run_blanks run_number_padded)

theorem run_lenientChar {c : Char} (hc : Text.isBlank c = false) (after : List Char) :
    (lenientChar c).run (c :: after) = .ok ((), after) := by
  rw [lenientChar, run_bind_of (run_blanks hc after), Scan.char, Scan.oneOf, run_rest_bind]
  simp
  rfl

/-- Two digits in their range are read, with no blank before them. -/
theorem run_lenientNumber {low high n : Nat} (hlow : low ≤ n) (hhigh : n ≤ high) (hn : n < 100)
    {c : Char} (hc : digit? c = none) (after : List Char) :
    (lenientNumber low high).run (padded 2 n ++ c :: after) = .ok (n, c :: after) := by
  obtain ⟨d, ds, hpadded, hd⟩ := exists_padded_eq_cons 2 n
  have hblanks : Scan.blanks.run (padded 2 n ++ c :: after) = .ok ((), padded 2 n ++ c :: after) := by
    rw [hpadded]
    exact run_blanks (Scan.isBlank_of_isDigit hd) _
  have hnumber : (Scan.number 1 (some 2)).run (padded 2 n ++ c :: after) = .ok (n, c :: after) :=
    run_number_padded (by decide) (by simp [length_padded, hn]) hc after
  rw [lenientNumber, run_bind_of hblanks, run_bind_of hnumber, Scan.ranged, if_pos ⟨hlow, hhigh⟩]
  rfl

theorem run_lenientYear_minus {n : Nat} {s t : List Char}
    (h : (Scan.number 1 none).run s = .ok (n, t)) : lenientYear.run ('-' :: s) = .ok (-(n : Int), t) := by
  have hread : lenientYear.run ('-' :: s) =
      (Scan.number 1 none >>= fun n => pure (-(n : Int)) : Scan Int).run s := by
    rw [lenientYear, run_bind_of (run_blanks (by decide) _)]
    rfl
  rw [hread, run_bind_of h]
  rfl

theorem run_lenientYear_plus {n : Nat} {s t : List Char}
    (h : (Scan.number 1 none).run s = .ok (n, t)) : lenientYear.run ('+' :: s) = .ok ((n : Int), t) := by
  have hread : lenientYear.run ('+' :: s) =
      (Scan.number 1 none >>= fun n => pure (n : Int) : Scan Int).run s := by
    rw [lenientYear, run_bind_of (run_blanks (by decide) _)]
    rfl
  rw [hread, run_bind_of h]
  rfl

theorem run_lenientYear_digit {n : Nat} {c : Char} {s t : List Char} (hc : c.isDigit)
    (h : (Scan.number 1 (some 4)).run (c :: s) = .ok (n, t)) :
    lenientYear.run (c :: s) = .ok ((n : Int), t) := by
  have hread : lenientYear.run (c :: s) =
      (Scan.number 1 (some 4) >>= fun n => pure (n : Int) : Scan Int).run (c :: s) := by
    rw [lenientYear, run_bind_of (run_blanks (Scan.isBlank_of_isDigit hc) _), run_rest_bind]
    split
    next heq => simp_all
    next heq => simp_all
    · rfl
  rw [hread, run_bind_of h]
  rfl

/-- A year is read up to the hyphen, whether it has a sign or not. -/
theorem run_lenientYear (y : Int) (after : List Char) :
    lenientYear.run (yearText y ++ '-' :: after) = .ok (y, '-' :: after) := by
  have hnumber (most : Option Nat) (hmost : ∀ k ∈ most, (padded 4 y.natAbs).length ≤ k) :
      (Scan.number 1 most).run (padded 4 y.natAbs ++ '-' :: after) = .ok (y.natAbs, '-' :: after) :=
    run_number_padded (by decide) hmost (by decide) after
  rw [yearText_eq, yearSign, List.append_assoc]
  by_cases hneg : y < 0
  · rw [if_pos hneg, List.singleton_append, run_lenientYear_minus (hnumber none (by simp))]
    rw [show -(y.natAbs : Int) = y by omega]
  rw [if_neg hneg]
  by_cases hshort : y ≤ 9999
  · obtain ⟨d, ds, hpadded, hd⟩ := exists_padded_eq_cons 4 y.natAbs
    have hlength : (padded 4 y.natAbs).length = 4 := length_padded (by decide) (by omega)
    have hfour := hnumber (some 4) (by simp [hlength])
    rw [if_pos hshort, List.nil_append]
    rw [hpadded, List.cons_append] at hfour ⊢
    rw [run_lenientYear_digit hd hfour, show (y.natAbs : Int) = y by omega]
  · rw [if_neg hshort, List.singleton_append, run_lenientYear_plus (hnumber none (by simp)),
      show (y.natAbs : Int) = y by omega]

/-- Digits after a point are read as nanoseconds. -/
theorem run_fraction_digits {width n : Nat} (hwidth : 0 < width) (hnine : width ≤ 9)
    (hn : n < 10 ^ width) (after : List Char) :
    Scan.fraction.run ('.' :: (padded width n ++ 'Z' :: after)) =
      .ok (n * 10 ^ (9 - width), 'Z' :: after) := by
  have hlength := length_padded hwidth hn
  have hdigits : (Scan.digits 1 (some 9)).run (padded width n ++ 'Z' :: after) =
      .ok ((padded width n).map fun c => c.toNat - '0'.toNat, 'Z' :: after) :=
    Scan.run_digits (fun d hd => isDigit_of_mem_padded hd) (by omega) (by simp [hlength, hnine])
      (by decide) after
  rw [Scan.fraction, run_rest_bind]
  simp only
  rw [Scan.run_set_bind, run_bind_of hdigits, List.length_map, hlength, Scan.foldl_values,
    ofDigitChars_padded]
  rfl

/-- A fraction is read up to the end of the time. -/
theorem run_fraction {n : Nat} (hn : n < nanosInSecond) (after : List Char) :
    Scan.fraction.run (fractionText n ++ 'Z' :: after) = .ok (n, 'Z' :: after) := by
  simp only [nanosInSecond] at hn
  unfold fractionText
  by_cases hzero : n = 0
  · rw [if_pos hzero, hzero]; rfl
  rw [if_neg hzero]
  by_cases hmillis : n % 1000000 = 0
  · rw [if_pos hmillis, List.cons_append, run_fraction_digits (by decide) (by decide) (by omega),
      show n / 1000000 * 10 ^ (9 - 3) = n by omega]
  rw [if_neg hmillis]
  by_cases hmicros : n % 1000 = 0
  · rw [if_pos hmicros, List.cons_append, run_fraction_digits (by decide) (by decide) (by omega),
      show n / 1000 * 10 ^ (9 - 6) = n by omega]
  · rw [if_neg hmicros, List.cons_append, run_fraction_digits (by decide) (by decide) (by omega),
      show n * 10 ^ (9 - 9) = n by omega]

/-! ## The whole -/

theorem run_lenientOffset : lenientOffset.run ['Z'] = .ok (0, []) := by decide

/-- The parts of an instant as they are written. A leap second is second 60. -/
def parts (t : Instant) : Parts where
  date := .ofDayNumber (t.seconds / secondsInDay)
  hour := (t.seconds % secondsInDay).toNat / 3600
  minute := (t.seconds % secondsInDay).toNat / 60 % 60
  second := (t.seconds % secondsInDay).toNat % 60 + t.nanos / nanosInSecond
  nanos := t.nanos % nanosInSecond
  offset := 0

theorem exists_fraction_eq_cons (n : Nat) :
    ∃ c after, fractionText n ++ ['Z'] = c :: after ∧ digit? c = none := by
  unfold fractionText
  split
  · exact ⟨'Z', [], rfl, by decide⟩
  split
  · exact ⟨'.', _, rfl, by decide⟩
  split
  · exact ⟨'.', _, rfl, by decide⟩
  · exact ⟨'.', _, rfl, by decide⟩

/-- The parts of an instant are found in its text, however many digits the fraction has. -/
theorem run_lenientParts_of (t : Instant) {fraction : List Char}
    (hfirst : ∃ c after, fraction ++ ['Z'] = c :: after ∧ digit? c = none)
    (hread : Scan.fraction.run (fraction ++ ['Z']) = .ok (t.nanos % nanosInSecond, ['Z'])) :
    lenientParts.run (t.secondsText ++ fraction ++ ['Z']) = .ok (t.parts, []) := by
  obtain ⟨hm1, hm2, hd1, hd2⟩ := Civil.Date.valid_ofDayNumber (t.seconds / secondsInDay)
  have hd31 := Nat.le_trans hd2 (Civil.daysInMonth_le _ _)
  obtain ⟨c, after, hfraction, hc⟩ := hfirst
  have hsecond : (t.seconds % secondsInDay).toNat % 60 + t.nanos / nanosInSecond ≤ 60 := by
    have hleap := t.leap
    have hnanos := t.nanos_lt
    simp only [Timestamp.LeapEndsMinute, secondsInDay, nanosInSecond] at *
    omega
  have hminute : (t.seconds % secondsInDay).toNat / 60 % 60 ≤ 59 := by omega
  have hhour : (t.seconds % secondsInDay).toNat / 3600 ≤ 23 := by
    simp only [secondsInDay]
    omega
  have hletter (s : List Char) : (Scan.oneOf ['t', 'T', ' ']).run ('T' :: s) = .ok ((), s) := rfl
  simp only [Timestamp.secondsText, List.append_assoc, List.cons_append]
  rw [lenientParts, run_bind_of (run_lenientYear _ _), run_bind_of (run_lenientChar (by decide) _),
    run_bind_of (run_lenientNumber hm1 hm2 (by omega) (by decide) _),
    run_bind_of (run_lenientChar (by decide) _),
    run_bind_of (run_lenientNumber hd1 hd31 (by omega) (by decide) _), run_bind_of (hletter _),
    run_bind_of (run_lenientNumber (Nat.zero_le _) hhour (by omega) (by decide) _),
    run_bind_of (run_lenientChar (by decide) _),
    run_bind_of (run_lenientNumber (Nat.zero_le _) hminute (by omega) (by decide) _),
    run_bind_of (run_lenientChar (by decide) _), hfraction,
    run_bind_of (run_lenientNumber (Nat.zero_le _) hsecond (by omega) hc _), ← hfraction,
    run_bind_of hread, run_bind_of (run_blanks (by decide) _), run_bind_of run_lenientOffset]
  rfl

theorem run_lenientParts (t : Instant) : lenientParts.run t.write = .ok (t.parts, []) :=
  t.run_lenientParts_of (exists_fraction_eq_cons _) (run_fraction (Nat.mod_lt _ (by decide)) [])

theorem run_lenientParts_full (t : Instant) : lenientParts.run t.writeFull = .ok (t.parts, []) := by
  have hnine : t.nanos % nanosInSecond < 10 ^ 9 := Nat.mod_lt _ (by decide)
  refine t.run_lenientParts_of ⟨'.', _, rfl, by decide⟩ ?_
  rw [List.cons_append, run_fraction_digits (by decide) (by decide) hnine, Nat.sub_self, Nat.pow_zero,
    Nat.mul_one]

theorem year_range (t : Instant) :
    firstYear ≤ t.parts.date.year ∧ t.parts.date.year ≤ lastYear := by
  have hfirst := t.first_le
  have hlast := t.le_last
  have hvalid : t.parts.date.Valid := Civil.Date.valid_ofDayNumber _
  have hday : t.parts.date.dayNumber = t.seconds / secondsInDay :=
    Civil.Date.dayNumber_ofDayNumber _
  have hstart : (Civil.Date.mk firstYear 1 1).dayNumber = -96465292 := by decide
  have hend : (Civil.Date.mk lastYear 12 31).dayNumber = 95026236 := by decide
  simp only [firstSecond, lastSecond, secondsInDay] at hfirst hlast hday
  refine Civil.Date.year_range hvalid ?_ ?_
  · rw [hstart, hday]
    omega
  · rw [hend, hday]
    omega

/-- The parts of an instant make up the instant. -/
theorem instant_parts (t : Instant) : t.parts.instant = .ok t := by
  have hvalid : t.parts.date.Valid := Civil.Date.valid_ofDayNumber _
  have hyears := t.year_range
  have hday : t.parts.date.dayNumber = t.seconds / secondsInDay :=
    Civil.Date.dayNumber_ofDayNumber _
  have hleap := t.leap
  have hnanos := t.nanos_lt
  have hoffset : t.parts.offset.natAbs < 86400 := show (0 : Int).natAbs < 86400 by decide
  rw [Parts.instant, assemble, if_pos ⟨hvalid, hyears.1, hyears.2, hoffset⟩, hday]
  simp only [Timestamp.LeapEndsMinute, parts, secondsInDay, nanosInSecond] at *
  -- only the parts of a leap second have second 60
  by_cases hlate : 1000000000 ≤ t.nanos
  · have hlast := hleap hlate
    have hsixty : (t.seconds % 86400).toNat % 60 + t.nanos / 1000000000 = 60 := by omega
    simp only [hsixty, if_true]
    rw [of?_eq_some_iff (t := t) |>.2 ⟨by omega, by omega⟩]
  · have hbelow : (t.seconds % 86400).toNat % 60 + t.nanos / 1000000000 ≠ 60 := by omega
    simp only [hbelow, if_false]
    rw [of?_eq_some_iff (t := t) |>.2 ⟨by omega, by omega⟩]

/-- An instant is read from every text in which its parts are found. -/
theorem readLenient?_of {t : Instant} {cs : List Char} (h : lenientParts.run cs = .ok (t.parts, [])) :
    readLenient? (String.ofList cs) = some t := by
  have hread : (do let p ← lenientParts; Scan.finish; return p : Scan Parts).run cs =
      .ok (t.parts, []) := by
    rw [run_bind_of h]
    rfl
  rw [readLenient?, readWith, String.toList_ofList, hread]
  change t.parts.instant.toOption = some t
  rw [instant_parts]
  rfl

end Instant

namespace Timestamp

open Instant (readLenient?)

/-- **The text of a timestamp is read as the instant that it is carried to.** -/
theorem readLenient?_render (t : Timestamp) : readLenient? t.render = some t.carry := by
  rw [render, ← write_carry]
  exact Instant.readLenient?_of t.carry.run_lenientParts

/-- The text of a timestamp with all digits of the fraction is read as that instant, too. -/
theorem readLenient?_writeFull (t : Timestamp) :
    readLenient? (String.ofList t.writeFull) = some t.carry := by
  rw [← writeFull_carry]
  exact Instant.readLenient?_of t.carry.run_lenientParts_full

end Timestamp

end CaseHerald
