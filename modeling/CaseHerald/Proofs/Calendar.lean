import CaseHerald.Instant.Civil

/-!
# Dates count days one to one

`Date.dayNumber_ofDayNumber` reads the number of a day back from its date, so that two days never
share a date. An era has 400 years; the year of a day within its era is found by taking out the leap
days, which `yearOfEra_spec` justifies.
-/
namespace CaseHerald.Civil

/-- The days of an era without the leap days before them. -/
def commonDays (day : Int) : Int := day - day / 1460 + day / 36524 - day / 146096

/-- The days of an era before a year of it. -/
def daysBefore (year : Int) : Int := 365 * year + year / 4 - year / 100

theorem commonDays_range {day : Int} (h0 : 0 ≤ day) (h1 : day < 146097) :
    0 ≤ commonDays day ∧ commonDays day < 146000 := by
  unfold commonDays
  have hpart : day / 1460 ≤ day := by omega
  have hcentury : day / 146096 ≤ day / 36524 := by omega
  refine ⟨by omega, ?_⟩
  by_cases hlast : day = 146096
  · subst hlast; decide
  · by_cases hlow : day < 145000
    · omega
    · have h3 : day / 36524 = 3 := by omega
      by_cases hmid : day < 146000
      · omega
      · omega

private theorem div_block_le {k e x : Int} (he : e < 2 * 1460) (hx : 0 ≤ x) :
    (1460 * k + e + x) / 1460 ≤ k + 1 + x := by
  omega

/-- A day lies no earlier than the year that its common days name. The year is given by its century,
its leap cycle and its place in that. -/
private theorem le_day {day c q r : Int} (h0 : 0 ≤ day) (h1 : day < 146097)
    (hq : 0 ≤ q ∧ q < 25) (hr : 0 ≤ r ∧ r < 4)
    (h : 365 * (100 * c + 4 * q + r) ≤ commonDays day) :
    36524 * c + 1461 * q + 365 * r ≤ day := by
  unfold commonDays at h
  refine Int.not_lt.1 fun hlt => ?_
  have hc : day / 36524 ≤ c := by omega
  have hd : 0 ≤ day / 146096 := by omega
  have hb : 25 * c + q ≤ day / 1460 + (36524 * c + 1461 * q + 365 * r - 1 - day) := by omega
  omega

/-- A day lies no later than the leap day of the year that its common days name. -/
private theorem day_le {day c q r : Int} (h1 : day < 146097)
    (hq : 0 ≤ q ∧ q < 25) (hr : 0 ≤ r ∧ r < 4)
    (h : commonDays day < 365 * (100 * c + 4 * q + r) + 365) :
    day ≤ 36524 * c + 1461 * q + 365 * r + 365 := by
  unfold commonDays at h
  refine Int.not_lt.1 fun hlt => ?_
  have hcentury : c + day / 146096 ≤ day / 36524 := by omega
  have hb := div_block_le (k := 25 * c + q) (e := 24 * c + q + 365 * r + 366)
    (x := day - (36524 * c + 1461 * q + 365 * r + 366)) (by omega) (by omega)
  have hsum : 1460 * (25 * c + q) + (24 * c + q + 365 * r + 366) +
      (day - (36524 * c + 1461 * q + 365 * r + 366)) = day := by omega
  rw [hsum] at hb
  omega

/-- The common days of a day name its year in the era: the day is one of that year's. -/
theorem yearOfEra_spec {day : Int} (h0 : 0 ≤ day) (h1 : day < 146097) :
    0 ≤ commonDays day / 365 ∧ commonDays day / 365 < 400 ∧
      daysBefore (commonDays day / 365) ≤ day ∧
      day ≤ daysBefore (commonDays day / 365) + 365 := by
  obtain ⟨hlow, hhigh⟩ := commonDays_range h0 h1
  obtain ⟨year, hyear⟩ : ∃ year, year = commonDays day / 365 := ⟨_, rfl⟩
  rw [← hyear]
  have hparts : year = 100 * (year / 100) + 4 * (year % 100 / 4) + year % 4 := by omega
  have hbefore : daysBefore year =
      36524 * (year / 100) + 1461 * (year % 100 / 4) + 365 * (year % 4) := by
    unfold daysBefore; omega
  rw [hbefore]
  refine ⟨by omega, by omega, ?_, ?_⟩
  · exact le_day h0 h1 (by omega) (by omega) (by omega)
  · exact day_le h1 (by omega) (by omega) (by omega)

/-- The number of a date that is made from an era, a year of it and a day of the year. -/
private theorem dayNumber_parts (era day : Int) {year : Int} (hy : 0 ≤ year ∧ year < 400)
    (hd : 0 ≤ day ∧ day ≤ 365) {m : Int} (hm : m = (5 * day + 2) / 153) {month : Int}
    (hmonth : month = if m < 10 then m + 3 else m - 9) :
    Date.dayNumber ⟨if month ≤ 2 then year + era * 400 + 1 else year + era * 400, month.toNat,
      (day - (153 * m + 2) / 5 + 1).toNat⟩ =
      era * daysPerEra + (daysBefore year + day) - daysBefore1970 := by
  have hrange : 0 ≤ m ∧ m ≤ 11 := by omega
  simp only [Date.dayNumber, daysBefore, daysPerEra, daysBefore1970]
  by_cases hlate : m < 10
  · rw [if_pos hlate] at hmonth
    rw [if_neg (by omega), if_neg (by omega), if_neg (by omega)]
    omega
  · rw [if_neg hlate] at hmonth
    rw [if_pos (by omega), if_pos (by omega), if_pos (by omega)]
    omega

theorem Date.dayNumber_ofDayNumber (n : Int) : (Date.ofDayNumber n).dayNumber = n := by
  obtain ⟨day, hday⟩ : ∃ day, day = (n + daysBefore1970) % daysPerEra := ⟨_, rfl⟩
  have hsplit : (n + daysBefore1970) / daysPerEra * daysPerEra + day = n + daysBefore1970 := by
    rw [hday, Int.mul_comm]; exact Int.mul_ediv_add_emod _ _
  have hrange : 0 ≤ day ∧ day < 146097 := by unfold daysPerEra at hday; omega
  obtain ⟨hy0, hy1, hd0, hd1⟩ := yearOfEra_spec hrange.1 hrange.2
  have hparts := dayNumber_parts ((n + daysBefore1970) / daysPerEra)
    (day - daysBefore (commonDays day / 365)) ⟨hy0, hy1⟩ ⟨by omega, by omega⟩ rfl rfl
  subst hday
  exact hparts.trans (by omega)

/-! ## Every day has a date -/

/-- A year starts with the day that its common days name. -/
theorem commonDays_daysBefore {year : Int} (h0 : 0 ≤ year) (h1 : year < 400) :
    commonDays (daysBefore year) = 365 * year := by
  have hparts : year = 100 * (year / 100) + 4 * (year % 100 / 4) + year % 4 := by omega
  have hbefore : daysBefore year =
      36524 * (year / 100) + 1461 * (year % 100 / 4) + 365 * (year % 4) := by
    unfold daysBefore; omega
  unfold commonDays
  have hcentury : daysBefore year / 36524 = year / 100 := by omega
  have hcycle : daysBefore year / 1460 = 25 * (year / 100) + year % 100 / 4 := by omega
  have hera : daysBefore year / 146096 = 0 := by omega
  rw [hcentury, hcycle, hera]
  omega

/-- A year has a day 365 only if the next one, whose February it holds, is a leap year. -/
theorem isLeapYear_of_lastDay {day : Int} (h0 : 0 ≤ day) (h1 : day < 146097)
    (hday : day = daysBefore (commonDays day / 365) + 365) (era : Int) :
    isLeapYear (commonDays day / 365 + era * 400 + 1) = true := by
  obtain ⟨hy0, hy1, -, -⟩ := yearOfEra_spec h0 h1
  obtain ⟨year, hyear⟩ : ∃ year, year = commonDays day / 365 := ⟨_, rfl⟩
  rw [← hyear] at hday hy0 hy1 ⊢
  refine Decidable.byContradiction fun hleap => ?_
  have hcommon : year ≠ 399 ∧ daysBefore (year + 1) = daysBefore year + 365 := by
    simp only [isLeapYear, Bool.and_eq_true, Bool.or_eq_true, beq_iff_eq, bne_iff_ne] at hleap
    unfold daysBefore
    omega
  -- without a leap day the next year would already have begun
  have hnext : commonDays (daysBefore (year + 1)) = 365 * (year + 1) :=
    commonDays_daysBefore (by omega) (by omega)
  rw [hcommon.2, ← hday] at hnext
  omega

/-- The days of the months from March to January. -/
theorem daysInMonth_fromMarch (y : Int) {m : Nat} (h : m < 11) :
    daysInMonth y (if m < 10 then m + 3 else m - 9) =
      (153 * (m + 1) + 2) / 5 - (153 * m + 2) / 5 := by
  match m, h with
  | 0, _ | 1, _ | 2, _ | 3, _ | 4, _ | 5, _ | 6, _ | 7, _ | 8, _ | 9, _ | 10, _ => rfl

private theorem valid_parts (y : Int) {day : Int} (hd : 0 ≤ day ∧ day ≤ 365) {m : Int}
    (hm : m = (5 * day + 2) / 153) (hleap : day = 365 → isLeapYear (y + 1) = true) {month : Int}
    (hmonth : month = if m < 10 then m + 3 else m - 9) :
    Date.Valid ⟨if month ≤ 2 then y + 1 else y, month.toNat,
      (day - (153 * m + 2) / 5 + 1).toNat⟩ := by
  obtain ⟨k, rfl⟩ := Int.eq_ofNat_of_zero_le (a := m) (by omega)
  have hnat : month.toNat = if k < 10 then k + 3 else k - 9 := by split <;> split at hmonth <;> omega
  have hcast : (153 * (k : Int) + 2) / 5 = ((153 * k + 2) / 5 : Nat) := by omega
  have hlength : (day - (153 * (k : Int) + 2) / 5 + 1).toNat ≤
      daysInMonth (if month ≤ 2 then y + 1 else y) month.toNat := by
    by_cases hlast : k < 11
    · rw [hnat, daysInMonth_fromMarch _ hlast, hcast]
      omega
    · have hfebruary : month = 2 := by split at hmonth <;> omega
      rw [hfebruary, if_pos (by omega)]
      by_cases h365 : day = 365
      · have hdays : daysInMonth (y + 1) (2 : Int).toNat = 29 := if_pos (hleap h365)
        omega
      · have hdays : 28 ≤ daysInMonth (y + 1) (2 : Int).toNat := by
          change 28 ≤ if isLeapYear (y + 1) then 29 else 28
          split <;> omega
        omega
  refine ⟨?_, ?_, ?_, hlength⟩
  · simp only [hnat]; split <;> omega
  · simp only [hnat]; split <;> omega
  · simp only; omega

/-- The calendar has the date of every day. -/
theorem Date.valid_ofDayNumber (n : Int) : (Date.ofDayNumber n).Valid := by
  obtain ⟨day, hday⟩ : ∃ day, day = (n + daysBefore1970) % daysPerEra := ⟨_, rfl⟩
  have hrange : 0 ≤ day ∧ day < 146097 := by unfold daysPerEra at hday; omega
  obtain ⟨hy0, hy1, hd0, hd1⟩ := yearOfEra_spec hrange.1 hrange.2
  have hpart : 0 ≤ day - daysBefore (commonDays day / 365) ∧
      day - daysBefore (commonDays day / 365) ≤ 365 := ⟨by omega, by omega⟩
  have hvalid := valid_parts (commonDays day / 365 + (n + daysBefore1970) / daysPerEra * 400) hpart rfl
    (fun h => isLeapYear_of_lastDay hrange.1 hrange.2 (by omega) _) rfl
  subst hday
  exact hvalid

theorem daysInMonth_le (y : Int) (m : Nat) : daysInMonth y m ≤ 31 := by
  unfold daysInMonth
  split <;> (try split) <;> decide

/-- A date lies in the year that its day does. -/
theorem Date.year_range {d : Date} (h : d.Valid) {first last : Int}
    (hfirst : (Date.mk first 1 1).dayNumber ≤ d.dayNumber)
    (hlast : d.dayNumber ≤ (Date.mk last 12 31).dayNumber) : first ≤ d.year ∧ d.year ≤ last := by
  obtain ⟨year, month, day⟩ := d
  obtain ⟨hm1, hm2, hd1, hd2⟩ := h
  simp only [Date.dayNumber, daysPerEra, daysBefore1970] at hm1 hm2 hd1 hd2 hfirst hlast ⊢
  have hd31 : day ≤ 31 := Nat.le_trans hd2 (daysInMonth_le _ _)
  by_cases hearly : month ≤ 2
  · rw [if_pos hearly, if_pos hearly] at hfirst hlast
    omega
  · rw [if_neg hearly, if_neg hearly] at hfirst hlast
    omega

end CaseHerald.Civil
