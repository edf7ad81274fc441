import CaseHerald.Proofs.InstantText

/-!
# What the strict reader takes

The strict reader of instants takes the timestamps of RFC 3339 and some more: a space may stand for the
`T`, a minus sign for the hyphen of an offset, and any minute may have a leap second. `TimestampForm` says
how a timestamp is put together from digits and separators, `Parts.InRange` which parts are those of a day
and a time of day, and `Parts.At` which instant they are in UTC. Every timestamp has an instant
(`exists_denotes_iff`), and the reader yields it and takes nothing else (`readStrict_eq_ok_iff`).

## Main definitions

* `Instant.IsTimestamp s` : the text is a timestamp.
* `Instant.IsRfc3339 s` : the text is a timestamp without a minus sign.
* `Instant.Denotes s t` : the text is a timestamp of the instant.
-/
namespace CaseHerald.Instant

open Text (digit?)

/-! ## Timestamps -/

/-- Digits of a width, and the number that they are. -/
structure Numeral (width : Nat) (text : List Char) (n : Nat) : Prop where
  length_eq : text.length = width
  digits : ∀ c ∈ text, c.isDigit
  value_eq : n = Nat.ofDigitChars 10 text 0

/-- A fraction of a second, and its nanoseconds. What is less than one of them is passed over. -/
inductive FractionForm : List Char → Nat → Prop
  | absent : FractionForm [] 0
  | point {text : List Char} (some : text ≠ []) (digits : ∀ c ∈ text, c.isDigit) :
      FractionForm ('.' :: text) (Nat.ofDigitChars 10 text 0 * nanosInSecond / 10 ^ text.length)

/-- An offset from UTC, and its seconds. -/
inductive OffsetForm : List Char → Int → Prop
  | zulu {c : Char} (letter : c = 'Z' ∨ c = 'z') : OffsetForm [c] 0
  | ahead {hours minutes : List Char} {h m : Nat} (hour : Numeral 2 hours h)
      (minute : Numeral 2 minutes m) (lt : m < 60) :
      OffsetForm ('+' :: hours ++ ':' :: minutes) (h * 3600 + m * 60)
  | behind {c : Char} {hours minutes : List Char} {h m : Nat} (minus : c = '-' ∨ c = '\u2212')
      (hour : Numeral 2 hours h) (minute : Numeral 2 minutes m) (lt : m < 60) :
      OffsetForm (c :: hours ++ ':' :: minutes) (-(h * 3600 + m * 60))

/-- A date and a time with an offset, and their parts. -/
inductive TimestampForm : List Char → Parts → Prop
  | mk {year month day hour minute second fraction zone : List Char} {separator : Char}
      {y mo d h mi s nanos : Nat} {offset : Int} (years : Numeral 4 year y)
      (months : Numeral 2 month mo) (days : Numeral 2 day d) (separated : separator ∈ ['t', 'T', ' '])
      (hours : Numeral 2 hour h) (minutes : Numeral 2 minute mi) (seconds : Numeral 2 second s)
      (fractions : FractionForm fraction nanos) (zones : OffsetForm zone offset) :
      TimestampForm
        (year ++ '-' :: month ++ '-' :: day ++ separator :: hour ++ ':' :: minute ++ ':' :: second ++
          fraction ++ zone)
        ⟨⟨y, mo, d⟩, h, mi, s, nanos, offset⟩

/-- Whether the parts are a date and a time of day, and the offset is less than a day. Second 60 is a leap
second. -/
structure Parts.InRange (p : Parts) : Prop where
  date : p.date.Valid
  hour : p.hour ≤ 23
  minute : p.minute ≤ 59
  second : p.second ≤ 60
  offset : p.offset.natAbs < 86400

/-- Whether the parts are those of the instant. -/
structure Parts.At (p : Parts) (t : Instant) : Prop where
  seconds : t.seconds = p.date.dayNumber * secondsInDay +
    (p.hour * 3600 + p.minute * 60 + min p.second 59 : Nat) - p.offset
  nanos : t.nanos = p.nanos + if p.second = 60 then nanosInSecond else 0

/-- Whether the text is a timestamp. -/
def IsTimestamp (s : String) : Prop := ∃ p, TimestampForm s.toList p ∧ p.InRange

/-- Whether the text is a timestamp in the characters of RFC 3339, which are those of ASCII. -/
def IsRfc3339 (s : String) : Prop := IsTimestamp s ∧ ∀ c ∈ s.toList, c.toNat < 128

/-- Whether the text is a timestamp of the instant. -/
def Denotes (s : String) (t : Instant) : Prop := ∃ p, TimestampForm s.toList p ∧ p.InRange ∧ p.At t

/-! ## Reading digits -/

theorem isDigit_of_digit? {c : Char} {d : Nat} (h : digit? c = some d) : c.isDigit := by
  unfold digit? at h
  split at h
  next hc =>
    simp only [Char.isDigit, Bool.and_eq_true, decide_eq_true_eq]
    exact ⟨hc.1, hc.2⟩
  next => cases h

theorem isSome_digit? {c : Char} : (digit? c).isSome ↔ c.isDigit := by
  constructor
  · intro h
    obtain ⟨d, hd⟩ := Option.isSome_iff_exists.1 h
    exact isDigit_of_digit? hd
  · intro h
    rw [digit?_of_isDigit h]
    rfl

namespace Scan

variable {α β : Type} {cs left : List Char}

/-- Two readers one after another yield something just if both do. -/
theorem run_bind_iff {p : Scan α} {f : α → Scan β} {b : β} : (p >>= f).run cs = .ok (b, left) ↔
    ∃ a mid, p.run cs = .ok (a, mid) ∧ (f a).run mid = .ok (b, left) := by
  rw [StateT.run_bind]
  cases hp : p.run cs with
  | error fault =>
    refine iff_of_false (fun h => ?_) fun ⟨_, _, h, _⟩ => ?_
    · cases h
    · cases h
  | ok r =>
    refine ⟨fun h => ⟨r.1, r.2, rfl, h⟩, fun ⟨_, _, hr, h⟩ => ?_⟩
    cases hr
    exact h

theorem run_pure_iff {a b : α} : (pure a : Scan α).run cs = .ok (b, left) ↔ b = a ∧ left = cs := by
  constructor
  · intro h
    cases h
    exact ⟨rfl, rfl⟩
  · rintro ⟨rfl, rfl⟩
    rfl

theorem run_throw_iff {fault : Fault} {b : α} :
    (throw fault : Scan α).run cs = .ok (b, left) ↔ False := iff_of_false nofun id

theorem run_rest_iff {f : List Char → Scan β} {b : β} :
    (rest >>= f).run cs = .ok (b, left) ↔ (f cs).run cs = .ok (b, left) := Iff.rfl

/-- A reader that a test comes before. -/
theorem run_guard_iff {c : Prop} [Decidable c] {fault : Fault} {p : Unit → Scan α} {b : α} :
    (if c then throw fault >>= p else p ()).run cs = .ok (b, left) ↔
      ¬c ∧ (p ()).run cs = .ok (b, left) := by
  by_cases h : c
  · rw [if_pos h]
    exact iff_of_false nofun fun hn => hn.1 h
  · rw [if_neg h]
    exact ⟨fun hp => ⟨h, hp⟩, fun hp => hp.2⟩

theorem run_oneOf_iff {options : List Char} {u : Unit} :
    (oneOf options).run cs = .ok (u, left) ↔ ∃ c ∈ options, cs = c :: left := by
  cases cs with
  | nil => exact iff_of_false nofun fun ⟨_, _, h⟩ => nomatch h
  | cons d ds =>
    have hread : (oneOf options).run (d :: ds) =
        (if options.contains d then set ds else throw .invalid : Scan Unit).run (d :: ds) := rfl
    rw [hread]
    by_cases hd : options.contains d
    · rw [if_pos hd]
      constructor
      · intro h
        cases h
        exact ⟨d, by simpa using hd, rfl⟩
      · rintro ⟨c, -, h⟩
        cases h
        rfl
    · rw [if_neg hd]
      refine iff_of_false nofun fun ⟨c, hc, h⟩ => hd ?_
      cases h
      simpa using hc

theorem run_char_iff {c : Char} {u : Unit} : (char c).run cs = .ok (u, left) ↔ cs = c :: left := by
  rw [char, run_oneOf_iff]
  simp

/-- All of a text is digits if as many of them stand at its front. -/
theorem all_isDigit_of_length_le {front : List Char}
    (h : front.length ≤ ((front.map digit?).takeWhile Option.isSome).length) :
    ∀ c ∈ front, c.isDigit := by
  have htaken : (front.map digit?).takeWhile Option.isSome = front.map digit? := by
    refine (List.takeWhile_prefix _).eq_of_length_le ?_
    rw [List.length_map]
    exact h
  intro c hc
  exact isSome_digit?.1 (List.takeWhile_eq_self_iff.1 htaken _ (List.mem_map_of_mem hc))

theorem map_digit?_of_isDigit {front : List Char} (h : ∀ c ∈ front, c.isDigit) :
    front.map digit? = (front.map fun c => c.toNat - '0'.toNat).map some := by
  rw [List.map_map]
  exact List.map_congr_left fun c hc => digit?_of_isDigit (h c hc)

theorem takeWhile_of_isDigit {front : List Char} (h : ∀ c ∈ front, c.isDigit) :
    (front.map digit?).takeWhile Option.isSome =
      (front.map fun c => c.toNat - '0'.toNat).map some := by
  have htaken := takeWhile_digits (t := []) h (by simp)
  rw [List.append_nil] at htaken
  rw [htaken, map_digit?_of_isDigit h]

/-- Digits of a width are read, whatever follows. -/
theorem run_digits_iff {n : Nat} {ds : List Nat} : (digits n (some n)).run cs = .ok (ds, left) ↔
    ∃ text, text.length = n ∧ (∀ c ∈ text, c.isDigit) ∧ cs = text ++ left ∧
      ds = text.map fun c => c.toNat - '0'.toNat := by
  rw [digits, run_rest_iff]
  constructor
  · intro h
    split at h
    next =>
      simp only at h
      split at h
      next => cases h
      next hlength =>
        have hle : (cs.take n).length ≤ n := List.length_take_le n cs
        have hall : ∀ c ∈ cs.take n, c.isDigit := all_isDigit_of_length_le (by omega)
        simp only [takeWhile_of_isDigit hall, List.length_map] at h hlength
        have hn : (cs.take n).length = n := by omega
        rw [hn] at h
        cases h
        refine ⟨cs.take n, hn, hall, (List.take_append_drop n cs).symm, ?_⟩
        simp
    next => cases h
  · rintro ⟨text, rfl, hdigits, rfl, rfl⟩
    have hholds : holdsOctets text.length (text ++ left) = true :=
      holdsOctets_of_le_length (by rw [List.length_append]; omega)
    rw [if_pos hholds]
    simp only [List.take_left, takeWhile_of_isDigit hdigits, List.length_map, Nat.lt_irrefl, if_false,
      List.drop_left]
    rw [List.filterMap_map, Function.id_comp, List.filterMap_some]
    rfl

/-- A number of a width is read, whatever follows. -/
theorem run_number_iff {n k : Nat} : (number n (some n)).run cs = .ok (k, left) ↔
    ∃ text, Numeral n text k ∧ cs = text ++ left := by
  rw [number, run_bind_iff]
  constructor
  · rintro ⟨ds, mid, hdigits, hk⟩
    obtain ⟨text, hlength, hall, rfl, rfl⟩ := run_digits_iff.1 hdigits
    obtain ⟨rfl, rfl⟩ := run_pure_iff.1 hk
    exact ⟨text, ⟨hlength, hall, foldl_values text⟩, rfl⟩
  · rintro ⟨text, ⟨hlength, hall, rfl⟩, rfl⟩
    refine ⟨_, left, run_digits_iff.2 ⟨text, hlength, hall, rfl, rfl⟩, run_pure_iff.2 ⟨?_, rfl⟩⟩
    exact (foldl_values text).symm

/-! ## Fractions -/

theorem ofDigitChars_lt {text : List Char} (h : ∀ c ∈ text, c.isDigit) :
    Nat.ofDigitChars 10 text 0 < 10 ^ text.length := by
  induction text with
  | nil => decide
  | cons c text ih =>
    have hlow := ih fun d hd => h d (List.mem_cons_of_mem c hd)
    have hc := h c List.mem_cons_self
    simp only [Char.isDigit, Bool.and_eq_true, decide_eq_true_eq] at hc
    have hnine : c.toNat - '0'.toNat ≤ 9 := by
      have hle : c.toNat ≤ 57 := hc.2
      have hzero : '0'.toNat = 48 := rfl
      omega
    rw [Nat.ofDigitChars_cons, Nat.ofDigitChars_eq_ofDigitChars_zero, List.length_cons, Nat.pow_succ,
      Nat.mul_zero, Nat.zero_add]
    have hmul := Nat.mul_le_mul_left (10 ^ text.length) hnine
    omega

/-- The first nine digits of a fraction are its nanoseconds. -/
theorem nanos_eq {text : List Char} (h : ∀ c ∈ text, c.isDigit) :
    Nat.ofDigitChars 10 (text.take 9) 0 * 10 ^ (9 - (text.take 9).length) =
      Nat.ofDigitChars 10 text 0 * nanosInSecond / 10 ^ text.length := by
  have hsecond : nanosInSecond = 10 ^ 9 := rfl
  rw [hsecond]
  by_cases hlength : text.length ≤ 9
  · have hnine : 10 ^ 9 = 10 ^ (9 - text.length) * 10 ^ text.length := by
      rw [← Nat.pow_add, Nat.sub_add_cancel hlength]
    rw [List.take_of_length_le hlength, hnine, ← Nat.mul_assoc,
      Nat.mul_div_cancel _ (Nat.pow_pos (by decide))]
  · obtain ⟨k, hk⟩ : ∃ k, text.length = k + 9 := ⟨text.length - 9, by omega⟩
    have hfront : (text.take 9).length = 9 := by rw [List.length_take]; omega
    have hback : (text.drop 9).length = k := by rw [List.length_drop]; omega
    have hlow := ofDigitChars_lt fun c (hc : c ∈ text.drop 9) => h c (List.mem_of_mem_drop hc)
    rw [hback] at hlow
    -- the digits after the ninth are less than one nanosecond
    have hvalue : Nat.ofDigitChars 10 text 0 =
        10 ^ k * Nat.ofDigitChars 10 (text.take 9) 0 + Nat.ofDigitChars 10 (text.drop 9) 0 := by
      conv_lhs => rw [← List.take_append_drop 9 text]
      rw [Nat.ofDigitChars_append, Nat.ofDigitChars_eq_ofDigitChars_zero, hback]
    rw [hfront, hk, Nat.pow_add, Nat.mul_div_mul_right _ _ (by decide), hvalue,
      Nat.mul_add_div (Nat.pow_pos (by decide)), Nat.div_eq_of_lt hlow, Nat.sub_self, Nat.pow_zero,
      Nat.mul_one, Nat.add_zero]

theorem digit?_eq_none {c : Char} (h : ¬c.isDigit) : digit? c = none := by
  rw [← Option.not_isSome_iff_eq_none, isSome_digit?]
  exact h

/-- Of digits that come to an end, up to nine are read. -/
theorem run_digits_nine {text left : List Char} (hsome : text ≠ []) (hdigits : ∀ c ∈ text, c.isDigit)
    (hleft : ∀ c ∈ left.head?, ¬c.isDigit) :
    (digits 1 (some 9)).run (text ++ left) =
      .ok ((text.take 9).map fun c => c.toNat - '0'.toNat, text.drop 9 ++ left) := by
  have hfront : (text ++ left).take 9 = text.take 9 ++ left.take (9 - text.length) := List.take_append
  have htake : ∀ c ∈ text.take 9, c.isDigit := fun c hc => hdigits c (List.mem_of_mem_take hc)
  have hstop : ∀ c ∈ (left.take (9 - text.length)).head?, digit? c = none := by
    intro c hc
    rw [List.head?_take] at hc
    split at hc
    next => cases hc
    next => exact digit?_eq_none (hleft c hc)
  have htaken : (((text ++ left).take 9).map digit?).takeWhile Option.isSome =
      ((text.take 9).map fun c => c.toNat - '0'.toNat).map some := by
    rw [hfront, takeWhile_digits htake hstop, map_digit?_of_isDigit htake]
  have hpos : 0 < text.length := List.length_pos_iff.2 hsome
  have hholds : holdsOctets 1 (text ++ left) = true :=
    holdsOctets_of_le_length (by rw [List.length_append]; omega)
  have hdrop : (text ++ left).drop (text.take 9).length = text.drop 9 ++ left := by
    conv_lhs => rw [← List.take_append_drop 9 text, List.append_assoc]
    exact List.drop_left' (by simp)
  rw [digits, run_rest_bind, if_pos hholds]
  simp only [htaken, List.length_map, hdrop]
  rw [if_neg (by rw [List.length_take]; omega), List.filterMap_map, Function.id_comp,
    List.filterMap_some]
  rfl

/-- Digits after a point are read to their end. -/
theorem run_fraction_point {text left : List Char} (hsome : text ≠ []) (hdigits : ∀ c ∈ text, c.isDigit)
    (hleft : ∀ c ∈ left.head?, ¬c.isDigit) :
    fraction.run ('.' :: (text ++ left)) =
      .ok (Nat.ofDigitChars 10 text 0 * nanosInSecond / 10 ^ text.length, left) := by
  have hdrop : (text.drop 9 ++ left).dropWhile (fun c => (digit? c).isSome) = left := by
    rw [List.dropWhile_append_of_pos fun c hc => isSome_digit?.2 (hdigits c (List.mem_of_mem_drop hc))]
    cases left with
    | nil => rfl
    | cons c left => exact List.dropWhile_cons_of_neg fun hc => hleft c rfl (isSome_digit?.1 hc)
  rw [fraction, run_rest_bind]
  simp only
  rw [run_set_bind, run_bind_of (run_digits_nine hsome hdigits hleft), List.length_map, foldl_values,
    ← nanos_eq hdigits]
  change Except.ok (_, (text.drop 9 ++ left).dropWhile fun c => (digit? c).isSome) = _
  rw [hdrop]
  rfl

/-- What follows a fraction is neither a point nor a digit. -/
theorem run_fraction_of_form {text left : List Char} {n : Nat} (h : FractionForm text n)
    (hleft : ∀ c ∈ left.head?, c ≠ '.' ∧ ¬c.isDigit) : fraction.run (text ++ left) = .ok (n, left) := by
  cases h with
  | absent =>
    rw [List.nil_append, fraction, run_rest_bind]
    cases left with
    | nil => rfl
    | cons c left =>
      split
      next heq => exact absurd (List.cons.inj heq).1 (hleft c rfl).1
      next => rfl
  | point hsome hdigits => exact run_fraction_point hsome hdigits fun c hc => (hleft c hc).2

/-- Some digit has to be there to be read. -/
theorem run_digits_ne_ok (hcs : ∀ c ∈ cs.head?, ¬c.isDigit) (r : List Nat × List Char) :
    (digits 1 (some 9)).run cs ≠ .ok r := by
  intro h
  cases cs with
  | nil => cases h
  | cons c cs =>
    have hnone : (((c :: cs).take 9).map digit?).takeWhile Option.isSome = [] := by
      rw [List.take_succ_cons, List.map_cons, digit?_eq_none (hcs c rfl)]
      rfl
    have hholds : holdsOctets 1 (c :: cs) = true := holdsOctets_of_le_length (by simp)
    rw [digits, run_rest_bind, if_pos hholds] at h
    simp only [hnone] at h
    cases h

theorem form_of_run_fraction {n : Nat} (h : fraction.run cs = .ok (n, left)) :
    ∃ text, FractionForm text n ∧ cs = text ++ left := by
  have hread := h
  rw [fraction, run_rest_bind] at h
  split at h
  next ds =>
    have hsplit : ds.takeWhile Char.isDigit ++ ds.dropWhile Char.isDigit = ds :=
      List.takeWhile_append_dropWhile
    have hdigits : ∀ c ∈ ds.takeWhile Char.isDigit, c.isDigit := fun c hc => List.mem_takeWhile_imp hc
    have hstop : ∀ c ∈ (ds.dropWhile Char.isDigit).head?, ¬c.isDigit := by
      intro c hc
      have hnot := List.head?_dropWhile_not Char.isDigit ds
      rw [Option.mem_def.1 hc] at hnot
      simpa using hnot
    by_cases hsome : ds.takeWhile Char.isDigit = []
    · rw [hsome, List.nil_append] at hsplit
      rw [hsplit] at hstop
      obtain ⟨vs, mid, hvs, -⟩ := run_bind_iff.1 (run_set_bind _ ds _ ▸ h)
      exact absurd hvs (run_digits_ne_ok hstop _)
    · rw [← hsplit, run_fraction_point hsome hdigits hstop] at hread
      cases hread
      refine ⟨'.' :: ds.takeWhile Char.isDigit, .point hsome hdigits, ?_⟩
      rw [List.cons_append, hsplit]
  next =>
    cases h
    exact ⟨[], .absent, rfl⟩

/-! ## Offsets -/

theorem run_ranged_iff {low high n k : Nat} :
    (ranged low high n).run cs = .ok (k, left) ↔ low ≤ n ∧ n ≤ high ∧ k = n ∧ left = cs := by
  unfold ranged
  by_cases h : low ≤ n ∧ n ≤ high
  · rw [if_pos h, run_pure_iff]
    simp [h]
  · rw [if_neg h, run_throw_iff]
    exact iff_of_false id fun hn => h ⟨hn.1, hn.2.1⟩

theorem run_offsetSign_iff {negative : Bool} : offsetSign.run cs = .ok (negative, left) ↔
    ∃ c, cs = c :: left ∧ if negative then c = '-' ∨ c = '\u2212' else c = '+' := by
  cases cs with
  | nil => exact iff_of_false nofun fun ⟨_, h, _⟩ => nomatch h
  | cons c cs =>
    have hread : offsetSign.run (c :: cs) =
        (if c = '+' then pure false else if c = '-' ∨ c = '\u2212' then pure true
          else throw .invalid : Scan Bool).run cs := rfl
    rw [hread]
    by_cases hplus : c = '+'
    · subst hplus
      rw [if_pos rfl, run_pure_iff]
      cases negative <;> simp [eq_comm]
    rw [if_neg hplus]
    by_cases hminus : c = '-' ∨ c = '\u2212'
    · rw [if_pos hminus, run_pure_iff]
      cases negative <;> simp [eq_comm, hplus, hminus]
    · rw [if_neg hminus, run_throw_iff]
      refine iff_of_false id fun ⟨d, hd, hsign⟩ => ?_
      cases hd
      cases negative
      · exact hplus (by simpa using hsign)
      · exact hminus (by simpa using hsign)

/-- The seconds of an offset. -/
theorem run_offset_signed_iff {c : Char} {ds : List Char} {k : Int} (hz : c ≠ 'Z') (hsmall : c ≠ 'z') :
    (offset (char ':')).run (c :: ds) = .ok (k, left) ↔
      ∃ (negative : Bool) (hours minutes : List Char) (h m : Nat), (if negative then c = '-' ∨ c = '\u2212' else c = '+') ∧
        Numeral 2 hours h ∧ Numeral 2 minutes m ∧ m < 60 ∧ ds = hours ++ ':' :: (minutes ++ left) ∧
        k = if negative then -((h : Int) * 3600 + m * 60) else (h : Int) * 3600 + m * 60 := by
  have hread : (offset (char ':')).run (c :: ds) = (do
      let negative ← offsetSign
      let hours ← number 2 (some 2)
      char ':'
      let minutes ← number 2 (some 2) >>= ranged 0 59
      let seconds : Int := hours * 3600 + minutes * 60
      return if negative then -seconds else seconds : Scan Int).run (c :: ds) := by
    rw [offset, run_rest_bind]
    split
    next heq => exact absurd (List.cons.inj heq).1 hz
    next heq => exact absurd (List.cons.inj heq).1 hsmall
    next => rfl
  rw [hread]
  simp only [run_bind_iff, run_offsetSign_iff, run_number_iff, run_char_iff, run_ranged_iff, run_pure_iff]
  constructor
  · rintro ⟨negative, _, ⟨_, hd, hc⟩, h, _, ⟨hours, hhour, rfl⟩, _, _, rfl, m, _,
      ⟨_, _, ⟨minutes, hminute, rfl⟩, -, hle, rfl, rfl⟩, rfl, rfl⟩
    cases hd
    exact ⟨negative, hours, minutes, h, m, hc, hhour, hminute, by omega, rfl, rfl⟩
  · rintro ⟨negative, hours, minutes, h, m, hc, hhour, hminute, hlt, rfl, rfl⟩
    exact ⟨negative, _, ⟨c, rfl, hc⟩, h, _, ⟨hours, hhour, rfl⟩, (), _, rfl, m, _,
      ⟨m, _, ⟨minutes, hminute, rfl⟩, Nat.zero_le m, by omega, rfl, rfl⟩, rfl, rfl⟩

theorem run_offset_iff {k : Int} : (offset (char ':')).run cs = .ok (k, left) ↔
    ∃ text, OffsetForm text k ∧ cs = text ++ left := by
  constructor
  · intro h
    cases cs with
    | nil => cases h
    | cons c cs =>
      by_cases hz : c = 'Z' ∨ c = 'z'
      · refine ⟨[c], ?_⟩
        rcases hz with rfl | rfl <;> cases h
        · exact ⟨.zulu (.inl rfl), rfl⟩
        · exact ⟨.zulu (.inr rfl), rfl⟩
      · rw [not_or] at hz
        obtain ⟨negative, hours, minutes, h, m, hc, hhour, hminute, hlt, rfl, rfl⟩ :=
          (run_offset_signed_iff hz.1 hz.2).1 h
        refine ⟨c :: hours ++ ':' :: minutes, ?_, by simp⟩
        cases negative with
        | false =>
          obtain rfl : c = '+' := by simpa using hc
          exact .ahead hhour hminute hlt
        | true => exact .behind (by simpa using hc) hhour hminute hlt
  · rintro ⟨text, hform, rfl⟩
    cases hform with
    | zulu letter => rcases letter with rfl | rfl <;> rfl
    | @ahead hours minutes h m hour minute lt =>
      rw [List.cons_append, List.cons_append, run_offset_signed_iff (by decide) (by decide)]
      exact ⟨false, hours, minutes, h, m, rfl, hour, minute, lt, by simp, rfl⟩
    | @behind c hours minutes h m minus hour minute lt =>
      rw [List.cons_append, List.cons_append, run_offset_signed_iff (by rintro rfl; simp at minus)
        (by rintro rfl; simp at minus)]
      exact ⟨true, hours, minutes, h, m, minus, hour, minute, lt, by simp, rfl⟩

end Scan

/-! ## Whole texts -/

open Scan (run_bind_iff run_number_iff run_char_iff run_oneOf_iff run_guard_iff run_pure_iff run_offset_iff
  run_rest_iff)

/-- What an offset begins with. -/
theorem OffsetForm.head_ne {text : List Char} {k : Int} (h : OffsetForm text k) :
    ∀ c ∈ text.head?, c ≠ '.' ∧ ¬c.isDigit := by
  cases h with
  | zulu letter => rcases letter with rfl | rfl <;> simp
  | ahead => simp
  | behind minus => rcases minus with rfl | rfl <;> simp

/-- A timestamp is longer than its date and time to the second. -/
theorem TimestampForm.wholePart_le {cs : List Char} {p : Parts} (h : TimestampForm cs p) :
    wholePart ≤ cs.length := by
  obtain ⟨years, months, days, -, hours, minutes, seconds, -, -⟩ := h
  simp only [List.length_append, List.length_cons, years.length_eq, months.length_eq, days.length_eq,
    hours.length_eq, minutes.length_eq, seconds.length_eq, wholePart]
  omega

/-- **The reader of the parts takes the timestamps**, if the calendar has the date and the clock the
time. -/
theorem run_strictParts_iff {cs : List Char} {p : Parts} :
    strictParts.run cs = .ok (p, []) ↔
      TimestampForm cs p ∧ p.date.Valid ∧ p.hour ≤ 23 ∧ p.minute ≤ 59 ∧ p.second ≤ 60 := by
  rw [strictParts, run_rest_iff]
  simp only [run_guard_iff, run_bind_iff, run_number_iff, run_char_iff, run_oneOf_iff, run_pure_iff,
    run_offset_iff]
  constructor
  · rintro ⟨-, y, _, ⟨year, years, rfl⟩, _, _, rfl, mo, _, ⟨month, months, rfl⟩, _, _, rfl, d, _,
      ⟨day, days, rfl⟩, hvalid, _, _, ⟨separator, separated, rfl⟩, h, _, ⟨hour, hours, rfl⟩, _, _, rfl,
      mi, _, ⟨minute, minutes, rfl⟩, _, _, rfl, s, _, ⟨second, seconds, rfl⟩, nanos, _, hfraction,
      hclock, offset, _, ⟨zone, zones, rfl⟩, rfl, rfl⟩
    obtain ⟨fraction, fractions, rfl⟩ := Scan.form_of_run_fraction hfraction
    have hranges : h ≤ 23 ∧ mi ≤ 59 ∧ s ≤ 60 := by omega
    refine ⟨?_, not_not.1 hvalid, hranges⟩
    have hform := TimestampForm.mk years months days separated hours minutes seconds fractions zones
    simpa using hform
  · rintro ⟨hform, hvalid, hhour, hminute, hsecond⟩
    have hlength := hform.wholePart_le
    cases hform with
    | @mk year month day hour minute second fraction zone separator y mo d h mi s nanos offset years months days
        separated hours minutes seconds fractions zones =>
      refine ⟨by simpa using Scan.holdsOctets_of_le_length hlength, y, _, ⟨year, years, by simp⟩, (), _, rfl,
        mo, _, ⟨month, months, rfl⟩, (), _, rfl, d, _, ⟨day, days, rfl⟩, not_not.2 hvalid, (), _,
        ⟨separator, separated, rfl⟩, h, _, ⟨hour, hours, rfl⟩, (), _, rfl, mi, _, ⟨minute, minutes, rfl⟩,
        (), _, rfl, s, _, ⟨second, seconds, rfl⟩, nanos, zone,
        Scan.run_fraction_of_form fractions zones.head_ne, by simp only at *; omega, offset, [],
        ⟨zone, zones, (List.append_nil zone).symm⟩, rfl, rfl⟩

theorem run_finish_iff {cs left : List Char} {u : Unit} :
    Scan.finish.run cs = .ok (u, left) ↔ cs = [] ∧ left = [] := by
  rw [Scan.finish, run_rest_iff]
  cases cs with
  | nil =>
    refine ⟨fun h => ?_, fun h => ?_⟩
    · cases h
      exact ⟨rfl, rfl⟩
    · rw [h.2]
      rfl
  | cons c cs => exact iff_of_false nofun nofun

/-- The instant of parts, if the calendar has the date and the clock the time. -/
theorem Parts.instant_eq_ok_iff {p : Parts} {t : Instant} (hsecond : p.second ≤ 60)
    (hfirst : firstYear ≤ p.date.year) (hlast : p.date.year ≤ lastYear) :
    p.instant = .ok t ↔ p.date.Valid ∧ p.offset.natAbs < 86400 ∧ p.At t := by
  rw [Parts.instant, assemble]
  by_cases hin : p.date.Valid ∧ p.offset.natAbs < 86400
  · rw [if_pos ⟨hin.1, hfirst, hlast, hin.2⟩]
    have hclock : (if p.second = 60 then 59 else p.second) = min p.second 59 := by
      split <;> omega
    have hnanos : (if p.second = 60 then p.nanos + nanosInSecond else p.nanos) =
        p.nanos + if p.second = 60 then nanosInSecond else 0 := by
      split <;> rfl
    simp only [hclock, hnanos]
    constructor
    · intro h
      split at h
      next hof =>
        cases h
        obtain ⟨hseconds, hfraction⟩ := of?_eq_some_iff.1 hof
        exact ⟨hin.1, hin.2, hseconds, hfraction⟩
      next => cases h
    · rintro ⟨-, -, hseconds, hfraction⟩
      rw [of?_eq_some_iff.2 ⟨hseconds, hfraction⟩]
  · rw [if_neg fun h => hin ⟨h.1, h.2.2.2⟩]
    refine iff_of_false (fun h => ?_) fun h => hin ⟨h.1, h.2.1⟩
    cases h

theorem TimestampForm.year_lt {cs : List Char} {p : Parts} (h : TimestampForm cs p) :
    0 ≤ p.date.year ∧ p.date.year < 10000 := by
  obtain ⟨years, -, -, -, -, -, -, -, -⟩ := h
  have hlt := Scan.ofDigitChars_lt years.digits
  rw [← years.value_eq, years.length_eq] at hlt
  constructor
  · exact Int.natCast_nonneg _
  · simp only
    omega

theorem TimestampForm.year_range {cs : List Char} {p : Parts} (h : TimestampForm cs p) :
    firstYear ≤ p.date.year ∧ p.date.year ≤ lastYear := by
  have hyear := h.year_lt
  simp only [firstYear, lastYear]
  omega

/-- **The strict reader yields the instant of a timestamp**, and takes nothing else. -/
theorem readStrict_eq_ok_iff {s : String} {t : Instant} : readStrict s = .ok t ↔ Denotes s t := by
  have hall (p : Parts) (left : List Char) :
      (do let p ← strictParts; Scan.finish; return p : Scan Parts).run s.toList = .ok (p, left) ↔
        strictParts.run s.toList = .ok (p, []) ∧ left = [] := by
    simp only [run_bind_iff, run_finish_iff, run_pure_iff]
    constructor
    · rintro ⟨_, _, hp, _, _, ⟨rfl, rfl⟩, rfl, rfl⟩
      exact ⟨hp, rfl⟩
    · rintro ⟨hp, rfl⟩
      exact ⟨p, [], hp, (), [], ⟨rfl, rfl⟩, rfl, rfl⟩
  have hread : readStrict s = .ok t ↔ ∃ p, strictParts.run s.toList = .ok (p, []) ∧ p.instant = .ok t := by
    rw [readStrict, readWith]
    constructor
    · intro h
      cases hrun : (do let p ← strictParts; Scan.finish; return p : Scan Parts).run s.toList with
      | error fault =>
        rw [hrun] at h
        cases h
      | ok r =>
        rw [hrun] at h
        exact ⟨r.1, ((hall r.1 r.2).1 hrun).1, h⟩
    · rintro ⟨p, hp, ht⟩
      rw [(hall p []).2 ⟨hp, rfl⟩]
      exact ht
  rw [hread]
  constructor
  · rintro ⟨p, hp, ht⟩
    obtain ⟨hform, hvalid, hhour, hminute, hsecond⟩ := run_strictParts_iff.1 hp
    obtain ⟨hfirst, hlast⟩ := hform.year_range
    obtain ⟨-, hoffset, hat⟩ := (Parts.instant_eq_ok_iff hsecond hfirst hlast).1 ht
    exact ⟨p, hform, ⟨hvalid, hhour, hminute, hsecond, hoffset⟩, hat⟩
  · rintro ⟨p, hform, hin, hat⟩
    obtain ⟨hfirst, hlast⟩ := hform.year_range
    exact ⟨p, run_strictParts_iff.2 ⟨hform, hin.date, hin.hour, hin.minute, hin.second⟩,
      (Parts.instant_eq_ok_iff hin.second hfirst hlast).2 ⟨hin.date, hin.offset, hat⟩⟩

theorem FractionForm.nanos_lt {text : List Char} {n : Nat} (h : FractionForm text n) :
    n < nanosInSecond := by
  cases h with
  | absent => decide
  | point hsome hdigits =>
    rw [Nat.div_lt_iff_lt_mul (Nat.pow_pos (by decide)), Nat.mul_comm]
    exact Nat.mul_lt_mul_of_pos_left (Scan.ofDigitChars_lt hdigits) (by decide)

/-- An offset is a number of whole minutes. -/
theorem OffsetForm.emod_eq {text : List Char} {k : Int} (h : OffsetForm text k) : k % 60 = 0 := by
  cases h <;> omega

theorem TimestampForm.nanos_lt {cs : List Char} {p : Parts} (h : TimestampForm cs p) :
    p.nanos < nanosInSecond := by
  obtain ⟨-, -, -, -, -, -, -, fractions, -⟩ := h
  exact fractions.nanos_lt

theorem TimestampForm.offset_emod {cs : List Char} {p : Parts} (h : TimestampForm cs p) :
    p.offset % 60 = 0 := by
  obtain ⟨-, -, -, -, -, -, -, -, zones⟩ := h
  exact zones.emod_eq

theorem dayNumber_range {d : Civil.Date} (h : d.Valid) (hfirst : 0 ≤ d.year) (hlast : d.year < 10000) :
    -1000000 ≤ d.dayNumber ∧ d.dayNumber ≤ 4000000 := by
  obtain ⟨hm1, hm2, hd1, hd2⟩ := h
  have hd31 := Nat.le_trans hd2 (Civil.daysInMonth_le _ _)
  simp only [Civil.Date.dayNumber, Civil.daysPerEra, Civil.daysBefore1970]
  split <;> omega

/-- **Every timestamp is one of an instant.** -/
theorem exists_denotes_iff {s : String} : (∃ t, Denotes s t) ↔ IsTimestamp s := by
  constructor
  · rintro ⟨t, p, hform, hin, -⟩
    exact ⟨p, hform, hin⟩
  · rintro ⟨p, hform, hin⟩
    obtain ⟨hlow, hhigh⟩ := dayNumber_range hin.date hform.year_lt.1 hform.year_lt.2
    have hhour := hin.hour
    have hminute := hin.minute
    have hsecond := hin.second
    have hoffset := hin.offset
    have hminutes := hform.offset_emod
    have hnanos := hform.nanos_lt
    simp only [nanosInSecond] at hnanos
    refine ⟨⟨⟨p.date.dayNumber * secondsInDay +
        (p.hour * 3600 + p.minute * 60 + min p.second 59 : Nat) - p.offset,
      p.nanos + if p.second = 60 then nanosInSecond else 0, ?_, ?_, ?_⟩, ?_⟩, p, hform, hin, rfl, rfl⟩
    · simp only [firstSecond, secondsInDay]
      omega
    · simp only [lastSecond, secondsInDay]
      omega
    · simp only [nanosInSecond]
      split <;> omega
    · intro hleap
      simp only [secondsInDay]
      split at hleap
      next h60 => omega
      next => simp only [nanosInSecond] at hleap; omega

end CaseHerald.Instant
