import CaseHerald.Text.Octets
import Mathlib.Data.List.Infix
import Mathlib.Tactic.IntervalCases

/-!
# Encoded texts are read back

The octets of a text encode it without a gap: `ofOctets_octets`. The first octet of an encoding carries
the highest bits of the character and says how many octets follow, each with six bits more. The bounds
that the reader puts on the second octet hold because a character is encoded in the fewest octets and is
no surrogate. So a text begins with another one exactly if its octets do: `octets_prefix_iff`.
-/
namespace CaseHerald.Text

/-! ## Single octets -/

theorem lead_one {n : Nat} (h : n < 128) : lead (UInt8.ofNat n) = .whole (Char.ofNat n) := by
  have hsmall : UInt8.ofNat n < 0x80 := by
    rw [UInt8.lt_iff_toNat_lt, UInt8.toNat_ofNat', Nat.mod_eq_of_lt (by omega)]
    exact h
  rw [lead, if_pos hsmall, UInt8.toNat_ofNat', Nat.mod_eq_of_lt (by omega)]

theorem lead_two {n : Nat} (hleast : 2 ≤ n) (hmost : n < 32) :
    lead (UInt8.ofNat (n + 192)) = .begins ⟨n, 1, 0x80, 0xBF⟩ := by
  interval_cases n <;> rfl

theorem lead_three {n : Nat} (h : n < 16) :
    lead (UInt8.ofNat (n + 224)) =
      .begins ⟨n, 2, if n = 0 then 0xA0 else 0x80, if n = 13 then 0x9F else 0xBF⟩ := by
  interval_cases n <;> rfl

theorem lead_four {n : Nat} (h : n < 5) :
    lead (UInt8.ofNat (n + 240)) =
      .begins ⟨n, 3, if n = 0 then 0x90 else 0x80, if n = 4 then 0x8F else 0xBF⟩ := by
  interval_cases n <;> rfl

variable {bits missing n : Nat} (rest : Octets)

/-- An octet that follows adds its six bits. -/
theorem readFrom_second {low high : UInt8} (hn : n < 64) (hlow : low.toNat ≤ n + 128)
    (hhigh : n + 128 ≤ high.toNat) :
    readFrom (some ⟨bits, missing, low, high⟩) (UInt8.ofNat (n + 128) :: rest) =
      if missing ≤ 1 then some (Char.ofNat (bits * 64 + n)) :: readFrom none rest
      else readFrom (some ⟨bits * 64 + n, missing - 1, 0x80, 0xBF⟩) rest := by
  have hvalue : (UInt8.ofNat (n + 128)).toNat = n + 128 := by
    rw [UInt8.toNat_ofNat', Nat.mod_eq_of_lt (by omega)]
  have hwithin : low ≤ UInt8.ofNat (n + 128) ∧ UInt8.ofNat (n + 128) ≤ high := by
    rw [UInt8.le_iff_toNat_le, UInt8.le_iff_toNat_le, hvalue]
    exact ⟨hlow, hhigh⟩
  rw [readFrom, if_pos hwithin, hvalue, Nat.add_sub_cancel]

theorem readFrom_later (hn : n < 64) :
    readFrom (some ⟨bits, missing, 0x80, 0xBF⟩) (UInt8.ofNat (n + 128) :: rest) =
      if missing ≤ 1 then some (Char.ofNat (bits * 64 + n)) :: readFrom none rest
      else readFrom (some ⟨bits * 64 + n, missing - 1, 0x80, 0xBF⟩) rest :=
  readFrom_second rest hn (Nat.le_add_left _ _) (show n + 128 ≤ 191 by omega)

/-! ## Characters and texts -/

/-- The encoding of a character is read as that character. -/
theorem readFrom_utf8EncodeChar (c : Char) :
    readFrom none (String.utf8EncodeChar c ++ rest) = some c :: readFrom none rest := by
  have hvalid : c.val.toNat < 0xD800 ∨ 0xDFFF < c.val.toNat ∧ c.val.toNat < 0x110000 := c.valid
  have hback : Char.ofNat c.val.toNat = c := Char.ofNat_toNat c
  simp only [String.utf8EncodeChar]
  generalize c.val.toNat = v at hvalid hback
  split
  · rw [List.singleton_append, readFrom, lead_one (by omega), hback]
  split
  · have hbits : v / 64 % 32 * 64 + v % 64 = v := by omega
    simp only [List.cons_append, List.nil_append]
    rw [readFrom, lead_two (by omega) (by omega)]
    simp only
    rw [readFrom_later _ (by omega), if_pos (Nat.le_refl 1), hbits, hback]
  split
  · have hbits : (v / 4096 % 16 * 64 + v / 64 % 64) * 64 + v % 64 = v := by omega
    simp only [List.cons_append, List.nil_append]
    rw [readFrom, lead_three (by omega)]
    simp only
    rw [readFrom_second _ (by omega) ?low ?high, if_neg (by decide), readFrom_later _ (by omega),
      if_pos (Nat.le_refl 1), hbits, hback]
    -- three octets are for no less than 2048, and no surrogate has any
    case low => split <;> simp only [UInt8.reduceToNat] <;> omega
    case high => split <;> simp only [UInt8.reduceToNat] <;> omega
  · have hbits : ((v / 262144 % 8 * 64 + v / 4096 % 64) * 64 + v / 64 % 64) * 64 + v % 64 = v := by
      omega
    simp only [List.cons_append, List.nil_append]
    rw [readFrom, lead_four (by omega)]
    simp only
    rw [readFrom_second _ (by omega) ?low ?high, if_neg (by decide), readFrom_later _ (by omega),
      if_neg (by decide), readFrom_later _ (by omega), if_pos (Nat.le_refl 1), hbits, hback]
    -- four octets are for no less than 65536, and no character is above 1114111
    case low => split <;> simp only [UInt8.reduceToNat] <;> omega
    case high => split <;> simp only [UInt8.reduceToNat] <;> omega

/-- The encoding of a text is read as that text, whatever follows it. -/
theorem readFrom_octets (s : String) (rest : Octets) :
    readFrom none (octets s ++ rest) = gapless s ++ readFrom none rest := by
  rw [octets, gapless]
  induction s.toList with
  | nil => rfl
  | cons c cs ih =>
    rw [List.flatMap_cons, List.append_assoc, readFrom_utf8EncodeChar, ih, List.map_cons,
      List.cons_append]

/-- **The octets of a text are read as the text, without a gap.** -/
theorem ofOctets_octets (s : String) : ofOctets (octets s) = gapless s := by
  have h := readFrom_octets s []
  rwa [List.append_nil, readFrom, List.append_nil] at h

/-- A text begins with another one exactly if its octets do. -/
theorem octets_prefix_iff {a b : String} : octets a <+: octets b ↔ a.toList <+: b.toList := by
  constructor
  · rintro ⟨rest, hrest⟩
    have hread := congrArg ofOctets hrest
    rw [ofOctets_octets, ofOctets, readFrom_octets, gapless, gapless] at hread
    obtain ⟨cs, hbegins, hcs⟩ := List.prefix_map_iff.1 (Exists.intro _ hread)
    rwa [List.map_injective_iff.2 (Option.some_injective _) hcs]
  · rintro ⟨cs, hcs⟩
    refine ⟨cs.flatMap String.utf8EncodeChar, ?_⟩
    rw [octets, octets, ← hcs, List.flatMap_append]

end CaseHerald.Text
