import CaseHerald.Text.Numeral

/-!
# Punycode

A label of a domain name that holds other characters than ASCII is written in ASCII: first its ASCII
characters, then, in ascending order, where each of the others is to be inserted. The places are told
as differences, in numbers of variable length whose digits are letters and decimal digits. How long a
number is expected to be is adapted to the ones before it.
-/
namespace CaseHerald.Net.Punycode

/-- The number of digits. -/
def base : Nat := 36

/-- The digit with the value. -/
def digitChar (d : Nat) : Char :=
  if d < 26 then Char.ofNat ('a'.toNat + d) else Char.ofNat ('0'.toNat + (d - 26))

/-- The value of a digit, of either case. -/
def digitValue? (c : Char) : Option Nat :=
  if 'a' ≤ c ∧ c ≤ 'z' then some (c.toNat - 'a'.toNat)
  else if 'A' ≤ c ∧ c ≤ 'Z' then some (c.toNat - 'A'.toNat)
  else (Text.digit? c).map (· + 26)

/-- The least value of a digit after which another one follows, at a place whose weight is told by
`k`, under the expectation `bias`. -/
def threshold (k bias : Nat) : Nat :=
  if k ≤ bias then 1 else if bias + 26 ≤ k then 26 else k - bias

theorem threshold_pos (k bias : Nat) : 1 ≤ threshold k bias := by
  unfold threshold
  repeat' split
  all_goals omega

/-- Divides a difference until it is small; answers it with the weight of the divisions. -/
def settle (delta k : Nat) : Nat × Nat :=
  if 455 < delta then settle (delta / 35) (k + base) else (delta, k)
termination_by delta
decreasing_by exact Nat.div_lt_self (by omega) (by omega)

/-- The expectation after a difference, of which there have been `count`. The first one counts
less. -/
def adapt (delta count : Nat) (isFirst : Bool) : Nat :=
  let scaled := if isFirst then delta / 700 else delta / 2
  let (delta, k) := settle (scaled + scaled / count) 0
  k + base * delta / (delta + 38)

/-! ## Writing -/

/-- A difference as a number of variable length. -/
def writeNumber (bias k q : Nat) : List Char :=
  let t := threshold k bias
  if q < t then [digitChar q]
  else digitChar (t + (q - t) % (base - t)) :: writeNumber bias (k + base) ((q - t) / (base - t))
termination_by q
decreasing_by
  have h₁ := threshold_pos k bias
  have h₂ := Nat.div_le_self (q - threshold k bias) (base - threshold k bias)
  omega

/-- Where the writing stands: what has been written, the last one first, the difference so far, the
expectation, and the number of characters told. -/
structure Writing where
  written : List Char
  delta : Nat
  bias : Nat
  told : Nat

/-- Passes one character of the label, of which those equal to `code` are told now. -/
def Writing.pass (code basic : Nat) (w : Writing) (c : Char) : Writing :=
  if c.toNat < code then { w with delta := w.delta + 1 }
  else if c.toNat = code then
    { written := (writeNumber w.bias base w.delta).reverse ++ w.written
      delta := 0
      bias := adapt w.delta (w.told + 1) (w.told = basic)
      told := w.told + 1 }
  else w

/-- Tells the characters equal to each of the codes, where those below `from` have been told. -/
def writeCodes (label : List Char) (basic : Nat) : (next : Nat) → List Nat → Writing → Writing
  | _, [], w => w
  | next, code :: codes, w =>
    let w := { w with delta := w.delta + (code - next) * (w.told + 1) }
    let w := label.foldl (Writing.pass code basic) w
    writeCodes label basic (code + 1) codes { w with delta := w.delta + 1 }

/-- Whether the character is one of ASCII. -/
def isBasic (c : Char) : Bool := c.toNat < 0x80

/-- The expectation before the first difference. -/
def firstBias : Nat := 72

/-- The label in ASCII. -/
def encode (label : List Char) : List Char :=
  let basic := label.filter isBasic
  let codes := ((label.filter fun c => !isBasic c).map Char.toNat).mergeSort.eraseDups
  let w := writeCodes label basic.length 0x80 codes ⟨[], 0, firstBias, basic.length⟩
  (if basic.isEmpty then [] else basic ++ ['-']) ++ w.written.reverse

/-! ## Reading -/

/-- A number of variable length, and what follows it. -/
def readNumber (bias : Nat) : (k weight : Nat) → List Char → Option (Nat × List Char)
  | _, _, [] => none
  | k, weight, c :: rest =>
    match digitValue? c with
    | none => none
    | some d =>
      let t := threshold k bias
      if d < t then some (d * weight, rest)
      else (readNumber bias (k + base) (weight * (base - t)) rest).map fun r =>
        (d * weight + r.1, r.2)

theorem length_readNumber {bias k weight : Nat} {cs rest : List Char} {n : Nat}
    (h : readNumber bias k weight cs = some (n, rest)) : rest.length < cs.length := by
  fun_induction readNumber bias k weight cs generalizing n rest with
  | case1 => simp at h
  | case2 => simp at h
  | case3 => simp_all
  | case4 =>
    rename_i ih
    obtain ⟨⟨m, rest'⟩, h', heq⟩ := Option.map_eq_some_iff.1 h
    cases heq
    exact Nat.lt_succ_of_lt (ih h')

/-- The character with the code point, if there is one. -/
def charOf? (n : Nat) : Option Char :=
  if n < 0xD800 ∨ (0xE000 ≤ n ∧ n < 0x110000) then some (Char.ofNat n) else none

/-- Inserts the characters that are told, where `place` and `code` tell the last one. -/
def insertAll (label : List Char) (bias place code : Nat) (isFirst : Bool) (cs : List Char) :
    Option (List Char) :=
  match _h : cs with
  | [] => some label
  | _ :: _ =>
    match _h' : readNumber bias base 1 cs with
    | none => none
    | some (delta, rest) =>
      let count := label.length + 1
      let code := code + (place + delta) / count
      let place := (place + delta) % count
      match charOf? code with
      | none => none
      | some c =>
        insertAll (label.take place ++ c :: label.drop place) (adapt delta count isFirst) (place + 1)
          code false rest
termination_by cs.length
decreasing_by
  have h := length_readNumber _h'
  simp_all

/-- The characters before the last hyphen, and those after it. A hyphen in front ends nothing. -/
def splitLast (cs : List Char) : List Char × List Char :=
  let rest := (cs.reverse.takeWhile (· ≠ '-')).reverse
  let front := cs.take (cs.length - rest.length - 1)
  if front.isEmpty then ([], cs) else (front, rest)

/-- The most characters of a label that is read, and of one that is written. -/
def longestRead : Nat := 2000
def longestWritten : Nat := 1000

/-- The label that the ASCII characters stand for. -/
def decode? (cs : List Char) : Option (List Char) :=
  let (basic, rest) := splitLast cs
  if cs.length ≤ longestRead ∧ cs.all isBasic then insertAll basic firstBias 0 0x80 true rest
  else none

end CaseHerald.Net.Punycode
