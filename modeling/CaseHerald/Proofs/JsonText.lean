import CaseHerald.Json.Reader
import CaseHerald.Json.Writer
import Mathlib.Data.List.Basic

/-!
# A written document is read back

The writer puts no blanks between the parts of a document and the reader looks one character ahead,
so what a value is written as is read back whatever follows it: `readValue_write`. The reader counts
its steps down; a value takes no more of them than it has characters. Numbers are left out, since
where one ends depends on what follows.

## Main definitions

* `Document.raw v` - the document `v` as the reader yields it.
* `Document.Wordy v` - no part of `v` is a number.
-/
namespace CaseHerald.Json

open Text (Gapped gapless)

namespace Document

mutual

/-- The document as it is read. -/
def raw : Value → Raw
  | .null => .null
  | .bool b => .bool b
  | .number n => .number n
  | .text s => .text (some s)
  | .list items => .list (rawItems items)
  | .object fields => .object (rawFields fields)

/-- The items of a list as they are read. -/
def rawItems : List Value → List Raw
  | [] => []
  | v :: rest => v.raw :: rawItems rest

/-- The fields of an object as they are read. -/
def rawFields : List (String × Value) → List (Option String × Raw)
  | [] => []
  | (name, v) :: rest => (some name, v.raw) :: rawFields rest

end

mutual

/-- No part of the document is a number. -/
def Wordy : Value → Prop
  | .number _ => False
  | .list items => WordyItems items
  | .object fields => WordyFields fields
  | _ => True

/-- No part of an item is a number. -/
def WordyItems : List Value → Prop
  | [] => True
  | v :: rest => v.Wordy ∧ WordyItems rest

/-- No part of a field's value is a number. -/
def WordyFields : List (String × Value) → Prop
  | [] => True
  | (_, v) :: rest => v.Wordy ∧ WordyFields rest

end

theorem rawItems_eq_map (items : List Value) : rawItems items = items.map raw := by
  induction items with
  | nil => rfl
  | cons v rest ih => rw [rawItems, ih, List.map_cons]

theorem rawFields_eq_map (fields : List (String × Value)) :
    rawFields fields = fields.map fun f => (some f.1, f.2.raw) := by
  induction fields with
  | nil => rfl
  | cons f rest ih => rw [rawFields, ih, List.map_cons]

theorem wordyItems_iff {items : List Value} : WordyItems items ↔ ∀ v ∈ items, v.Wordy := by
  induction items with
  | nil => simp [WordyItems]
  | cons v rest ih => simp [WordyItems, ih]

end Document

open Document (raw rawItems rawFields Wordy WordyItems WordyFields)

/-! ## Strings -/

/-- The piece that a character of a string is read as. -/
def piece (c : Char) : Piece :=
  if c.toNat < 0x20 ∧ c ∉ ['\x08', '\x0c', '\n', '\r', '\t'] then .unit c.toNat else .char c

theorem hexDigit?_hexLetter (n : Nat) : Text.hexDigit? (hexLetter n) = some (n % 16) := by
  have hall : ∀ d < 16, Text.hexDigit? (Nat.digitChar d) = some d := by decide
  exact hall (n % 16) (Nat.mod_lt _ (by decide))

theorem hexUnit?_control {n : Nat} (h : n < 0x20) :
    hexUnit? '0' '0' (hexLetter (n / 16)) (hexLetter n) = some n := by
  have hzero : Text.hexDigit? '0' = some 0 := rfl
  simp only [hexUnit?, hzero, hexDigit?_hexLetter, Option.bind_eq_bind, Option.bind_some,
    Option.pure_def, Option.some.injEq]
  omega

theorem readPieces_plain {c : Char} (hquote : c ≠ '"') (hslash : c ≠ '\\') (hc : ¬c.toNat < 0x20)
    (rest : Gapped) :
    readPieces (some c :: rest) = (readPieces rest).map fun r => (.char c :: r.1, r.2) := by
  rw [readPieces.eq_def]
  split
  next heq => cases heq
  next heq => cases heq
  next heq => exact absurd (Option.some.inj (List.cons.inj heq).1) hslash
  next heq => exact absurd (Option.some.inj (List.cons.inj heq).1) hslash
  next heq => exact absurd (Option.some.inj (List.cons.inj heq).1) hquote
  next heq =>
    obtain ⟨hhead, rfl⟩ := List.cons.inj heq
    obtain rfl := Option.some.inj hhead
    exact if_neg fun h => h.elim hslash hc

theorem readPieces_escape (c : Char) (rest : Gapped) :
    readPieces ((escape c).map some ++ rest) =
      (readPieces rest).map fun r => (piece c :: r.1, r.2) := by
  unfold escape
  split
  next h => subst h; rfl
  split
  next h => subst h; rfl
  split
  next h => subst h; rfl
  split
  next h => subst h; rfl
  split
  next h => subst h; rfl
  split
  next h => subst h; rfl
  split
  next h => subst h; rfl
  next hquote hslash hb hf hn hr ht =>
    split
    next hctrl =>
      have hpiece : piece c = .unit c.toNat := if_pos ⟨hctrl, by simp [*]⟩
      simp [readPieces, hexUnit?_control hctrl, hpiece]
    next hctrl =>
      have hpiece : piece c = .char c := if_neg fun h => hctrl h.1
      rw [hpiece]
      exact readPieces_plain hquote hslash hctrl rest

theorem readPieces_writeText (cs : List Char) (rest : Gapped) :
    readPieces ((cs.flatMap escape ++ ['"']).map some ++ rest) = some (cs.map piece, rest) := by
  induction cs with
  | nil => rfl
  | cons c cs ih =>
    rw [List.flatMap_cons, List.append_assoc, List.map_append, List.append_assoc,
      readPieces_escape, ih]
    rfl

theorem joinPieces_unit {n : Nat} (h : n < 0xD800) (ps : List Piece) :
    joinPieces (.unit n :: ps) = (joinPieces ps).map (Char.ofNat n :: ·) := by
  have hlead : isLeadingHalf n = false := by simp [isLeadingHalf]; omega
  have htrail : isTrailingHalf n = false := by simp [isTrailingHalf]; omega
  rw [joinPieces.eq_def]
  split <;> simp_all

theorem joinPieces_piece (cs : List Char) : joinPieces (cs.map piece) = some cs := by
  induction cs with
  | nil => rfl
  | cons c cs ih =>
    rw [List.map_cons]
    by_cases h : c.toNat < 0x20 ∧ c ∉ ['\x08', '\x0c', '\n', '\r', '\t']
    · have hpiece : piece c = .unit c.toNat := if_pos h
      rw [hpiece, joinPieces_unit (by omega), ih, Char.ofNat_toNat]
      rfl
    · have hpiece : piece c = .char c := if_neg h
      rw [hpiece, joinPieces, ih]
      rfl

/-- A string is read up to its closing quote. -/
theorem readText_writeText (s : String) (rest : Gapped) :
    readText ((s.toList.flatMap escape ++ ['"']).map some ++ rest) = some (some s, rest) := by
  rw [readText, readPieces_writeText]
  simp [joinPieces_piece]

/-! ## Values -/

/-- The characters that a value can start with. -/
def openings : List Char := ['n', 't', 'f', '"', '[', '\x7b']

theorem skipBlanks_eq_self {c : Char} (h : ¬(c = ' ' ∨ c = '\n' ∨ c = '\t' ∨ c = '\r'))
    (rest : Gapped) : skipBlanks (some c :: rest) = some c :: rest := if_neg h

theorem skipBlanks_opening {c : Char} (h : c ∈ openings) (rest : Gapped) :
    skipBlanks (some c :: rest) = some c :: rest := by
  refine skipBlanks_eq_self ?_ rest
  simp only [openings, List.mem_cons, List.not_mem_nil, or_false] at h
  rcases h with rfl | rfl | rfl | rfl | rfl | rfl <;> decide

theorem skipBlanks_quote (s : Gapped) : skipBlanks (some '"' :: s) = some '"' :: s :=
  skipBlanks_opening (by decide) _

theorem skipBlanks_colon (s : Gapped) : skipBlanks (some ':' :: s) = some ':' :: s :=
  skipBlanks_eq_self (by decide) _

theorem exists_write_eq_cons {v : Value} (h : v.Wordy) :
    ∃ c cs, v.write = c :: cs ∧ c ∈ openings := by
  cases v with
  | null => exact ⟨_, _, rfl, by decide⟩
  | bool b => cases b <;> exact ⟨_, _, rfl, by decide⟩
  | number n => exact h.elim
  | text s => exact ⟨_, _, rfl, by decide⟩
  | list items => exact ⟨_, _, rfl, by decide⟩
  | object fields => exact ⟨_, _, rfl, by decide⟩

/-- A list that does not end at once has items. -/
theorem readValue_list {fuel : Nat} {c : Char} (hc : c ∈ openings) (s : Gapped) :
    readValue (fuel + 1) (some '[' :: some c :: s) =
      (readItems fuel (some c :: s)).map fun r => (.list r.1, r.2) := by
  have hblank : skipBlanks (some '[' :: some c :: s) = some '[' :: some c :: s :=
    skipBlanks_opening (by decide) _
  simp only [readValue, hblank, skipBlanks_opening hc]
  split
  next h =>
    obtain ⟨rfl, -⟩ : c = ']' ∧ _ := by simpa using h
    exact absurd hc (by decide)
  · rfl

theorem readValue_object (fuel : Nat) (s : Gapped) :
    readValue (fuel + 1) (some '\x7b' :: some '"' :: s) =
      (readFields fuel (some '"' :: s)).map fun r => (.object r.1, r.2) := by
  have hblank : skipBlanks (some '\x7b' :: some '"' :: s) = some '\x7b' :: some '"' :: s :=
    skipBlanks_opening (by decide) _
  simp only [readValue, hblank, skipBlanks_quote]
  split
  next h => cases h
  · rfl

theorem readValue_text (fuel : Nat) (s : Gapped) :
    readValue (fuel + 1) (some '"' :: s) = (readText s).map fun r => (.text r.1, r.2) := by
  simp only [readValue, skipBlanks_quote]

theorem readItems_last {fuel : Nat} {s rest : Gapped} {r : Raw}
    (h : readValue fuel s = some (r, some ']' :: rest)) :
    readItems (fuel + 1) s = some ([r], rest) := by
  rw [readItems, h]
  rfl

theorem readItems_more {fuel : Nat} {s rest : Gapped} {r : Raw}
    (h : readValue fuel s = some (r, some ',' :: rest)) :
    readItems (fuel + 1) s = (readItems fuel rest).map fun p => (r :: p.1, p.2) := by
  rw [readItems, h]
  rfl

theorem readFields_last {fuel : Nat} {s rest : Gapped} {r : Raw} (name : String)
    (h : readValue fuel s = some (r, some '\x7d' :: rest)) :
    readFields (fuel + 1) ((writeText name).map some ++ some ':' :: s) =
      some ([(some name, r)], rest) := by
  simp only [writeText, List.map_cons, List.cons_append, readFields, skipBlanks_quote,
    readText_writeText, skipBlanks_colon, h]
  rfl

theorem readFields_more {fuel : Nat} {s rest : Gapped} {r : Raw} (name : String)
    (h : readValue fuel s = some (r, some ',' :: rest)) :
    readFields (fuel + 1) ((writeText name).map some ++ some ':' :: s) =
      (readFields fuel rest).map fun p => ((some name, r) :: p.1, p.2) := by
  simp only [writeText, List.map_cons, List.cons_append, readFields, skipBlanks_quote,
    readText_writeText, skipBlanks_colon, h]
  rfl

/-- What the reader makes of written parts of a document when it may take this many steps. -/
structure ReadsBack (fuel : Nat) : Prop where
  value : ∀ (v : Value) (rest : Gapped), v.Wordy → v.write.length ≤ fuel →
    readValue fuel (v.write.map some ++ rest) = some (v.raw, rest)
  items : ∀ (item : Value) (items : List Value) (rest : Gapped), WordyItems (item :: items) →
    (Document.writeItems (item :: items)).length ≤ fuel →
    readItems fuel ((Document.writeItems (item :: items)).map some ++ rest) =
      some (rawItems (item :: items), rest)
  fields : ∀ (name : String) (v : Value) (fields : List (String × Value)) (rest : Gapped),
    WordyFields ((name, v) :: fields) →
    (Document.writeFields ((name, v) :: fields)).length ≤ fuel →
    readFields fuel ((Document.writeFields ((name, v) :: fields)).map some ++ rest) =
      some (rawFields ((name, v) :: fields), rest)

namespace ReadsBack

variable {fuel : Nat}

theorem zero : ReadsBack 0 where
  value v rest hv hfuel := by
    obtain ⟨c, cs, hwrite, -⟩ := exists_write_eq_cons hv
    simp [hwrite] at hfuel
  items item items rest hv hfuel := by
    obtain ⟨c, cs, hwrite, -⟩ := exists_write_eq_cons hv.1
    simp [Document.writeItems, hwrite] at hfuel
  fields name v fields rest hv hfuel := by
    simp [Document.writeFields, writeText] at hfuel

theorem value_succ (h : ReadsBack fuel) (v : Value) (rest : Gapped) (hv : v.Wordy)
    (hfuel : v.write.length ≤ fuel + 1) :
    readValue (fuel + 1) (v.write.map some ++ rest) = some (v.raw, rest) := by
  cases v with
  | null => rfl
  | bool b => cases b <;> rfl
  | number n => exact hv.elim
  | text s =>
    simp only [Document.write, writeText, List.map_cons, List.cons_append]
    rw [readValue_text, readText_writeText]
    rfl
  | list items =>
    cases items with
    | nil => rfl
    | cons item items =>
      obtain ⟨c, cs, hwrite, hc⟩ := exists_write_eq_cons hv.1
      have hitems := h.items item items rest hv
        (by simpa [Document.write, Document.writeItems] using hfuel)
      simp only [Document.write, Document.writeItems, hwrite, List.map_cons, List.cons_append]
        at hitems ⊢
      rw [readValue_list hc, hitems]
      rfl
  | object fields =>
    cases fields with
    | nil => rfl
    | cons field fields =>
      have hfields := h.fields field.1 field.2 fields rest hv
        (by simpa [Document.write, Document.writeFields] using hfuel)
      simp only [Document.write, Document.writeFields, writeText, List.map_cons, List.cons_append]
        at hfields ⊢
      rw [readValue_object, hfields]
      rfl

theorem items_succ (h : ReadsBack fuel) (item : Value) (items : List Value) (rest : Gapped)
    (hv : WordyItems (item :: items))
    (hfuel : (Document.writeItems (item :: items)).length ≤ fuel + 1) :
    readItems (fuel + 1) ((Document.writeItems (item :: items)).map some ++ rest) =
      some (rawItems (item :: items), rest) := by
  simp only [Document.writeItems, List.length_append] at hfuel
  cases items with
  | nil =>
    simp only [Document.writeItemsAfter, List.length_singleton] at hfuel
    have hitem := h.value item (some ']' :: rest) hv.1 (by omega)
    simp only [Document.writeItems, Document.writeItemsAfter, List.map_append, List.map_cons,
      List.map_nil, List.append_assoc, List.cons_append, List.nil_append]
    exact readItems_last hitem
  | cons next items =>
    simp only [Document.writeItemsAfter, List.length_cons] at hfuel
    have hitems := h.items next items rest hv.2 (by simp only [Document.writeItems]; omega)
    have hitem := h.value item
      (some ',' :: ((Document.writeItems (next :: items)).map some ++ rest)) hv.1 (by omega)
    simp only [Document.writeItems, Document.writeItemsAfter, List.map_append, List.map_cons,
      List.append_assoc, List.cons_append] at hitem hitems ⊢
    rw [readItems_more hitem, hitems]
    rfl

theorem fields_succ (h : ReadsBack fuel) (name : String) (v : Value)
    (fields : List (String × Value)) (rest : Gapped) (hv : WordyFields ((name, v) :: fields))
    (hfuel : (Document.writeFields ((name, v) :: fields)).length ≤ fuel + 1) :
    readFields (fuel + 1) ((Document.writeFields ((name, v) :: fields)).map some ++ rest) =
      some (rawFields ((name, v) :: fields), rest) := by
  simp only [Document.writeFields, List.length_append, List.length_cons] at hfuel
  cases fields with
  | nil =>
    simp only [Document.writeFieldsAfter, List.length_singleton] at hfuel
    have hvalue := h.value v (some '\x7d' :: rest) hv.1 (by omega)
    simp only [Document.writeFields, Document.writeFieldsAfter, List.map_append, List.map_cons,
      List.map_nil, List.append_assoc, List.cons_append, List.nil_append]
    exact readFields_last name hvalue
  | cons next fields =>
    obtain ⟨nextName, nextValue⟩ := next
    simp only [Document.writeFieldsAfter, List.length_cons] at hfuel
    have hfields := h.fields nextName nextValue fields rest hv.2
      (by simp only [Document.writeFields]; omega)
    have hvalue := h.value v
      (some ',' :: ((Document.writeFields ((nextName, nextValue) :: fields)).map some ++ rest))
      hv.1 (by omega)
    simp only [Document.writeFields, Document.writeFieldsAfter, List.map_append, List.map_cons,
      List.append_assoc, List.cons_append] at hvalue hfields ⊢
    rw [readFields_more name hvalue, hfields]
    rfl

end ReadsBack

/-- The induction is on the steps that are left: a list and its items, or an object and its fields,
take one step each. -/
theorem readsBack (fuel : Nat) : ReadsBack fuel := by
  induction fuel with
  | zero => exact .zero
  | succ fuel ih => exact ⟨ih.value_succ, ih.items_succ, ih.fields_succ⟩

/-- **What a value is written as is read as the value, whatever follows.** -/
theorem readValue_write {v : Value} (hv : v.Wordy) {fuel : Nat} (hfuel : v.write.length ≤ fuel)
    (rest : Gapped) : readValue fuel (v.write.map some ++ rest) = some (v.raw, rest) :=
  (readsBack fuel).value v rest hv hfuel

/-- **A document without numbers is read back from its text.** -/
theorem read?_render {v : Value} (hv : v.Wordy) : read? (gapless v.render) = some v.raw := by
  have htext : gapless v.render = v.write.map some ++ [] := by
    simp [gapless, Document.render]
  have hlength : v.write.length ≤ 2 * (v.write.map some ++ [] : Gapped).length + 2 := by
    rw [List.append_nil, List.length_map]
    omega
  rw [read?, htext, readValue_write hv hlength]
  rfl

end CaseHerald.Json
