import CaseHerald.Case.Written
import CaseHerald.Proofs.InstantText
import CaseHerald.Proofs.JsonText
import CaseHerald.Proofs.Octets

/-!
# Records survive their documents

Everything that is stored or handed on is written as a JSON document and read back by a more lenient
decoder. `Decodes write d f` says what `d` decodes from what `write` writes; it is closed under lists,
choices and optional parts, and each record has it from its fields. The times of a record are carried to
the instants of their texts, and nothing else of it changes. `Durable` is what follows for the texts: what
a value is read back as, which are read back as they were, and that what a lenient document was read as
stays the same when it is written anew.

## Main definitions

* `Json.Decodes write d f` - what is decoded from the documents of values, which hold no number.
* `Json.Lossless write d` - every value is decoded from its document.
* `Durable write d carry stamped times` - what is read back from texts and octets, and reading is stable.
-/
namespace CaseHerald

open Json (Value Raw Document Record Decoder)
open Text (gapless octets ofOctets ofOctets_octets)

/-! ## Tokens -/

namespace Guid

theorem hexDigits_succ (count n : Nat) :
    hexDigits (count + 1) n = Nat.digitChar (n / 16 ^ count % 16) :: hexDigits count n := by
  simp only [hexDigits, List.range_succ_eq_map, List.map_cons, List.map_map]
  refine congrArg₂ List.cons (by simp) (List.map_congr_left fun i _ => ?_)
  have hplace : count + 1 - 1 - (i + 1) = count - 1 - i := by omega
  simp only [Function.comp, hplace]

theorem length_hexDigits (count n : Nat) : (hexDigits count n).length = count := by
  simp [hexDigits]

/-- Hexadecimal digits are read as the number that they are the low digits of. -/
theorem extendDigits?_hexDigits (count n acc : Nat) :
    Text.extendDigits? 16 Text.hexDigit? acc (hexDigits count n) =
      some (acc * 16 ^ count + n % 16 ^ count) := by
  induction count generalizing acc with
  | zero => simp [hexDigits, Text.extendDigits?, Nat.mod_one]
  | succ count ih =>
    have hdigit : ∀ d < 16, Text.hexDigit? (Nat.digitChar d) = some d := by decide
    have hlt : n / 16 ^ count % 16 < 16 := Nat.mod_lt _ (by decide)
    rw [hexDigits_succ, Text.extendDigits?, hdigit _ hlt]
    simp only [hlt, if_true]
    rw [ih, Nat.mod_pow_succ, Nat.add_mul, Nat.pow_succ, Nat.mul_assoc, Nat.mul_comm 16,
      Nat.add_assoc, Nat.mul_comm (n / 16 ^ count % 16), Nat.add_comm (n % 16 ^ count)]

theorem ofDigits?_hexDigits (g : Guid) : ofDigits? (hexDigits 32 g.bits.toNat) = some g := by
  have hlt : g.bits.toNat < 16 ^ 32 := g.bits.isLt
  rw [ofDigits?, if_pos (length_hexDigits _ _), extendDigits?_hexDigits, Nat.mod_eq_of_lt hlt]
  simp [ofNat]

/-- The groups of a written token. -/
theorem ungroup?_groups {a b c d e : List Char} (ha : a.length = 8) (hb : b.length = 4)
    (hc : c.length = 4) (hd : d.length = 4) (he : e.length = 12) :
    ungroup? (a ++ '-' :: b ++ '-' :: c ++ '-' :: d ++ '-' :: e) = some (a ++ b ++ c ++ d ++ e) := by
  have hlength : (a ++ '-' :: b ++ '-' :: c ++ '-' :: d ++ '-' :: e).length = 36 := by
    simp [ha, hb, hc, hd, he]
  rw [ungroup?, if_pos ⟨hlength, by simp [ha], by simp [List.getElem?_append, ha, hb],
    by simp [List.getElem?_append, ha, hb, hc], by simp [List.getElem?_append, ha, hb, hc, hd]⟩]
  simp (disch := omega) [List.drop_append, List.drop_of_length_le, ha, hb, hc, hd]

theorem write_length (g : Guid) : g.write.length = 36 := by
  simp [write, length_hexDigits]

/-- **Every token is read back from its text.** -/
theorem read?_render (g : Guid) : read? g.render = some g := by
  have hunwrap : unwrap g.write = g.write := by simp [unwrap, write_length]
  have hungroup : ungroup? g.write = some (hexDigits 32 g.bits.toNat) := by
    have hlength := length_hexDigits 32 g.bits.toNat
    rw [write, ungroup?_groups (by simp [hlength]) (by simp [hlength]) (by simp [hlength])
      (by simp [hlength]) (by simp [hlength])]
    have hsplit (i : Nat) {k : Nat} (h : i + 4 = k) :
        ((hexDigits 32 g.bits.toNat).drop i).take 4 ++ (hexDigits 32 g.bits.toNat).drop k =
          (hexDigits 32 g.bits.toNat).drop i := by
      rw [← h, ← List.drop_drop, List.take_append_drop]
    rw [List.append_assoc, List.append_assoc, List.append_assoc, hsplit 16 rfl, hsplit 12 rfl,
      hsplit 8 rfl, List.take_append_drop]
  rw [read?, render, String.toList_ofList, if_neg (by simp [write_length]), hunwrap, hungroup]
  exact ofDigits?_hexDigits g

end Guid

/-! ## Priorities -/

/-- The label of a priority is read as the priority. -/
theorem Priority.read_label (p : Priority) : Priority.read p.label = .ok p := by
  obtain ⟨o⟩ := p
  revert o
  decide

/-! ## Typed parts -/

namespace Json

variable {α β : Type} {write : α → Value}

/-- Documents that are written without numbers, and what is decoded from them. -/
structure Decodes (write : α → Value) (d : Decoder β) (f : α → β) : Prop where
  wordy : ∀ a, (write a).Wordy
  decodes : ∀ a, d (write a).raw = some (f a)

/-- Documents that are written without numbers and from which the value is decoded. -/
abbrev Lossless (write : α → Value) (d : Decoder α) : Prop := Decodes write d id

namespace Decodes

variable {d : Decoder β} {f : α → β}

/-- A text that stands for a value. -/
theorem via {render : α → String} {parse : String → Option β}
    (h : ∀ a, parse (render a) = some (f a)) :
    Decodes (fun a => .text (render a)) (.via parse) f := ⟨fun _ => trivial, h⟩

theorem list (h : Decodes write d f) :
    Decodes (fun as => .list (as.map write)) (.list d) (List.map f) where
  wordy as := by
    refine Document.wordyItems_iff.2 fun v hv => ?_
    obtain ⟨a, -, rfl⟩ := List.mem_map.1 hv
    exact h.wordy a
  decodes as := by
    have hdecode : d ∘ Document.raw ∘ write = fun a => pure (f a) := funext h.decodes
    simp only [Document.raw, Document.rawItems_eq_map, Decoder.list, List.map_map, List.mapM_map,
      hdecode]
    exact List.mapM_pure

/-- What is read from the text of a value. -/
theorem ofJsonText? (h : Decodes write d f) (a : α) :
    ofJsonText? d (gapless (write a).render) = some (f a) := by
  rw [CaseHerald.ofJsonText?, read?_render (h.wordy a), Option.bind_some, h.decodes]

theorem lossless {d : Decoder α} {f : α → α} (h : Decodes write d f) (hf : ∀ a, f a = a) :
    Lossless write d := ⟨h.wordy, fun a => (h.decodes a).trans (congrArg some (hf a))⟩

end Decodes

namespace Lossless

variable {d : Decoder α}

theorem decodes (h : Lossless write d) (a : α) : d (write a).raw = some a := Decodes.decodes h a

theorem text : Lossless .text Decoder.text := ⟨fun _ => trivial, fun _ => rfl⟩

theorem bool : Lossless .bool Decoder.bool := ⟨fun _ => trivial, fun _ => rfl⟩

theorem textOrNull : Lossless Document.textOrNull (.optional .text) where
  wordy s := by cases s <;> exact trivial
  decodes s := by cases s <;> rfl

/-- A value that is told by its name. -/
theorem choice {name : α → String} {options : List (String × α)}
    (h : ∀ a, (options.find? fun o => o.1 == name a).map (·.2) = some a) :
    Lossless (fun a => .text (name a)) (.choice options) := ⟨fun _ => trivial, h⟩

theorem list (h : Lossless write d) : Lossless (fun as => .list (as.map write)) (.list d) :=
  (Decodes.list h).lossless fun as => as.map_id

/-- **What is written is read back.** -/
theorem ofJsonText? (h : Lossless write d) (a : α) :
    ofJsonText? d (gapless (write a).render) = some a := Decodes.ofJsonText? h a

end Lossless

namespace Record

/-- The fields of an object are found where they are fields of the record. -/
theorem ofFields_eq_some {names : List String} (closed : Bool) {fields : List (String × Raw)}
    (hnames : ∀ f ∈ fields, f.1 ∈ names) (hnodup : (fields.map (·.1)).Nodup) :
    ofFields names closed (fields.map fun f => (some f.1, f.2)) = some fields := by
  induction fields with
  | nil => rfl
  | cons f fields ih =>
    obtain ⟨hnew, hrest⟩ := List.nodup_cons.1 hnodup
    have hname : names.contains f.1 = true := by
      simpa using hnames f List.mem_cons_self
    have hfound : fields.any (·.1 == f.1) = false := by
      simp only [List.any_eq_false, beq_iff_eq]
      intro g hg heq
      exact hnew (List.mem_map.2 ⟨g, hg, heq⟩)
    rw [List.map_cons, ofFields, if_pos hname,
      ih (fun g hg => hnames g (List.mem_cons_of_mem _ hg)) hrest]
    simp [hfound]

/-- A record is read from an object with its fields. -/
theorem read?_raw {names : List String} (closed : Bool) {fields : List (String × Value)}
    (hnames : fields.map (·.1) = names) (hnodup : names.Nodup) :
    read? names closed (Document.object fields).raw = some ⟨fields.map fun f => (f.1, f.2.raw)⟩ := by
  subst hnames
  have hraw : Document.rawFields fields =
      (fields.map fun f => (f.1, f.2.raw)).map fun f => (some f.1, f.2) := by
    rw [Document.rawFields_eq_map, List.map_map]
    rfl
  have hnames : (fields.map fun f => (f.1, f.2.raw)).map (·.1) = fields.map (·.1) := by
    rw [List.map_map]
    rfl
  have hfound : ofFields (fields.map (·.1)) closed
      ((fields.map fun f => (f.1, f.2.raw)).map fun f => (some f.1, f.2)) =
      some (fields.map fun f => (f.1, f.2.raw)) :=
    ofFields_eq_some closed (fun f hf => hnames ▸ List.mem_map_of_mem hf) (hnames ▸ hnodup)
  rw [Document.raw, read?, hraw, hfound, Option.map_some]

end Record

end Json

/-! ## Times -/

section Times

variable {τ υ ω : Type}

/-- The comment with other times. -/
def Comment.map (f : τ → υ) (c : Comment τ) : Comment υ := { c with created := f c.created }

/-- The times in a comment. -/
def Comment.times (c : Comment τ) : List τ := [c.created]

/-- The record with other times. -/
def CaseRecord.map (f : τ → υ) (r : CaseRecord τ) : CaseRecord υ :=
  { r with updated := f r.updated, comments := r.comments.map (Comment.map f) }

/-- The times in a record. -/
def CaseRecord.times (r : CaseRecord τ) : List τ := r.updated :: r.comments.flatMap Comment.times

/-- The snapshot with other times. -/
def Snapshot.map (f : τ → υ) (s : Snapshot τ) : Snapshot υ := { s with record := s.record.map f }

/-- The times in a snapshot. -/
def Snapshot.times (s : Snapshot τ) : List τ := s.record.times

/-- The marker with other times. -/
def Marker.map (f : τ → υ) (m : Marker τ) : Marker υ := { m with record := m.record.map f }

/-- The times in a marker. -/
def Marker.times (m : Marker τ) : List τ := m.record.times

@[simp] theorem Comment.map_map (g : υ → ω) (f : τ → υ) (c : Comment τ) :
    (c.map f).map g = c.map (g ∘ f) := rfl

@[simp] theorem CaseRecord.map_map (g : υ → ω) (f : τ → υ) (r : CaseRecord τ) :
    (r.map f).map g = r.map (g ∘ f) := by
  simp [map, Function.comp_def, Comment.map_map]

@[simp] theorem Snapshot.map_map (g : υ → ω) (f : τ → υ) (s : Snapshot τ) :
    (s.map f).map g = s.map (g ∘ f) := by
  simp only [map, CaseRecord.map_map]

@[simp] theorem Marker.map_map (g : υ → ω) (f : τ → υ) (m : Marker τ) :
    (m.map f).map g = m.map (g ∘ f) := by
  simp only [map, CaseRecord.map_map]

variable {f : τ → τ}

@[simp] theorem Comment.map_eq_self_iff {c : Comment τ} : c.map f = c ↔ ∀ t ∈ c.times, f t = t := by
  obtain ⟨author, body, created⟩ := c
  simp [map, times]

@[simp] theorem CaseRecord.map_eq_self_iff {r : CaseRecord τ} :
    r.map f = r ↔ ∀ t ∈ r.times, f t = t := by
  have hcomments : r.comments.map (Comment.map f) = r.comments ↔
      ∀ c ∈ r.comments, ∀ t ∈ c.times, f t = t := by
    simp only [← Comment.map_eq_self_iff]
    simpa using List.map_eq_map_iff (f := Comment.map f) (g := id) (l := r.comments)
  obtain ⟨number, parent, displayName, state, priority, escalated, updated, comments⟩ := r
  simp only [map, times, mk.injEq, true_and, List.forall_mem_cons, List.forall_mem_flatMap]
  rw [hcomments]

@[simp] theorem Snapshot.map_eq_self_iff {s : Snapshot τ} : s.map f = s ↔ ∀ t ∈ s.times, f t = t := by
  rw [times, ← CaseRecord.map_eq_self_iff]
  obtain ⟨record, guid⟩ := s
  simp [map]

@[simp] theorem Marker.map_eq_self_iff {m : Marker τ} : m.map f = m ↔ ∀ t ∈ m.times, f t = t := by
  rw [times, ← CaseRecord.map_eq_self_iff]
  obtain ⟨guid, record⟩ := m
  simp [map]

end Times

/-! ## The records -/

open Json (Decodes Lossless)

theorem Guid.lossless : Lossless toJson ofJson? := .via read?_render

theorem CaseState.lossless : Lossless toJson ofJson? := .choice fun s => by cases s <;> decide

theorem Priority.lossless : Lossless toJson ofJson? :=
  .via fun p => by rw [read_label]; rfl

theorem Author.lossless : Lossless toJson ofJson? where
  wordy a := ⟨trivial, Lossless.textOrNull.wordy a.email, trivial, trivial⟩
  decodes a := by
    rw [ofJson?, toJson, Record.read?_raw]
    · simp [Record.need, Record.orElse, Record.field?, Lossless.text.decodes,
        Lossless.bool.decodes, Lossless.textOrNull.decodes]
    · rfl
    · decide

section Records

variable {τ : Type} [HasTimestamp τ]

/-- The instant that a time is carried to. -/
def HasTimestamp.carry (t : τ) : Instant := (timestamp t).carry

theorem HasTimestamp.decodes :
    Decodes (fun t : τ => (timestamp t).toJson) Instant.ofJson? carry :=
  .via fun t => (timestamp t).readLenient?_render

theorem Comment.decodes : Decodes (toJson (τ := τ)) ofJson? (map HasTimestamp.carry) where
  wordy c := ⟨Author.lossless.wordy c.author, trivial, HasTimestamp.decodes.wordy c.created, trivial⟩
  decodes c := by
    have hcreated := HasTimestamp.decodes.decodes c.created
    rw [ofJson?, toJson, Record.read?_raw]
    · simp [Record.need, Record.field?, Lossless.text.decodes, Author.lossless.decodes, hcreated, map]
    · rfl
    · decide

theorem CaseRecord.decodes : Decodes (toJson (τ := τ)) ofJson? (map HasTimestamp.carry) where
  wordy r := ⟨trivial, trivial, trivial, CaseState.lossless.wordy r.state,
    Priority.lossless.wordy r.priority, trivial, HasTimestamp.decodes.wordy r.updated,
    (Decodes.list Comment.decodes).wordy r.comments, trivial⟩
  decodes r := by
    have hupdated := HasTimestamp.decodes.decodes r.updated
    have hcomments := (Decodes.list Comment.decodes).decodes r.comments
    rw [ofJson?, toJson, Record.read?_raw]
    · simp [Record.need, Record.orElse, Record.field?, Lossless.text.decodes,
        Lossless.bool.decodes, CaseState.lossless.decodes, Priority.lossless.decodes, hupdated,
        hcomments, map]
    · rfl
    · decide

theorem Snapshot.decodes : Decodes (toJson (τ := τ)) ofJson? (map HasTimestamp.carry) where
  wordy s := ⟨CaseRecord.decodes.wordy s.record, Guid.lossless.wordy s.guid, trivial⟩
  decodes s := by
    rw [ofJson?, toJson, Record.read?_raw]
    · simp [Record.need, Record.field?, CaseRecord.decodes.decodes, Guid.lossless.decodes, map]
    · rfl
    · decide

theorem Marker.decodes : Decodes (toJson (τ := τ)) ofJson? (map HasTimestamp.carry) where
  wordy m := ⟨Guid.lossless.wordy m.guid, CaseRecord.decodes.wordy m.record, trivial⟩
  decodes m := by
    rw [ofJson?, toJson, Record.read?_raw]
    · simp [Record.need, Record.field?, CaseRecord.decodes.decodes, Guid.lossless.decodes, map]
    · rfl
    · decide

end Records

/-! Nothing is carried in instants, so that their records are decoded as they are. -/

theorem Snapshot.lossless : Lossless (toJson (τ := Instant)) ofJson? :=
  Snapshot.decodes.lossless fun s => s.map_eq_self_iff.2 fun t _ => Timestamp.carry_coe t

theorem Marker.lossless : Lossless (toJson (τ := Instant)) ofJson? :=
  Marker.decodes.lossless fun m => m.map_eq_self_iff.2 fun t _ => Timestamp.carry_coe t

/-- The kind of an asset is told by its name. -/
theorem AssetKind.lossless : Lossless (fun k => .text (name k)) (.choice named) :=
  .choice fun k => by cases k <;> decide

theorem Asset.lossless : Lossless toJson ofJson? where
  wordy a := ⟨trivial, trivial, trivial, (Lossless.list Lossless.text).wordy a.ccList, trivial,
    trivial⟩
  decodes a := by
    rw [ofJson?, toJson, Record.read?_raw]
    · simp [Record.need, Record.orElse, Record.field?, Document.texts, Lossless.text.decodes,
        AssetKind.lossless.decodes, (Lossless.list Lossless.text).decodes]
    · rfl
    · decide

/-- The kind of an announcement is told by its name. -/
theorem EventKind.lossless : Lossless (fun k => .text (name k)) (.choice named) :=
  .choice fun k => by cases k <;> decide

theorem Event.lossless : Lossless toJson ofJson? where
  wordy e := ⟨trivial, trivial, trivial, trivial⟩
  decodes e := by
    rw [ofJson?, toJson, Record.read?_raw]
    · simp [Record.need, Record.field?, Lossless.text.decodes, EventKind.lossless.decodes]
    · rfl
    · decide

theorem FieldChange.lossless : Lossless toJson ofJson? where
  wordy c := by
    cases c with
    | comment body => exact ⟨⟨trivial, trivial⟩, trivial⟩
    | priority before after =>
      exact ⟨⟨Priority.lossless.wordy before, Priority.lossless.wordy after, trivial⟩, trivial⟩
    | escalation escalated => exact ⟨⟨trivial, trivial⟩, trivial⟩
  decodes c := by
    have hvariant (name : String) (fields : List (String × Value)) :
        (Document.object [(name, .object fields)]).raw =
          .object [(some name, (Document.object fields).raw)] := rfl
    cases c with
    | comment body =>
      rw [toJson, hvariant, ofJson?]
      simp only [if_true]
      rw [Record.read?_raw]
      · simp [Record.need, Record.field?, Lossless.text.decodes]
      · rfl
      · decide
    | priority before after =>
      rw [toJson, hvariant, ofJson?]
      simp only [String.reduceEq, if_true, if_false]
      rw [Record.read?_raw]
      · simp [Record.need, Record.field?, Priority.lossless.decodes]
      · rfl
      · decide
    | escalation escalated =>
      rw [toJson, hvariant, ofJson?]
      simp only [String.reduceEq, if_true, if_false]
      rw [Record.read?_raw]
      · simp [Record.need, Record.field?, Lossless.bool.decodes]
      · rfl
      · decide

/-! ## Durability -/

/-- Every value is read back from what it is written as. What it is read back as is given by `carry`, and
is the value itself (`stamped` makes its instants timestamps) just if every leap second in it ends its minute.
Whatever a value was read from, writing it and reading it once more gives the same. -/
structure Durable {α β : Type} (write : α → Value) (d : Decoder β) (carry : α → β)
    (stamped : β → α) (times : α → List Timestamp) : Prop where
  readsText : ∀ a, ofJsonText? d (gapless (write a).render) = some (carry a)
  readsOctets : ∀ a, ofJsonText? d (ofOctets (octets (write a).render)) = some (carry a)
  keeps : ∀ a, stamped (carry a) = a ↔ ∀ t ∈ times a, t.LeapEndsMinute
  stable : ∀ text, ((ofJsonText? d text).bind fun b =>
    ofJsonText? d (gapless (write (stamped b)).render)) = ofJsonText? d text

theorem Json.Decodes.durable {α β : Type} {write : α → Value} {d : Decoder β} {carry : α → β}
    {stamped : β → α} {times : α → List Timestamp} (h : Decodes write d carry)
    (hkeeps : ∀ a, stamped (carry a) = a ↔ ∀ t ∈ times a, t.carry.toTimestamp = t)
    (hstamped : ∀ b, carry (stamped b) = b) : Durable write d carry stamped times where
  readsText := h.ofJsonText?
  readsOctets a := by rw [ofOctets_octets, h.ofJsonText?]
  keeps a := by simp only [hkeeps, Timestamp.carry_eq_self_iff]
  stable text := by simp [h.ofJsonText?, hstamped]

theorem Json.Lossless.durable {α : Type} {write : α → Value} {d : Decoder α}
    (h : Lossless write d) : Durable write d id id fun _ => [] :=
  Decodes.durable h (fun _ => by simp) fun _ => rfl

/-- **What is stored and handed on is read back as it was written**, apart from leap seconds within a
minute. -/
theorem written_records_durable :
    Durable CaseRecord.toJson CaseRecord.ofJson? (.map Timestamp.carry) (.map Instant.toTimestamp)
        CaseRecord.times ∧
      Durable Comment.toJson Comment.ofJson? (.map Timestamp.carry) (.map Instant.toTimestamp)
        Comment.times ∧
      Durable Snapshot.toJson Snapshot.ofJson? (.map Timestamp.carry) (.map Instant.toTimestamp)
        Snapshot.times ∧
      Durable Marker.toJson Marker.ofJson? (.map Timestamp.carry) (.map Instant.toTimestamp)
        Marker.times ∧
      Durable Asset.toJson Asset.ofJson? id id (fun _ => []) ∧
      Durable Event.toJson Event.ofJson? id id (fun _ => []) ∧
      Durable FieldChange.toJson FieldChange.ofJson? id id fun _ => [] := by
  refine ⟨CaseRecord.decodes.durable (fun r => ?_) fun r => ?_,
    Comment.decodes.durable (fun c => ?_) fun c => ?_,
    Snapshot.decodes.durable (fun s => ?_) fun s => ?_,
    Marker.decodes.durable (fun m => ?_) fun m => ?_, Asset.lossless.durable, Event.lossless.durable,
    FieldChange.lossless.durable⟩
  -- the times are carried to instants and made timestamps again, or the other way round
  all_goals simp [HasTimestamp.carry, HasTimestamp.timestamp]

/-- A comment with a leap second within a minute is read back as another one. -/
theorem comment_of_leapWithin_changes :
    (ofJsonText? Comment.ofJson? (gapless
      (Comment.toJson (⟨⟨"Ada", none, true⟩, "hello", .leapWithin⟩ : Comment Timestamp)).render)).map
        (Comment.map Instant.toTimestamp) ≠ some ⟨⟨"Ada", none, true⟩, "hello", .leapWithin⟩ := by
  rw [Comment.decodes.ofJsonText?]
  decide

/-- A change as a list of its fields, with an older spelling of a priority. -/
example : ofJsonText? FieldChange.ofJson? (gapless "\x7b\"Priority\":[\" s3\",\"P1\"]\x7d") =
    some (.priority ⟨3⟩ ⟨1⟩) := by decide +kernel

end CaseHerald
