import CaseHerald.Toml.Value

/-!
# Typed parts of a TOML document

A record is written as a table, which may hold no other fields, or as a list of its fields in the
order of their declaration.
-/
namespace CaseHerald.Toml

/-- A function that finds a value of a type in a document. -/
abbrev Decoder (α : Type) := Value → Option α

namespace Decoder

/-- A text. -/
def text : Decoder String
  | .text s => some s
  | _ => none

/-- An integer from zero to `most`. -/
def natural (most : Nat) : Decoder Nat
  | .integer (.ofNat n) => if n ≤ most then some n else none
  | _ => none

/-- A list, or the tables that headers of one name have made. -/
def list {α : Type} (d : Decoder α) : Decoder (List α)
  | .list items => items.mapM d
  | .tables items => items.mapM fun fs => d (.table .header fs)
  | _ => none

/-- Whether a choice has nothing more to it than its name. -/
def isBare : Value → Bool
  | .table _ fs => fs.isEmpty
  | .list items => items.isEmpty
  | .tables items => items.isEmpty
  | _ => false

/-- The name of a choice, by itself or as the only key of a table. -/
def choice {α : Type} (options : List (String × α)) : Decoder α := fun v =>
  let find (name : String) : Option α := (options.find? fun o => o.1 == name).map (·.2)
  match v with
  | .text name => find name
  | .table _ [(name, content)] => if isBare content then find name else none
  | _ => none

end Decoder

/-- The fields of a record that a value has. -/
structure Record where
  fields : Fields

namespace Record

/-- The fields with the names in a value, which has no others. -/
def read? (names : List String) : Value → Option Record
  | .table _ fs => if fs.all fun f => names.contains f.1 then some ⟨fs⟩ else none
  | .list items => some ⟨names.zip items⟩
  | .tables items => some ⟨names.zip (items.map (.table .header))⟩
  | _ => none

/-- A field that has to be there. -/
def need {α : Type} (r : Record) (name : String) (d : Decoder α) : Option α :=
  (field? name r.fields).bind d

/-- A field that has a value of its own where it is missing. -/
def orElse {α : Type} (r : Record) (name : String) (d : Decoder α) (default : α) : Option α :=
  match field? name r.fields with
  | none => some default
  | some v => d v

/-- A field that may be missing. -/
def optional {α : Type} (r : Record) (name : String) (d : Decoder α) : Option (Option α) :=
  r.orElse name (fun v => (d v).map some) none

end Record

end CaseHerald.Toml
