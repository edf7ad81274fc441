import CaseHerald.Json.Document

/-!
# Typed parts of a document

A record is written as an object, or as a list of its fields in the order of their declaration. In an
object, a field of the record may occur once; fields that it does not have are passed over, unless
the record is closed. `Record` holds the fields found, from which each is decoded by name.
-/
namespace CaseHerald.Json

/-- A function that finds a value of a type in a document. -/
abbrev Decoder (α : Type) := Raw → Option α

namespace Decoder

/-- A text. -/
def text : Decoder String
  | .text s => s
  | _ => none

/-- A truth value. -/
def bool : Decoder Bool
  | .bool b => some b
  | _ => none

/-- A value, or null for none. -/
def optional {α : Type} (d : Decoder α) : Decoder (Option α)
  | .null => some none
  | raw => (d raw).map some

/-- A list. -/
def list {α : Type} (d : Decoder α) : Decoder (List α)
  | .list items => items.mapM d
  | _ => none

/-- A text that stands for a value. -/
def via {α : Type} (parse : String → Option α) : Decoder α := fun raw => (text raw).bind parse

/-- The name of a choice, by itself or as the only field of an object whose value is null. -/
def choice {α : Type} (options : List (String × α)) : Decoder α := fun raw =>
  let find (name : String) : Option α := (options.find? fun o => o.1 == name).map (·.2)
  match raw with
  | .text (some name) => find name
  | .object [(some name, .null)] => find name
  | _ => none

end Decoder

/-- The fields of a record that a document has. -/
structure Record where
  fields : List (String × Raw)

namespace Record

/-- The value of the field. -/
def field? (r : Record) (name : String) : Option Raw :=
  (r.fields.find? fun f => f.1 == name).map (·.2)

/-- The fields of an object that have one of the names, if none occurs twice. -/
def ofFields (names : List String) (closed : Bool) :
    List (Option String × Raw) → Option (List (String × Raw))
  | [] => some []
  | (none, _) :: _ => none
  | (some name, v) :: rest =>
    if names.contains name then
      match ofFields names closed rest with
      | none => none
      | some found => if found.any (·.1 == name) then none else some ((name, v) :: found)
    else if closed then none
    else ofFields names closed rest

/-- The fields with the names in a document. -/
def read? (names : List String) (closed : Bool) : Raw → Option Record
  | .object fields => (ofFields names closed fields).map (⟨·⟩)
  | .list items => if items.length ≤ names.length then some ⟨names.zip items⟩ else none
  | _ => none

/-- A field that has to be there. -/
def need {α : Type} (r : Record) (name : String) (d : Decoder α) : Option α :=
  (r.field? name).bind d

/-- A field that has a value of its own where it is missing. -/
def orElse {α : Type} (r : Record) (name : String) (d : Decoder α) (default : α) : Option α :=
  match r.field? name with
  | none => some default
  | some raw => d raw

end Record

end CaseHerald.Json
