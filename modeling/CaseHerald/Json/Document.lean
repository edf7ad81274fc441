import CaseHerald.Json.Numeral

/-!
# JSON documents

A document is a tree of values whose objects keep their fields in the order of writing. It is
generic in what a string is: a `Value` holds texts, while a `Raw` document, as it has been read,
may hold strings that stand for no text. Such a string is an error only where its text is wanted.
-/
namespace CaseHerald.Json

/-- A document whose strings are of the given type. -/
inductive Document (Str : Type)
  | null
  | bool (b : Bool)
  | number (n : Numeral)
  | text (s : Str)
  | list (items : List (Document Str))
  | object (fields : List (Str × Document Str))

/-- A document of texts. -/
abbrev Value := Document String

/-- A document as read, where a string that encodes no text is `none`. -/
abbrev Raw := Document (Option String)

namespace Document

instance {Str : Type} : Inhabited (Document Str) := ⟨.null⟩

/-- A natural number. -/
def nat {Str : Type} (n : Nat) : Document Str := .number (.ofNat n)

/-- The value, or null if there is none. -/
def orNull {Str : Type} : Option (Document Str) → Document Str
  | none => .null
  | some d => d

/-- The text, or null if there is none. -/
def textOrNull (s : Option String) : Value := orNull (s.map .text)

/-- A list of texts. -/
def texts (xs : List String) : Value := .list (xs.map .text)

/-- The value of the first field with the name. -/
def field? (name : String) : Value → Option Value
  | .object fields => (fields.find? fun f => f.1 == name).map (·.2)
  | _ => none

end Document

end CaseHerald.Json
