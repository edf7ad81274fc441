import CaseHerald.Number.Binary

/-!
# Values of a TOML document

A document is a table of values. Each table remembers how it came about, because that decides what may
be added to it later. A date or a time is kept as it is written.
-/
namespace CaseHerald.Toml

/-- How a table came about. -/
inductive Origin
  /-- as part of the path in a header -/
  | implied
  /-- by a header of its own -/
  | header
  /-- as part of the path of a key -/
  | dotted
  /-- in braces -/
  | inline
  deriving DecidableEq, Repr

/-- A value of a document. -/
inductive Value
  | text (s : String)
  | integer (n : Int)
  | real (x : Number.Extended)
  /-- a date, a time of day, or both -/
  | moment (s : String)
  | bool (b : Bool)
  | list (items : List Value)
  /-- the tables that headers of one name have made, in order -/
  | tables (items : List (List (String × Value)))
  | table (origin : Origin) (fields : List (String × Value))

/-- The fields of a table, in order. -/
abbrev Fields := List (String × Value)

/-- The value of the field with the name. -/
def field? (name : String) (fs : Fields) : Option Value := (fs.find? fun f => f.1 == name).map (·.2)

/-- The fields with another value for the name, in its place or at the end. -/
def setField (name : String) (v : Value) : Fields → Fields
  | [] => [(name, v)]
  | f :: rest => if f.1 = name then (name, v) :: rest else f :: setField name v rest

end CaseHerald.Toml
