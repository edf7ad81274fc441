import CaseHerald.Toml.Moment
import CaseHerald.Toml.Value

/-!
# Reading a TOML document

A document is read line by line into entries, which are then put into one table in order. A key may
have one value; a table may be defined by one header; and keys with points add only to tables that
came about by such keys.
-/
namespace CaseHerald.Toml

/-! ## Adding to tables -/

/-- Adds a value under a path of keys. The last table on the way has to be one that keys with points
have made; the others may also be parts of headers. -/
def addAt (key : String) (v : Value) : List String → Fields → Option Fields
  | [], fs => if (field? key fs).isSome then none else some (fs ++ [(key, v)])
  | p :: rest, fs =>
    match field? p fs with
    | none => (addAt key v rest []).map fun sub => fs ++ [(p, .table .dotted sub)]
    | some (.table .dotted sub) =>
      (addAt key v rest sub).map fun sub => setField p (.table .dotted sub) fs
    | some (.table .implied sub) =>
      if rest.isEmpty then none
      else (addAt key v rest sub).map fun sub => setField p (.table .implied sub) fs
    | some (.tables items) =>
      if rest.isEmpty then none
      else (addAt key v rest (items.getLastD [])).map fun last =>
        setField p (.tables (items.dropLast ++ [last])) fs
    | some _ => none

/-- Changes the table at a path of headers, and makes the tables that are missing. -/
def within (change : Fields → Option Fields) : List String → Fields → Option Fields
  | [], fs => change fs
  | p :: rest, fs =>
    match field? p fs with
    | none => (within change rest []).map fun sub => fs ++ [(p, .table .implied sub)]
    | some (.table .inline _) => none
    | some (.table origin sub) =>
      (within change rest sub).map fun sub => setField p (.table origin sub) fs
    | some (.tables items) =>
      (within change rest (items.getLastD [])).map fun last =>
        setField p (.tables (items.dropLast ++ [last])) fs
    | some _ => none

/-- Defines the table with the name by its header. -/
def define (name : String) (fs : Fields) : Option Fields :=
  match field? name fs with
  | none => some (fs ++ [(name, .table .header [])])
  | some (.table .implied sub) => some (setField name (.table .header sub) fs)
  | some _ => none

/-- Adds one more table to those with the name. -/
def defineNext (name : String) (fs : Fields) : Option Fields :=
  match field? name fs with
  | none => some (fs ++ [(name, .tables [[]])])
  | some (.tables items) => some (setField name (.tables (items ++ [[]])) fs)
  | some _ => none

/-- The path without its last key, and that key. -/
def splitPath (path : List String) : List String × String := (path.dropLast, path.getLastD "")

/-- A value with the path of its key. -/
abbrev Pair := List String × Value

/-- The table of the pairs in braces. -/
def ofPairs : List Pair → Fields → Option Fields
  | [], fs => some fs
  | (path, v) :: rest, fs =>
    let (front, key) := splitPath path
    (addAt key v front fs).bind (ofPairs rest)

/-! ## Values -/

/-- A moment or a number. -/
def number? (cs : List Char) : Read Value :=
  match moment? cs, real? cs with
  | some (s, rest), _ => some (.moment s, rest)
  | none, some (x, rest) => some (.real x, rest)
  | none, none => (integer? cs).map fun r => (.integer r.1, r.2)

mutual

/-- A value, in which lists and tables may be nested up to the depth. -/
def value? (depth : Nat) : (fuel : Nat) → List Char → Read Value
  | 0, _ => none
  | fuel + 1, cs =>
    match cs with
    | '"' :: _ | '\'' :: _ => (string? cs).map fun r => (.text r.1, r.2)
    | '[' :: cs =>
      match depth with
      | 0 => none
      | d + 1 => (items? d fuel (skipLines fuel cs)).map fun r => (.list r.1, r.2)
    | '\x7b' :: cs =>
      match depth, skipSpaces cs with
      | 0, _ => none
      | _ + 1, '\x7d' :: cs => some (.table .inline [], cs)
      | d + 1, cs =>
        match pairs? d fuel cs with
        | none => none
        | some (ps, rest) => (ofPairs ps []).map fun fs => (.table .inline fs, rest)
    | 't' :: 'r' :: 'u' :: 'e' :: cs => some (.bool true, cs)
    | 'f' :: 'a' :: 'l' :: 's' :: 'e' :: cs => some (.bool false, cs)
    | cs => number? cs

/-- The items of a list up to its closing bracket, which a comma may precede. -/
def items? (depth : Nat) : (fuel : Nat) → List Char → Read (List Value)
  | 0, _ => none
  | _, ']' :: cs => some ([], cs)
  | fuel + 1, cs =>
    match value? depth fuel cs with
    | none => none
    | some (v, rest) =>
      match skipLines fuel rest with
      | ',' :: rest => (items? depth fuel (skipLines fuel rest)).map fun r => (v :: r.1, r.2)
      | ']' :: rest => some ([v], rest)
      | _ => none

/-- The pairs of a table in braces up to its closing brace. -/
def pairs? (depth : Nat) : (fuel : Nat) → List Char → Read (List Pair)
  | 0, _ => none
  | fuel + 1, cs =>
    match pair? depth fuel cs with
    | none => none
    | some (p, rest) =>
      match skipSpaces rest with
      | ',' :: rest => (pairs? depth fuel rest).map fun r => (p :: r.1, r.2)
      | '\x7d' :: rest => some ([p], rest)
      | _ => none

/-- A key, the sign of equality and a value. -/
def pair? (depth : Nat) : (fuel : Nat) → List Char → Read Pair
  | 0, _ => none
  | fuel + 1, cs =>
    match path? (fuel + 1) cs with
    | some (path, '=' :: rest) =>
      (value? depth fuel (skipSpaces rest)).map fun r => ((path, r.1), r.2)
    | _ => none

end

/-! ## Documents -/

/-- An entry of a document. -/
inductive Entry
  | pair (p : Pair)
  | header (path : List String)
  /-- a header in double brackets -/
  | next (path : List String)

/-- An entry at the start of a line. -/
def entry? (fuel : Nat) (cs : List Char) : Read Entry :=
  match cs with
  | '[' :: '[' :: cs =>
    match path? fuel cs with
    | some (path, ']' :: ']' :: rest) => some (.next path, rest)
    | _ => none
  | '[' :: cs =>
    match path? fuel cs with
    | some (path, ']' :: rest) => some (.header path, rest)
    | _ => none
  | cs => (pair? mostDepth fuel cs).map fun r => (.pair r.1, r.2)

/-- The entries of the lines. -/
def entries? : Nat → List Char → Option (List Entry)
  | 0, _ => none
  | fuel + 1, cs =>
    match skipLines (fuel + 1) cs with
    | [] => some []
    | cs =>
      match entry? (fuel + 1) cs with
      | none => none
      | some (e, rest) =>
        match restOfLine? rest with
        | none => none
        | some rest => (entries? fuel rest).map (e :: ·)

/-- The table with the entries, where `current` is the path of the last header. -/
def build? (current : List String) : List Entry → Fields → Option Fields
  | [], fs => some fs
  | .pair (path, v) :: rest, fs =>
    let (front, key) := splitPath path
    (within (addAt key v front) current fs).bind (build? current rest)
  | .header path :: rest, fs =>
    let (front, key) := splitPath path
    (within (define key) front fs).bind (build? path rest)
  | .next path :: rest, fs =>
    let (front, key) := splitPath path
    (within (defineNext key) front fs).bind (build? path rest)

/-- The table that the text is a document of. A byte order mark may stand in front. -/
def read? (s : String) : Option Fields :=
  let cs := match s.toList with
    | '\ufeff' :: cs => cs
    | cs => cs
  (entries? (2 * cs.length + 2) cs).bind fun es => build? [] es []

end CaseHerald.Toml
