import CaseHerald.Text.Blank
import CaseHerald.Text.Numeral
import CaseHerald.Text.Quoted

/-!
# State and priority of a case

The case service reports a case in one of six states, of which all but one count as open. A priority
is one of five, P0 being the most urgent; it is read from several spellings and written in one.
-/
namespace CaseHerald

/-- A field whose value does not fit the model of a case. -/
structure FieldFault where
  field : String
  value : String
  deriving DecidableEq, Repr

/-- The fault in words. -/
def FieldFault.message (f : FieldFault) : String :=
  "Unrecognized " ++ f.field ++ " value: " ++ Text.quoted f.value

/-- Whether a case is still worked on. -/
inductive CaseState
  | active
  | closed
  deriving DecidableEq, Repr

namespace CaseState

/-- The states of the service that count as open. -/
def activeNames : List String :=
  ["NEW", "ASSIGNED", "IN_PROGRESS_GOOGLE_SUPPORT", "ACTION_REQUIRED", "SOLUTION_PROVIDED"]

/-- The state that the service reports. -/
def ofReport (raw : String) : Except FieldFault CaseState :=
  if raw = "CLOSED" then .ok .closed
  else if raw ∈ activeNames then .ok .active
  else .error ⟨"state", raw⟩

/-- Whether the case is open. -/
def isActive : CaseState → Bool
  | .active => true
  | .closed => false

/-- The name of the state in a record. -/
def name : CaseState → String
  | .active => "OPEN"
  | .closed => "CLOSED"

/-- Both states with their names. -/
def named : List (String × CaseState) := [active, closed].map fun s => (s.name, s)

end CaseState

/-- A priority from P0, the most urgent, to P4. -/
structure Priority where
  ordinal : Fin 5
  deriving DecidableEq, Repr

namespace Priority

/-- The priority with the ordinal, if there is one. -/
def ofNat? (n : Nat) : Option Priority := if h : n < 5 then some ⟨⟨n, h⟩⟩ else none

/-- The ordinal as a text. -/
def digit (p : Priority) : String := toString p.ordinal.val

/-- The label of the priority, such as `P1`. -/
def label (p : Priority) : String := "P" ++ p.digit

/-- The characters after a letter for priority or severity. -/
def dropLetter : List Char → List Char
  | c :: rest => if c = 'P' ∨ c = 'p' ∨ c = 'S' ∨ c = 's' then rest else c :: rest
  | [] => []

/-- The priority of a text: its number, which a letter for priority or severity may precede. -/
def read (raw : String) : Except FieldFault Priority :=
  match (Text.naturalUpTo? Text.most8 (dropLetter (Text.trimChars raw.toList))).bind ofNat? with
  | some p => .ok p
  | none => .error ⟨"priority", raw⟩

end Priority

end CaseHerald
