import CaseHerald.Plan
import CaseHerald.Text.Blank
import CaseHerald.Text.LowerCase

/-!
# New subscribers

Two addresses are the same if they agree in lower case and without blanks at the ends. A request to
subscribe adds each address once, unless the case has it.
-/
namespace CaseHerald.Support

/-- What two spellings of one address have in common. -/
def addressKey (address : String) : String := Text.lower (Text.trim address)

/-- The requested addresses, trimmed, that are neither blank nor among the existing ones. The first
spelling of each is kept. -/
def newSubscribers (existing requested : List String) : List String :=
  let known := existing.map addressKey
  let wanted := (requested.map Text.trim).filter fun a => !a.isEmpty
  let keyed := wanted.map fun a => (Text.lower a, a)
  ((firstOfEach Prod.fst keyed).filter fun p => !known.contains p.1).map Prod.snd

end CaseHerald.Support
