import CaseHerald.Case.Record

/-!
# Names of cases

A case is named by its parent and its number, with `/cases/` between them. `split?` takes a name
apart at the last place where it says so.
-/
namespace CaseHerald

namespace CaseName

/-- What stands between the parent and the number. -/
def separator : List Char := ['/', 'c', 'a', 's', 'e', 's', '/']

/-- The name of the case with the parent and the number. -/
def join (parent number : String) : String :=
  if parent.isEmpty then "cases/" ++ number else parent ++ "/cases/" ++ number

/-- The characters before and after the last separator. -/
def splitLast : List Char → Option (List Char × List Char)
  | [] => none
  | c :: cs =>
    match splitLast cs with
    | some (before, after) => some (c :: before, after)
    | none =>
      if separator.isPrefixOf (c :: cs) then some ([], (c :: cs).drop separator.length) else none

/-- The parent and the number in a name. Neither is empty, and the number has no slash. -/
def split? (name : String) : Option (String × String) :=
  match splitLast name.toList with
  | none => none
  | some (parent, number) =>
    if parent.isEmpty || number.isEmpty || number.contains '/' then none
    else some (String.ofList parent, String.ofList number)

end CaseName

/-- The name of the case in the case service. -/
def CaseRecord.resourceName (r : CaseRecord) : String := CaseName.join r.parent r.number

end CaseHerald
