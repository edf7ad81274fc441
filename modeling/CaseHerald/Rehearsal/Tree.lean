import CaseHerald.Watch.Interface

/-!
# A resource tree for rehearsals

The tree is given as data: the parents of cases, the projects and the folders. What is not in it is
not found. Lookups are logged as the names of what is looked up.
-/
namespace CaseHerald.Rehearsal

/-- A project of the tree, and whether lookups of it are logged. -/
structure TreeProject where
  project : Project
  logged : Bool

/-- The tree: what is under each case number, project id and folder id. -/
structure Tree where
  parents : List (String × String)
  projects : List (String × TreeProject)
  folders : List (String × Folder)

/-- The value under a name. -/
def valueOf? {α : Type} (name : String) (entries : List (String × α)) : Option α :=
  (entries.find? fun e => e.1 == name).map (·.2)

namespace Tree

/-- The tree without resources. -/
def empty : Tree := ⟨[], [], []⟩

/-- What the tree has under a lookup, or the failure to find it. -/
def found {α : Type} (l : Lookup) : Option α → Except HierarchyFailure α
  | some a => .ok a
  | none => .error (.lookup l.resource "not found")

/-- What the tree answers. -/
def find (t : Tree) : (l : Lookup) → Except HierarchyFailure l.Answer
  | .parent number => found (.parent number) (valueOf? number t.parents)
  | .project id => found (.project id) ((valueOf? id t.projects).map (·.project))
  | .folder id => found (.folder id) (valueOf? id t.folders)

/-- Whether a lookup is logged. -/
def logs (t : Tree) : Lookup → Bool
  | .project id => ((valueOf? id t.projects).map (·.logged)).getD true
  | _ => true

end Tree

end CaseHerald.Rehearsal
