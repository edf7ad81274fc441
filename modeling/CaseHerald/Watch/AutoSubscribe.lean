import CaseHerald.Plan
import CaseHerald.Watch.Interface

/-!
# Subscribing to new cases

A new case is placed in the resource tree: its project, the folders above that, the nearest first,
and the organisation at the top. The assets that it lies below subscribe the addresses on their lists,
and one silent comment names those that are new.
-/
namespace CaseHerald.Watch

/-- The most folders above a project. -/
def mostFolders : Nat := 10

/-- The distinct texts among some, without empty ones, in order. -/
def distinctIds (ids : List String) : List String :=
  firstOfEach id (ids.filter fun id => !id.isEmpty)

/-- Follows folders upwards from a parent while `levels` are left. Answers the organisation at the
top, if it is one, and the folders, the nearest first. -/
def climb (project : String) : Nat → Option ParentRef →
    Attempt interface HierarchyFailure (Option String × List String)
  | _, none => return (none, [])
  | _, some (.organization id) => return (some id, [])
  | 0, some (.folder _) => throw (.tooDeep project mostFolders)
  | levels + 1, some (.folder id) => do
    let folder ← find (.folder id)
    let (organization, folders) ← climb project levels (ParentRef.read? folder.parent)
    return (organization, id :: folders)

/-- The path of the parent of a case, which is looked up where the record has none. -/
def parentPath (r : CaseRecord) : Attempt interface HierarchyFailure String :=
  if r.parent.isEmpty then find (.parent r.number) else pure r.parent

/-- The ids by which a project is known. -/
def projectIds (id : String) (p : Project) : List String :=
  let number := match afterFront? "projects/".toList p.name.toList with
    | some rest => String.ofList rest
    | none => p.name
  distinctIds [id, number, p.projectId]

/-- Where a case lies in the resource tree. -/
def ancestry (r : CaseRecord) : Attempt interface HierarchyFailure Ancestry := do
  let parent ← parentPath r
  match projectOfParent? parent with
  | none => throw (.noProject r.number parent)
  | some id =>
    let project ← find (.project id)
    let (organization, folders) ← climb project.name mostFolders (ParentRef.read? project.parent)
    return { organization, folders, project := projectIds id project }

/-- What came of subscribing to a case. -/
structure Subscribed where
  /-- the addresses that are new, each once -/
  added : List String
  commented : Bool
  /-- the number of assets and comments that failed -/
  failures : Nat
  deriving DecidableEq, Repr

/-- Nothing came of it. -/
def Subscribed.none : Subscribed := ⟨[], false, 0⟩

/-- Whether two texts agree up to the case of ASCII letters. -/
def sameAddress (a b : String) : Bool := a.toList.map Char.toLower = b.toList.map Char.toLower

/-- The addresses with one more, unless it is among them. -/
def addAddress (known : List String) (email : String) : List String :=
  if known.any (sameAddress · email) then known else known ++ [email]

/-- The text of the comment that names the new subscribers. -/
def subscriptionComment (emails : List String) : String :=
  "The following emails have been added automatically through asset subscription: " ++
    String.intercalate ", " emails

/-- Who signs the comment that names the new subscribers. -/
def subscriptionAuthor : String := "Auto Asset Subscription"

/-- The state of subscribing the lists of assets: what came of it so far, and the first asset that
added an address. -/
structure Gathering where
  sofar : Subscribed
  first : Option Asset

/-- Subscribes the list of one asset. -/
def subscribeAsset (number : String) (g : Gathering) (a : Asset) : Step Gathering := do
  match ← (subscribe a.channel number a.ccList a.user).caught with
  | .error _ => return { g with sofar := { g.sofar with failures := g.sofar.failures + 1 } }
  | .ok emails =>
    let added := emails.foldl addAddress g.sofar.added
    let first := if added.length = g.sofar.added.length then g.first else g.first.or (some a)
    return ⟨{ g.sofar with added }, first⟩

/-- Subscribes the lists of all assets that a new case lies below. -/
def autoSubscribe (r : CaseRecord) : Step Subscribed := do
  let assets : List Asset ← store .assets
  if assets.isEmpty then return .none
  let place ← (ancestry r).wrap .hierarchy
  let below := assets.filter fun a => place.isBelow a && !a.ccList.isEmpty
  let g ← below.foldlM (subscribeAsset r.number) ⟨.none, none⟩
  match g.first with
  | none => return g.sofar
  | some a =>
    let outcome ← (comment
      { channel := a.channel
        caseNumber := r.number
        body := subscriptionComment g.sofar.added
        user := a.user
        author := subscriptionAuthor
        announced := false }).caught
    match outcome with
    | .ok () => return { g.sofar with commented := true }
    | .error _ => return { g.sofar with failures := g.sofar.failures + 1 }

end CaseHerald.Watch
