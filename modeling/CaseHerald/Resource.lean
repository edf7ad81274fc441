import CaseHerald.Text.Blank
import CaseHerald.Text.Digit

/-!
# The resource tree

Projects lie in folders or in an organisation, folders in folders or in an organisation. A path names
the collection of a resource and its id. An asset is a resource whose new cases are to gain the
listed subscribers; it applies to a case that lies below it.
-/
namespace CaseHerald

/-- What the characters have after the front, if they begin with it. -/
def afterFront? (front cs : List Char) : Option (List Char) :=
  if front.isPrefixOf cs then some (cs.drop front.length) else none

/-- The id after the first `projects/` that an id follows. -/
def projectIdIn? : List Char → Option (List Char)
  | [] => none
  | c :: cs =>
    match afterFront? "projects/".toList (c :: cs) with
    | some rest =>
      let id := rest.takeWhile (· != '/')
      if id.isEmpty then projectIdIn? cs else some id
    | none => projectIdIn? cs

/-- The project that the path of a case's parent names. -/
def projectOfParent? (path : String) : Option String :=
  (projectIdIn? path.toList).map String.ofList

/-- A parent to which a walk up the tree can go. -/
inductive ParentRef
  | organization (id : String)
  | folder (id : String)
  deriving DecidableEq, Repr

/-- The parent that the path names: an organisation, whose id has only digits, or a folder. -/
def ParentRef.read? (path : String) : Option ParentRef :=
  let cs := Text.trimChars path.toList
  match afterFront? "organizations/".toList cs with
  | some id =>
    if !id.isEmpty && id.all Text.isDecimalDigit then some (.organization (String.ofList id)) else none
  | none =>
    match afterFront? "folders/".toList cs with
    | some id =>
      if !id.isEmpty && !id.contains '/' then some (.folder (String.ofList id)) else none
    | none => none

/-- What the resource service tells of a project. -/
structure Project where
  name : String
  projectId : String
  parent : String
  deriving DecidableEq, Repr

/-- What the resource service tells of a folder. -/
structure Folder where
  name : String
  parent : String
  deriving DecidableEq, Repr

/-- The kind of an asset. -/
inductive AssetKind
  | organization
  | folder
  | project
  deriving DecidableEq, Repr

namespace AssetKind

/-- The name of the kind. -/
def name : AssetKind → String
  | .organization => "organization"
  | .folder => "folder"
  | .project => "project"

/-- The collection that resources of the kind belong to. -/
def collection : AssetKind → String
  | .organization => "organizations"
  | .folder => "folders"
  | .project => "projects"

/-- All kinds with their names. -/
def named : List (String × AssetKind) :=
  [organization, folder, project].map fun k => (k.name, k)

end AssetKind

/-- A resource whose new cases gain subscribers. -/
structure Asset where
  channel : String
  kind : AssetKind
  /-- the id, by itself or as a path -/
  id : String
  ccList : List String
  user : String
  deriving DecidableEq, Repr

namespace Asset

/-- The id without the collection in front. -/
def bareId (a : Asset) : String :=
  match afterFront? (a.kind.collection.toList ++ ['/']) a.id.toList with
  | some rest => String.ofList rest
  | none => a.id

/-- The key of the asset: there is one entry for each channel, kind and id. -/
def key (a : Asset) : String := a.channel ++ ":" ++ a.kind.name ++ ":" ++ a.bareId

end Asset

/-- Where the project of a case lies in the resource tree. -/
structure Ancestry where
  organization : Option String
  /-- the nearest first -/
  folders : List String
  /-- every id by which the project is known -/
  project : List String
  deriving DecidableEq, Repr

/-- Whether what lies there lies below the asset. -/
def Ancestry.isBelow (place : Ancestry) (a : Asset) : Bool :=
  match a.kind with
  | .organization => place.organization == some a.bareId
  | .folder => place.folders.contains a.bareId
  | .project => place.project.contains a.bareId

end CaseHerald
