import CaseHerald.Json.Record
import CaseHerald.Support.Client

/-!
# The resource service

Projects and folders are looked up in the resource service, the parents of cases in the case service.
A lookup that fails names the resource and the cause.
-/
namespace CaseHerald

open Json (Record Decoder)

/-- The project of a document of the resource service. -/
def Project.ofPayload? : Decoder Project := fun raw => do
  let r ← Record.read? ["name", "projectId", "parent"] false raw
  let name ← r.need "name" .text
  let projectId ← r.orElse "projectId" .text ""
  let parent ← r.orElse "parent" .text ""
  return { name, projectId, parent }

/-- The folder of a document of the resource service. -/
def Folder.ofPayload? : Decoder Folder := fun raw => do
  let r ← Record.read? ["name", "parent"] false raw
  let name ← r.need "name" .text
  let parent ← r.orElse "parent" .text ""
  return { name, parent }

/-- A client of the resource service. -/
structure ResourceClient where
  transport : Net.Transport

namespace ResourceClient

/-- The name of the service. -/
def serviceName : String := "cloudresourcemanager"

/-- The client that a configuration tells. -/
def ofConfig (c : Config) : ResourceClient := ⟨.ofConfig serviceName c.resourceManagerUrl c⟩

/-- The client as it is shown, without its secrets. -/
def debug (c : ResourceClient) : String :=
  "ResourceManagerClient \x7b transport: " ++ c.transport.debug ++ " \x7d"

/-- The failure of a lookup. -/
def failed (l : Lookup) (f : SourceFailure) : HierarchyFailure := .lookup l.resource f.message

/-- The document of a resource. -/
def get {α : Type} (c : ResourceClient) (l : Lookup) (d : Decoder α) :
    Attempt Net.interface HierarchyFailure α :=
  (c.transport.get ("v3/" ++ l.resource) [] d).wrap (failed l)

/-- What the services tell of the resource tree. -/
def find (c : ResourceClient) (support : Support.Client) :
    (l : Lookup) → Attempt Net.interface HierarchyFailure l.Answer
  | .parent number => (support.caseParent number).wrap (failed (.parent number))
  | .project id => c.get (.project id) Project.ofPayload?
  | .folder id => c.get (.folder id) Folder.ofPayload?

end ResourceClient

end CaseHerald
