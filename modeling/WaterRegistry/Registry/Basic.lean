import WaterRegistry.Generator.Basic
import WaterRegistry.Registry.Creation
import WaterRegistry.Store.Client

/-!
# The registry

A registry creates entities: it checks the request, has the identifiers generated, writes them into
the document and has the document stored.  If it captures entities, the entity of a request is bound
in the relay while its identifiers are generated; otherwise generators find nothing there.
-/

namespace WaterRegistry

/-- A registry over a store. -/
structure Registry where
  config : Config
  client : StoreClient
  generator : Generator
  captures : Bool

namespace Registry

/-- A registry over a new store, with the preferred one of some generators. -/
def withGenerators (config : Config) (client : StoreClient) (captures : Bool)
    (candidates : List Generator) : Except RegistryError Registry :=
  match Generator.select candidates with
  | some generator => .ok { config, client, generator, captures }
  | none => .error .noGenerator

/-- What generators find in the relay during a creation. -/
def boundDuring (registry : Registry) (root : Json) : Option Binding :=
  if registry.captures then (Relay.capturing root).current else none

/-- Has the fields of a draft generated; where there are none, no generator is asked. -/
def generate (registry : Registry) (search : SearchQuery → SearchResult) (root : Json)
    (draft : Draft) : Option Generation × Registry :=
  if draft.fields.isEmpty then (some (.ok .empty), registry)
  else
    let (generation, generator) :=
      registry.generator.generate search (registry.boundDuring root) draft.fields
    (generation, { registry with generator })

/-- Creates an entity and gives its id, with searches answered by `search`.  There is no answer if
a search or the store gives none. -/
def createWith (registry : Registry) (search : SearchQuery → SearchResult) (root : Json) :
    Reply String × Registry :=
  match Draft.ofRoot registry.config root with
  | .error error => (some (.error error), registry)
  | .ok draft =>
    match registry.generate search root draft with
    | (none, registry) => (none, registry)
    | (some generation, registry) =>
      match draft.complete generation with
      | .error error => (some (.error error), registry)
      | .ok insertion =>
        let (reply, client) := registry.client.insert insertion
        (reply, { registry with client })

/-- Creates an entity and gives its id. -/
def create (registry : Registry) (root : Json) : Reply String × Registry :=
  registry.createWith registry.client.search root

/-- The document of a type that is stored under an id. -/
def entity (registry : Registry) (entityType osid : String) : Reply Json :=
  (registry.client.get entityType osid).map fun result =>
    result.bind fun found =>
      match found with
      | some document => .ok document
      | none => .error (.notFound osid)

/-- Lets the generator take note of the fields of every schema. -/
def saveFormats (registry : Registry) : Except RegistryError Unit :=
  registry.generator.saveFormats registry.config

end Registry
end WaterRegistry
