import WaterRegistry.Generator.Basic
import WaterRegistry.Registry.Creation
import WaterRegistry.Store.Client

/-!
# The registry of water points

The running registry: a store within reach, and a creation pipeline in which the facility generator
finds the entity that is being created and asks the same store for duplicates.
-/

namespace WaterRegistry

/-- A registry of water points. -/
structure FacilityRegistry where
  config : Config
  store : Store
  deriving DecidableEq

namespace FacilityRegistry

/-- The schemas that hold without a configuration: facilities with their identifier, and
organisations without any. -/
def defaultConfig : Config :=
  { Config.basic with
    schemas := [⟨facilityType, [⟨"/" ++ facilityIdField⟩]⟩, ⟨"Organisation", []⟩] }

/-- The generators that a registry of water points chooses from. -/
def candidates : List Generator :=
  [Generator.newSequence "id", .facility .store]

/-- A registry over an empty store, unless its request buffer cannot have the configured size. -/
def start? (config : Config) : Option FacilityRegistry :=
  if isBufferSize config.storeBuffer then some ⟨config, .empty⟩ else none

/-- The identifiers for the entity of a request. -/
def generate (search : SearchQuery → SearchResult) (root : Json) (fields : List IdentifierField) :
    Generation :=
  (Facility.inquire (Relay.capturing root).current fields).answeredBy search

/-- Creates an entity and gives its id, with searches answered by `search`. -/
def createWith (registry : FacilityRegistry) (search : SearchQuery → SearchResult) (root : Json) :
    Except RegistryError String × FacilityRegistry :=
  let (result, store) := registry.store.create registry.config (generate search root) root
  (result, { registry with store })

/-- Creates an entity and gives its id. -/
def create (registry : FacilityRegistry) (root : Json) :
    Except RegistryError String × FacilityRegistry :=
  registry.createWith (fun query => .ok (registry.store.search query)) root

/-- The document of a type that is stored under an id. -/
def entity (registry : FacilityRegistry) (entityType osid : String) : Except RegistryError Json :=
  match registry.store.get? entityType osid with
  | some document => .ok document
  | none => .error (.notFound osid)

end FacilityRegistry
end WaterRegistry
