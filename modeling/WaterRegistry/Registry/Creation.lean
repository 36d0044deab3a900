import WaterRegistry.Generator.Inquiry
import WaterRegistry.Relay.Basic
import WaterRegistry.Store.Basic

/-!
# Creation requests

A creation request is an object keyed by entity type.  Before any identifier is generated it is
either refused or turned into a draft; a draft with its generated identifiers is what the store is
asked to insert.
-/

namespace WaterRegistry

/-- An accepted creation request: a document of a known type, and the fields to be generated. -/
structure Draft where
  entityType : String
  document : Json
  fields : List IdentifierField
  deriving DecidableEq

namespace Draft

/-- The draft of a creation request. -/
def ofRoot (config : Config) (root : Json) : Except RegistryError Draft :=
  match Binding.ofRoot? root with
  | none => .error (.invalidPayload "expected an object keyed by entity type")
  | some ⟨document, entityType⟩ =>
    if document.isObject then
      match config.schema? entityType with
      | some schema => .ok ⟨entityType, document, schema.identifierFields⟩
      | none => .error (.unknownEntityType entityType)
    else .error (notAnObject entityType)

/-- Writes generated values into a document, in ascending order of their paths.  A value that cannot
be written is left out. -/
def fill (document : Json) (generated : GeneratedIdentifier) : Json :=
  generated.entries.foldl (fun filled entry => (filled.writePath entry.1 (.str entry.2)).1) document

/-- The insertion that a draft comes to with its generated values. -/
def complete (draft : Draft) : Generation → Except RegistryError Insertion
  | .ok generated =>
    .ok ⟨draft.entityType, fill draft.document generated, draft.fields.map (·.path)⟩
  | .error error => .error (.generation error)

/-- The values for the fields of a draft; where there are no fields, `generate` is not asked. -/
def generation (draft : Draft) (generate : List IdentifierField → Generation) : Generation :=
  if draft.fields.isEmpty then .ok .empty else generate draft.fields

end Draft

/-- Creates an entity in a store and gives its id, with identifiers from `generate`. -/
def Store.create (store : Store) (config : Config) (generate : List IdentifierField → Generation)
    (root : Json) : Except RegistryError String × Store :=
  match Draft.ofRoot config root with
  | .error error => (.error error, store)
  | .ok draft =>
    match draft.complete (draft.generation generate) with
    | .error error => (.error error, store)
    | .ok insertion => store.insert insertion

end WaterRegistry
