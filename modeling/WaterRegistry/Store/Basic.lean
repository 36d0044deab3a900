import WaterRegistry.Document.FieldText
import WaterRegistry.Document.Path
import WaterRegistry.Json.Equality
import WaterRegistry.Registry.Error
import WaterRegistry.Search.Query
import WaterRegistry.Search.Response

/-!
# The entity store

The store keeps, for every entity type, its documents in the order of their insertion.  Ids are
given out from one counter for all types.  An insertion names the paths whose values have to be
unique within the type; a missing value and a null are not constrained.  Documents are compared up
to the order of fields and the sign of zeros.
-/

namespace WaterRegistry

/-- The field that holds the id of a stored entity. -/
def osidField : String := "osid"

/-- A document with the id it is stored under. -/
structure StoredEntity where
  osid : String
  document : Json
  deriving DecidableEq

/-- The stored entities by type, types in the order of their first insertion, and the number of the
next id. -/
structure Store where
  entities : List (String × List StoredEntity)
  nextId : UInt32
  deriving DecidableEq

/-- A document to be stored, and the paths whose values have to be unique. -/
structure Insertion where
  entityType : String
  document : Json
  uniquePaths : List String
  deriving DecidableEq

/-- The error of a document that is no object. -/
def notAnObject (entityType : String) : RegistryError :=
  .invalidPayload (entityType ++ " document is not an object")

namespace Store

/-- The store before any insertion. -/
def empty : Store where
  entities := []
  nextId := 1

/-- The entities of a type, in the order of their insertion. -/
def entitiesOf (store : Store) (entityType : String) : List StoredEntity :=
  (store.entities.lookup entityType).getD []

/-- The documents of a type, in the order of their insertion. -/
def documentsOf (store : Store) (entityType : String) : List Json :=
  (store.entitiesOf entityType).map (·.document)

/-- Adds an entity behind the others of its type. -/
def addEntity (entityType : String) (entity : StoredEntity) :
    List (String × List StoredEntity) → List (String × List StoredEntity)
  | [] => [(entityType, [entity])]
  | (name, stored) :: rest =>
    if name = entityType then (name, stored ++ [entity]) :: rest
    else (name, stored) :: addEntity entityType entity rest

/-- The pointer that a constrained path stands for. -/
def pointerOfPath (path : String) : String :=
  if path.toList.head? = some '/' then path else "/" ++ path

/-- The value of a document that a constrained path makes unique. -/
def constrainedValue? (document : Json) (path : String) : Option Json :=
  match document.pointer? (pointerOfPath path) with
  | none | some .null => none
  | some value => some value

/-- Whether one of the stored documents has the same value at a constrained path. -/
def holds (stored : List StoredEntity) (path : String) (value : Json) : Bool :=
  stored.any fun entity =>
    match entity.document.pointer? (pointerOfPath path) with
    | none => false
    | some other => other.same value

/-- The first of the paths whose value one of the stored documents has already. -/
def firstViolation? (stored : List StoredEntity) (document : Json) :
    List String → Option (String × Json)
  | [] => none
  | path :: rest =>
    match constrainedValue? document path with
    | none => firstViolation? stored document rest
    | some value =>
      if holds stored path value then some (path, value)
      else firstViolation? stored document rest

/-- The name of a constrained field in messages: its path without leading slashes. -/
def fieldName (path : String) : String :=
  String.ofList (path.toList.dropWhile (· = '/'))

/-- The next id. -/
def nextOsid (store : Store) : String :=
  "1-" ++ toString store.nextId.toNat

/-- Stores a document under the next id, which is also written into it, and gives the id back. -/
def insert (store : Store) (insertion : Insertion) : Except RegistryError String × Store :=
  match insertion.document with
  | .obj fields =>
    let stored := store.entitiesOf insertion.entityType
    match firstViolation? stored insertion.document insertion.uniquePaths with
    | some (path, value) =>
      (.error (.uniqueConstraint (fieldName path) value.displayText), store)
    | none =>
      let osid := store.nextOsid
      let entity := ⟨osid, .obj (Fields.set osidField (.str osid) fields)⟩
      (.ok osid,
        { entities := addEntity insertion.entityType entity store.entities
          nextId := store.nextId + 1 })
  | _ => (.error (notAnObject insertion.entityType), store)

/-- The document of a type that is stored under an id. -/
def get? (store : Store) (entityType osid : String) : Option Json :=
  ((store.entitiesOf entityType).find? (·.osid = osid)).map (·.document)

/-- Whether a document meets every filter of a query. -/
def meets (query : SearchQuery) (document : Json) : Bool :=
  query.filters.entries.all fun (path, .eq expected) =>
    match document.lookupDotted path with
    | none => false
    | some value => value.same expected

/-- The documents of a type that meet every filter of a query. -/
def hits (store : Store) (query : SearchQuery) (entityType : String) : List Json :=
  (store.documentsOf entityType).filter (meets query)

/-- What a response says about one type: the number of all matches, and the page that is wanted. -/
def entry (store : Store) (query : SearchQuery) (entityType : String) : Json :=
  let found := store.hits query entityType
  responseEntry found.length ((found.drop query.offset).take query.limit)

/-- The response to a query, with an entry for every type that is asked for. -/
def search (store : Store) (query : SearchQuery) : Json :=
  .obj (Fields.ofEntries (query.entityTypes.map fun name => (name, store.entry query name)))

end Store
end WaterRegistry
