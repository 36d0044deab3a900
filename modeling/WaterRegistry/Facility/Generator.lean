import WaterRegistry.Facility.Key
import WaterRegistry.Generator.Inquiry
import WaterRegistry.Identifier.Field
import WaterRegistry.Relay.Basic

/-!
# Generating facility identifiers

The identifier of a facility is derived from the document that is bound in the relay.  Before it is
given out, a search tells whether a facility has it already.  A confirmed match refuses the
creation.  A search that fails is passed over: the store's uniqueness constraint still stands.
-/

namespace WaterRegistry
namespace Facility

/-- The search for facilities that have an identifier. -/
def duplicateQuery (id : String) : SearchQuery :=
  (((SearchQuery.forEntity facilityType).withEq facilityIdField (.str id)).withLimit 1).withOffset 0

/-- The error of an identifier that a facility has already. -/
def duplicateError (id : String) : GenerationError :=
  .duplicate id
    ("Duplicate " ++ facilityType ++ ": A water point with " ++ facilityIdField ++ " '" ++ id ++
      "' already exists. " ++
      "Water points with the same geoCode, type, and location are not allowed.")

/-- The identifier, for the first of the requested fields that is meant for it. -/
def issue (id : String) (fields : List IdentifierField) : GeneratedIdentifier :=
  match fields.find? (·.isNamed facilityIdField) with
  | some field => SortedTable.empty.insert field.path id
  | none => .empty

/-- Refuses the identifier when the search reports a match, and issues it in every other case. -/
def decide (id : String) (fields : List IdentifierField) (result : SearchResult) : Generation :=
  match result.bind fun response => totalCount response facilityType with
  | .ok (_ + 1) => .error (duplicateError id)
  | .ok 0 | .error _ => .ok (issue id fields)

/-- What is done with a request for fields while an entity is bound: nothing, unless the entity is
a facility. -/
def inquire (binding : Option Binding) (fields : List IdentifierField) : Inquiry :=
  match binding with
  | none => .settled (.ok .empty)
  | some binding =>
    if binding.entityType = facilityType then
      let id := (FacilityKey.ofDocument binding.payload).id
      .search (duplicateQuery id) (decide id fields)
    else .settled (.ok .empty)

end Facility
end WaterRegistry
