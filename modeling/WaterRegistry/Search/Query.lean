import WaterRegistry.Json.Reader
import WaterRegistry.SortedTable

/-!
# Search queries

A query asks for the entities of some types whose fields meet every filter, and for one page of
them.  On the wire it is a document:

`{"entityType": ["WaterFacility"], "filters": {"wfId": {"eq": "WF-1"}}, "limit": 1, "offset": 0}`
-/

namespace WaterRegistry

/-- The condition on one field. -/
inductive Filter where
  | eq (value : Json)
  deriving DecidableEq

/-- A search for entities: their types, conditions by dotted path, and the page that is wanted. -/
structure SearchQuery where
  entityTypes : List String
  filters : SortedTable Filter
  limit : Nat
  offset : Nat
  deriving DecidableEq

namespace Filter

/-- The filter as a document. -/
def toJson : Filter → Json
  | .eq value => .obj [("eq", value)]

/-- The error of a filter of another name than `eq`. -/
def unknown (name : String) : ReadError :=
  .mismatch (.unknownVariant name "eq")

/-- Reads a filter: an object with its name and value, and nothing else. -/
def read : Reader Filter
  | .record [] stop => .error (.fault (stop.getD .malformed))
  | .record ((key, item) :: more) stop => do
    let name ← Reader.orFault key.keyText
    if name = "eq" then
      let value ← Reader.json item
      match more with
      | [] =>
        Reader.unlessFault stop
        pure (.eq value)
      | _ :: _ => .error (.fault .malformed)
    else .error (unknown name)
  | .text reading _ => do
    let name ← Reader.orFault reading
    if name = "eq" then .error (.mismatch (.wrongType "unit variant" "newtype variant"))
    else .error (unknown name)
  | .absent => .error (.fault .truncated)
  | _ => .error (.fault .malformed)

end Filter

namespace SearchQuery

/-- A query for all entities of one type, a hundred to a page. -/
def forEntity (entityType : String) : SearchQuery where
  entityTypes := [entityType]
  filters := .empty
  limit := 100
  offset := 0

/-- Asks in addition that a field has a value; a condition on the same field is replaced. -/
def withEq (query : SearchQuery) (path : String) (value : Json) : SearchQuery :=
  { query with filters := query.filters.insert path (.eq value) }

/-- Sets the size of the page. -/
def withLimit (query : SearchQuery) (limit : Nat) : SearchQuery :=
  { query with limit }

/-- Sets how many matches lie before the page. -/
def withOffset (query : SearchQuery) (offset : Nat) : SearchQuery :=
  { query with offset }

/-- The query as a document. -/
def toJson (query : SearchQuery) : Json :=
  .obj [
    ("entityType", .arr (query.entityTypes.map .str)),
    ("filters", .obj (query.filters.entries.map fun entry => (entry.1, entry.2.toJson))),
    ("limit", .ofNat query.limit),
    ("offset", .ofNat query.offset)]

/-- A query as it is written; filters and offset may be left out. -/
def shape : RecordShape SearchQuery where
  name := "SearchQuery"
  blank := ⟨[], .empty, 0, 0⟩
  fields := [
    ⟨"entityType", true, fun query found => do
      pure { query with entityTypes := ← Reader.list Reader.text found }⟩,
    ⟨"filters", false, fun query found => do
      pure { query with filters := .ofEntries (← Reader.table Filter.read found) }⟩,
    ⟨"limit", true, fun query found => do
      pure { query with limit := ← Reader.natural "usize" found }⟩,
    ⟨"offset", false, fun query found => do
      pure { query with offset := ← Reader.natural "usize" found }⟩]

/-- The query that a document describes. -/
def ofJson? (document : Json) : Except ReadError SearchQuery :=
  shape.read.readJson document

end SearchQuery
end WaterRegistry
