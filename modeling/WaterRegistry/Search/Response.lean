import WaterRegistry.Json.Printer

/-!
# Search responses

A response is a document keyed by entity type: `{"WaterFacility": {"totalCount": 1, "data": […]}}`.
A search can also fail for reasons of its own.
-/

namespace WaterRegistry

/-- Why a search gives no usable response. -/
inductive SearchError where
  | unavailable (text : String)
  | timeout
  | malformed (text : String)
  deriving DecidableEq

/-- The wording of a search error. -/
def SearchError.message : SearchError → String
  | .unavailable text => "Search service unavailable: " ++ text
  | .timeout => "Search timed out"
  | .malformed text => "Malformed search response: " ++ text

/-- What a search gives. -/
abbrev SearchResult := Except SearchError Json

/-- The entry of one type in a response. -/
def responseEntry (count : Nat) (page : List Json) : Json :=
  .obj [("totalCount", .ofNat count), ("data", .arr page)]

/-- The number of matches that a response reports for a type.  A response that says nothing about
the type reports none; a count that is no unsigned 64-bit integer is malformed. -/
def totalCount (response : Json) (entityType : String) : Except SearchError Nat :=
  match response.get? entityType with
  | none => .ok 0
  | some entry =>
    match entry.get? "totalCount" with
    | none | some .null => .ok 0
    | some count =>
      match count.count? with
      | some n => .ok n
      | none =>
        .error (.malformed ("totalCount for " ++ entityType ++ " is " ++ count.render))

end WaterRegistry
