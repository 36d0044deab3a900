import WaterRegistry.Identifier.Generated
import WaterRegistry.Registry.Error
import WaterRegistry.Search.Query
import WaterRegistry.Search.Response

/-!
# Inquiries

A generator settles a request at once, or asks for one search and decides by its result.  Keeping
the question apart from the decision leaves open who answers it, and when.
-/

namespace WaterRegistry

/-- The outcome of generating identifiers. -/
abbrev Generation := Except GenerationError GeneratedIdentifier

/-- What a generator makes of a request. -/
inductive Inquiry where
  | settled (generation : Generation)
  | search (query : SearchQuery) (decide : SearchResult → Generation)

/-- The outcome of an inquiry whose search gets the result that `search` gives. -/
def Inquiry.answeredBy (search : SearchQuery → SearchResult) : Inquiry → Generation
  | .settled generation => generation
  | .search query decide => decide (search query)

/-- Search results prepared beforehand, one for each search, and the queries received so far. -/
structure Script where
  remaining : List SearchResult
  received : List SearchQuery

/-- Uses up the next prepared result; without one there is no answer. -/
def Script.answer (script : Script) (query : SearchQuery) : Option SearchResult × Script :=
  (script.remaining.head?, ⟨script.remaining.tail, script.received ++ [query]⟩)

/-- The response that reports `count` matches of a type and shows none of them. -/
def countResponse (entityType : String) (count : Nat) : Json :=
  .obj [(entityType, responseEntry count [])]

end WaterRegistry
