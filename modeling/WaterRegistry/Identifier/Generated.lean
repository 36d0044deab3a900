import WaterRegistry.Json.Reader
import WaterRegistry.SortedTable

/-!
# Generated identifiers

What a generator hands back: a value for every path it fills, in ascending order of paths.
-/

namespace WaterRegistry

/-- Generated values by the path they are for. -/
abbrev GeneratedIdentifier := SortedTable String

namespace GeneratedIdentifier

/-- The values as a document. -/
def toJson (generated : GeneratedIdentifier) : Json :=
  .obj (generated.entries.map fun entry => (entry.1, .str entry.2))

/-- Reads values by path; of a repeated path the last value counts. -/
def read : Reader GeneratedIdentifier := fun found =>
  (Reader.table Reader.text found).map SortedTable.ofEntries

end GeneratedIdentifier
end WaterRegistry
