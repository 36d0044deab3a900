import WaterRegistry.Json.Printer

/-!
# Field texts

Fields of a document read as display text.  A field that is missing, or that holds no scalar, reads
as the empty text.
-/

namespace WaterRegistry
namespace Json

/-- The display text of a value that may be missing. -/
def displayTextOf (value : Option Json) : String :=
  (value.map displayText).getD ""

/-- The text of a field of the document. -/
def textField (document : Json) (field : String) : String :=
  displayTextOf (document.get? field)

/-- The text of a field of the object in the field `parent`. -/
def nestedTextField (document : Json) (parent field : String) : String :=
  displayTextOf ((document.get? parent).bind fun inner => inner.get? field)

end Json
end WaterRegistry
