import WaterRegistry.Json.Reader

/-!
# Identifier fields

A schema names the fields whose values are generated.  A field is given by its path, and may be
written with or without a leading slash.
-/

namespace WaterRegistry

/-- A field that needs a generated value. -/
structure IdentifierField where
  path : String
  deriving DecidableEq

namespace IdentifierField

/-- The path as it is written, without one leading slash if there is one. -/
def bareName (field : IdentifierField) : String :=
  match field.path.toList with
  | '/' :: rest => String.ofList rest
  | _ => field.path

/-- Whether the field is `name`, written with or without a leading slash. -/
def isNamed (field : IdentifierField) (name : String) : Bool :=
  field.path = name || field.path = "/" ++ name

/-- The field as a document. -/
def toJson (field : IdentifierField) : Json :=
  .obj [("field", .str field.path)]

/-- A field as it is written in a schema. -/
def shape : RecordShape IdentifierField where
  name := "UniqueIdentifierField"
  blank := ⟨""⟩
  fields := [⟨"field", true, fun _ found => do pure ⟨← Reader.text found⟩⟩]

end IdentifierField
end WaterRegistry
