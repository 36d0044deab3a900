import WaterRegistry.Json.Outline
import WaterRegistry.Json.Printer
import WaterRegistry.Text.Quoted

/-!
# Why a text cannot be read

Reading fails because the text is malformed or ends too early, or because a value in it has the
wrong shape.  Only the latter comes with a message, which names what was found and what was
expected in its place.
-/

namespace WaterRegistry

/-- A value of the wrong shape. -/
inductive Mismatch where
  | missingField (name : String)
  | duplicateField (name : String)
  | wrongType (found expected : String)
  | wrongValue (found expected : String)
  | wrongLength (length : Nat) (expected : String)
  | unknownVariant (found expected : String)
  deriving DecidableEq

/-- The wording of a mismatch. -/
def Mismatch.message : Mismatch → String
  | .missingField name => "missing field `" ++ name ++ "`"
  | .duplicateField name => "duplicate field `" ++ name ++ "`"
  | .wrongType found expected => "invalid type: " ++ found ++ ", expected " ++ expected
  | .wrongValue found expected => "invalid value: " ++ found ++ ", expected " ++ expected
  | .wrongLength length expected =>
    "invalid length " ++ toString length ++ ", expected " ++ expected
  | .unknownVariant found expected =>
    "unknown variant `" ++ found ++ "`, expected `" ++ expected ++ "`"

/-- Why a text cannot be read as the value that is wanted. -/
inductive ReadError where
  | mismatch (what : Mismatch)
  | fault (what : Fault)
  deriving DecidableEq

/-- The wording of a read error; positions in the text are not part of it. -/
def ReadError.message : ReadError → String
  | .mismatch what => what.message
  | .fault .malformed => "malformed text"
  | .fault .truncated => "unexpected end of text"

/-- How messages describe a number. -/
def Number.description : Number → String
  | .int value => "integer `" ++ toString value ++ "`"
  | .double value => "floating point `" ++ value.text ++ "`"

namespace Outline

/-- How messages describe a value; containers are not looked into. -/
def description : Outline → Except Fault String
  | .null => .ok "null"
  | .bool value => .ok (if value then "boolean `true`" else "boolean `false`")
  | .number (some value) => .ok value.description
  | .number none => .error .malformed
  | .text reading _ => reading.map fun text => "string " ++ quoted text
  | .list _ _ => .ok "sequence"
  | .record _ _ => .ok "map"
  | .buried container => description container
  | .broken reading _ => .error reading
  | .absent => .error .truncated

/-- The error of a value that stands where `expected` should. -/
def wrongType (expected : String) (found : Outline) : ReadError :=
  match found.description with
  | .ok description => .mismatch (.wrongType description expected)
  | .error fault => .fault fault

end Outline
end WaterRegistry
