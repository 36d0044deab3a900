import WaterRegistry.Json.Basic
import WaterRegistry.Numeric.Shortest

/-!
# Writing documents

Documents are written without blanks.  In strings only quotes, backslashes and the characters below
U+0020 are escaped; five of these have short escapes, the others are written with two lowercase
hexadecimal digits.
-/

namespace WaterRegistry

/-- How a number is written. -/
def Number.text : Number → String
  | .int value => toString value
  | .double value => value.text

/-- One hexadecimal digit, in lowercase. -/
def hexDigit (n : Nat) : Char :=
  Nat.digitChar (n % 16)

namespace Json

/-- How a character is written inside a string. -/
def escape (c : Char) : List Char :=
  if c = '"' then ['\\', '"']
  else if c = '\\' then ['\\', '\\']
  else if c = '\n' then ['\\', 'n']
  else if c = '\r' then ['\\', 'r']
  else if c = '\t' then ['\\', 't']
  else if c.val = 8 then ['\\', 'b']
  else if c.val = 12 then ['\\', 'f']
  else if c.val < 32 then
    ['\\', 'u', '0', '0', hexDigit (c.toNat / 16), hexDigit c.toNat]
  else [c]

/-- A text in quotes. -/
def quote (text : String) : String :=
  String.ofList ('"' :: text.toList.flatMap escape ++ ['"'])

mutual

/-- A document as compact text. -/
def render : Json → String
  | .null => "null"
  | .bool value => if value then "true" else "false"
  | .num value => value.text
  | .str value => quote value
  | .arr items => "[" ++ String.intercalate "," (renderItems items) ++ "]"
  | .obj fields => "\x7b" ++ String.intercalate "," (renderFields fields) ++ "\x7d"

/-- The texts of list items. -/
def renderItems : List Json → List String
  | [] => []
  | item :: rest => render item :: renderItems rest

/-- The texts of fields. -/
def renderFields : List (String × Json) → List String
  | [] => []
  | (key, value) :: rest => (quote key ++ ":" ++ render value) :: renderFields rest

end

/-- A value as display text: strings as they are, numbers and booleans as they are written, and
nothing for all else. -/
def displayText : Json → String
  | .str value => value
  | .num value => value.text
  | .bool value => if value then "true" else "false"
  | .null | .arr _ | .obj _ => ""

end Json
end WaterRegistry
