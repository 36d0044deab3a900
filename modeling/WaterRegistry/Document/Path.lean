import WaterRegistry.Json.Basic
import WaterRegistry.Numeric.Digits
import WaterRegistry.Text.Split

/-!
# Paths into documents

Three notations name a place in a document.  A dotted path `a.b` follows object keys.  A pointer
`/a/b` follows object keys and list positions, with `~1` and `~0` standing for `/` and `~`.  The
path of an identifier field, `/a/b` or `a/b`, follows object keys, and slashes that separate nothing
are left out; `writePath` writes there, and creates the objects that are missing on the way.
-/

namespace WaterRegistry
namespace Json

/-- Follows object keys. -/
def getKeys? (document : Json) : List String → Option Json
  | [] => some document
  | key :: keys => (document.get? key).bind fun inner => inner.getKeys? keys

/-- The value at a dotted path. -/
def lookupDotted (document : Json) (path : String) : Option Json :=
  document.getKeys? (splitOnChar '.' path)

/-- The characters of a pointer token, with `~1` and `~0` resolved. -/
def unescapeToken : List Char → List Char
  | '~' :: '1' :: rest => '/' :: unescapeToken rest
  | '~' :: '0' :: rest => '~' :: unescapeToken rest
  | c :: rest => c :: unescapeToken rest
  | [] => []

/-- The list position that a token names: decimal digits without leading zeros. -/
def tokenIndex? (token : String) : Option Nat :=
  let cs := token.toList
  if cs = [] ∨ ¬ cs.all Char.isDigit ∨ (cs.head? = some '0' ∧ cs.length ≠ 1) then none
  else some (natOfDigits (cs.map digitValue))

/-- The value that one token of a pointer leads to. -/
def step? (document : Json) (token : String) : Option Json :=
  match document with
  | .obj fields => Fields.get? token fields
  | .arr items => (tokenIndex? token).bind fun index => items[index]?
  | _ => none

/-- Follows the tokens of a pointer. -/
def followTokens (document : Json) : List String → Option Json
  | [] => some document
  | token :: tokens => (document.step? token).bind fun inner => inner.followTokens tokens

/-- The tokens of a pointer, which is empty or starts with a slash. -/
def pointerTokens? (pointer : String) : Option (List String) :=
  if pointer = "" then some []
  else
    match splitOnChar '/' pointer with
    | "" :: tokens => some (tokens.map fun token => String.ofList (unescapeToken token.toList))
    | _ => none

/-- The value that a pointer leads to. -/
def pointer? (document : Json) (pointer : String) : Option Json :=
  (pointerTokens? pointer).bind document.followTokens

/-- The keys on the path of an identifier field. -/
def pathKeys (path : String) : List String :=
  (splitOnChar '/' path).filter (· ≠ "")

/-- Writes a value below object keys, and tells whether it could be written.  A missing key is
filled with an empty object on the way; a value that is no object ends the way. -/
def writeKeys (value : Json) : List String → Json → Json × Bool
  | [], document => (document, false)
  | [key], .obj fields => (.obj (Fields.set key value fields), true)
  | key :: keys, .obj fields =>
    let (inner, written) := writeKeys value keys ((Fields.get? key fields).getD (.obj []))
    (.obj (Fields.set key inner fields), written)
  | _ :: _, document => (document, false)

/-- Writes a value at the path of an identifier field, and tells whether it could be written. -/
def writePath (document : Json) (path : String) (value : Json) : Json × Bool :=
  writeKeys value (pathKeys path) document

end Json
end WaterRegistry
