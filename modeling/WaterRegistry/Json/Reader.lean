import WaterRegistry.Json.Mismatch

/-!
# Reading values of a known shape

A reader walks an outline from left to right and stops at the first problem.  Readers for numbers,
texts, lists and tables are combined by `RecordShape`, which describes a structure by its fields: an
object gives them by name in any order, with unknown keys skipped, and a list gives them in order,
the optional ones at the end left out if need be.
-/

namespace WaterRegistry

/-- A computation in two parts gives a result only if both parts do. -/
theorem exists_of_bind_eq_ok {ε α β : Type} {first : Except ε α} {next : α → Except ε β} {b : β}
    (h : (first >>= next) = .ok b) : ∃ a, first = .ok a ∧ next a = .ok b := by
  cases first with
  | error error => cases h
  | ok a => exact ⟨a, rfl, h⟩

/-- Reads the outline of a value. -/
abbrev Reader (α : Type) := Outline → Except ReadError α

namespace Reader

/-- Succeeds unless there is a fault. -/
def unlessFault : Option Fault → Except ReadError Unit
  | none => .ok ()
  | some fault => .error (.fault fault)

/-- What is there, or its fault. -/
def orFault {α : Type} : Except Fault α → Except ReadError α
  | .ok value => .ok value
  | .error fault => .error (.fault fault)

/-- A natural number below `2 ^ 64`; messages call the kind of number `expected`. -/
def natural (expected : String) : Reader Nat
  | .number (some (.int value)) =>
    if value < 0 then .error (.mismatch (.wrongValue (Number.int value).description expected))
    else .ok value.toNat
  | found => .error (found.wrongType expected)

/-- A text. -/
def text : Reader String
  | .text reading _ => orFault reading
  | found => .error (found.wrongType "a string")

/-- Reads values one after the other. -/
def each {α : Type} (read : Reader α) : List Outline → Except ReadError (List α)
  | [] => .ok []
  | item :: rest => do
    let value ← read item
    let more ← each read rest
    pure (value :: more)

/-- A list of values. -/
def list {α : Type} (read : Reader α) : Reader (List α)
  | .list items stop => do
    let values ← each read items
    unlessFault stop
    pure values
  | found => .error (found.wrongType "a sequence")

/-- Reads entries one after the other. -/
def eachEntry {α : Type} (read : Reader α) :
    List (Outline × Outline) → Except ReadError (List (String × α))
  | [] => .ok []
  | (key, item) :: rest => do
    let key ← orFault key.keyText
    let value ← read item
    let more ← eachEntry read rest
    pure ((key, value) :: more)

/-- The entries of an object, in document order and with repetitions. -/
def table {α : Type} (read : Reader α) : Reader (List (String × α))
  | .record entries stop => do
    let found ← eachEntry read entries
    unlessFault stop
    pure found
  | found => .error (found.wrongType "a map")

mutual

/-- Any value. -/
def json : Reader Json
  | .null => .ok .null
  | .bool value => .ok (.bool value)
  | .number (some value) => .ok (.num value)
  | .number none => .error (.fault .malformed)
  | .text reading _ => (orFault reading).map .str
  | .list items stop => do
    let values ← jsonItems items
    unlessFault stop
    pure (.arr values)
  | .record entries stop => do
    let found ← jsonEntries entries
    unlessFault stop
    pure (.obj (Fields.ofEntries found))
  | .buried _ => .error (.fault .malformed)
  | .broken reading _ => .error (.fault reading)
  | .absent => .error (.fault .truncated)

/-- Any values, one after the other. -/
def jsonItems : List Outline → Except ReadError (List Json)
  | [] => .ok []
  | item :: rest => do
    let value ← json item
    let more ← jsonItems rest
    pure (value :: more)

/-- Entries with any values, one after the other. -/
def jsonEntries : List (Outline × Outline) → Except ReadError (List (String × Json))
  | [] => .ok []
  | (key, item) :: rest => do
    let key ← orFault key.keyText
    let value ← json item
    let more ← jsonEntries rest
    pure ((key, value) :: more)

end

/-- Reads a whole text: nothing but blanks may follow the value. -/
def readText {α : Type} (read : Reader α) (text : String) : Except ReadError α := do
  let (outline, more) := Outline.ofText text
  let value ← read outline
  if more then .error (.fault .malformed) else pure value

/-- Reads a value that is already there. -/
def readJson {α : Type} (read : Reader α) (document : Json) : Except ReadError α :=
  read (Outline.ofJson document)

end Reader

/-- The document that a text holds. -/
def Json.ofText? (text : String) : Except ReadError Json :=
  Reader.json.readText text

/-- A field of a structure: its name, whether it has to be given, and how a value is put into it. -/
structure FieldShape (α : Type) where
  name : String
  required : Bool
  assign : α → Reader α

/-- A structure by its fields.  Reading starts from `blank` and assigns the fields as they come. -/
structure RecordShape (α : Type) where
  name : String
  blank : α
  fields : List (FieldShape α)

namespace RecordShape

variable {α : Type}

/-- How messages describe the structure. -/
def description (shape : RecordShape α) : String :=
  "struct " ++ shape.name

/-- How messages describe the structure with the number of its fields. -/
def sizedDescription (shape : RecordShape α) : String :=
  shape.description ++ " with " ++ toString shape.fields.length ++
    (if shape.fields.length = 1 then " element" else " elements")

/-- Assigns fields by name.  `seen` are the names given so far; no name may be given twice, and
unknown keys are skipped. -/
def assignEntries (shape : RecordShape α) (seen : List String) (value : α) :
    List (Outline × Outline) → Except ReadError (List String × α)
  | [] => .ok (seen, value)
  | (key, item) :: rest => do
    let key ← Reader.orFault key.keyText
    match shape.fields.find? (·.name = key) with
    | none =>
      Reader.unlessFault item.skipFault
      assignEntries shape seen value rest
    | some field =>
      if key ∈ seen then .error (.mismatch (.duplicateField key))
      else
        let value ← field.assign value item
        assignEntries shape (key :: seen) value rest

/-- Assigns fields in order.  `stop` is the fault that the list ends with instead of its bracket; it
counts when the list is read to its end. -/
def assignItems (shape : RecordShape α) (index : Nat) (value : α) (stop : Option Fault) :
    List (FieldShape α) → List Outline → Except ReadError α
  | [], [] => do
    Reader.unlessFault stop
    pure value
  | [], _ :: _ => .error (.fault .malformed)
  | field :: fields, [] => do
    Reader.unlessFault stop
    if field.required then .error (.mismatch (.wrongLength index shape.sizedDescription))
    else assignItems shape (index + 1) value stop fields []
  | field :: fields, item :: rest => do
    let value ← field.assign value item
    assignItems shape (index + 1) value stop fields rest

/-- Reads the structure from an object or a list. -/
def read (shape : RecordShape α) : Reader α
  | .record entries stop => do
    let (seen, value) ← shape.assignEntries [] shape.blank entries
    Reader.unlessFault stop
    match shape.fields.find? fun field => field.required && field.name ∉ seen with
    | some field => .error (.mismatch (.missingField field.name))
    | none => pure value
  | .list items stop => shape.assignItems 0 shape.blank stop shape.fields items
  | .buried _ => .error (.fault .malformed)
  | found => .error (found.wrongType shape.description)

end RecordShape
end WaterRegistry
