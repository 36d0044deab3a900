import WaterRegistry.FileFault
import WaterRegistry.Identifier.Field

/-!
# Configuration

A configuration sets the size of the store's request buffer, the time limit of searches, and the
schemas: the entity types with their identifier fields.  Every setting has a default.  Type names
are unique, so that looking a schema up does not depend on the order of schemas.
-/

namespace WaterRegistry

/-- An entity type and the fields whose values are generated for it. -/
structure Schema where
  name : String
  identifierFields : List IdentifierField
  deriving DecidableEq

/-- The settings of a registry. -/
structure Config where
  storeBuffer : Nat
  searchTimeoutMs : Nat
  schemas : List Schema
  deriving DecidableEq

/-- Why there is no configuration. -/
inductive ConfigError where
  | unreadable (path : String) (cause : FileFault)
  | unparsable (cause : ReadError)
  | duplicateSchema (name : String)
  deriving DecidableEq

/-- The wording of a configuration error. -/
def ConfigError.message : ConfigError → String
  | .unreadable path cause => "Failed to read config " ++ path ++ ": " ++ cause.message
  | .unparsable cause => "Invalid config: " ++ cause.message
  | .duplicateSchema name => "Duplicate schema for entity type " ++ name

/-- A schema as it is written. -/
def Schema.shape : RecordShape Schema where
  name := "EntitySchema"
  blank := ⟨"", []⟩
  fields := [
    ⟨"name", true, fun schema found => do pure { schema with name := ← Reader.text found }⟩,
    ⟨"uniqueIdentifierFields", false, fun schema found => do
      pure { schema with identifierFields := ← Reader.list IdentifierField.shape.read found }⟩]

namespace Config

/-- The settings that hold where nothing else is said: no types at all. -/
def basic : Config where
  storeBuffer := 32
  searchTimeoutMs := 2000
  schemas := []

/-- A configuration as it is written. -/
def shape : RecordShape Config where
  name := "RegistryConfig"
  blank := basic
  fields := [
    ⟨"storeBuffer", false, fun config found => do
      pure { config with storeBuffer := ← Reader.natural "usize" found }⟩,
    ⟨"searchTimeoutMs", false, fun config found => do
      pure { config with searchTimeoutMs := ← Reader.natural "u64" found }⟩,
    ⟨"schemas", false, fun config found => do
      pure { config with schemas := ← Reader.list Schema.shape.read found }⟩]

/-- The first name in a list that has occurred before, in the list or among `seen`. -/
def firstRepeated (seen : List String) : List String → Option String
  | [] => none
  | name :: rest => if name ∈ seen then some name else firstRepeated (name :: seen) rest

/-- Refuses a configuration that names a type twice. -/
def validate (config : Config) : Except ConfigError Config :=
  match firstRepeated [] (config.schemas.map (·.name)) with
  | some name => .error (.duplicateSchema name)
  | none => .ok config

/-- The configuration that a text holds. -/
def ofText (text : String) : Except ConfigError Config :=
  match shape.read.readText text with
  | .ok config => config.validate
  | .error cause => .error (.unparsable cause)

/-- The configuration in a file with the given bytes. -/
def ofBytes (path : String) (bytes : ByteArray) : Except ConfigError Config :=
  match String.fromUTF8? bytes with
  | some text => ofText text
  | none => .error (.unreadable path .notUtf8)

/-- The configuration in a file, from what reading the file gives. -/
def ofFile (path : String) : Except FileFault ByteArray → Except ConfigError Config
  | .ok bytes => ofBytes path bytes
  | .error fault => .error (.unreadable path fault)

/-- The schema of an entity type. -/
def schema? (config : Config) (entityType : String) : Option Schema :=
  config.schemas.find? (·.name = entityType)

end Config
end WaterRegistry
