import WaterRegistry.Config

/-!
# Errors of a registry

Generating identifiers fails for two reasons only: the identifier is taken, or the generator is not
configured for the request.  Creating and reading entities fails for these, for the configuration's
reasons, and for reasons of the store.
-/

namespace WaterRegistry

/-- Why no identifiers are generated. -/
inductive GenerationError where
  | duplicate (id text : String)
  | configuration (text : String)
  deriving DecidableEq

/-- The wording of a generation error. -/
def GenerationError.message : GenerationError → String
  | .duplicate _ text => text
  | .configuration text => "Identifier configuration error: " ++ text

/-- Why an entity is not created or not found. -/
inductive RegistryError where
  | storeClosed
  | storeDropped
  | notFound (osid : String)
  | unknownEntityType (entityType : String)
  | invalidPayload (text : String)
  | uniqueConstraint (field value : String)
  | noGenerator
  | generation (cause : GenerationError)
  | config (cause : ConfigError)
  deriving DecidableEq

/-- The wording of a registry error. -/
def RegistryError.message : RegistryError → String
  | .storeClosed => "Registry store closed"
  | .storeDropped => "Registry store dropped response channel"
  | .notFound osid => "Entity not found: " ++ osid
  | .unknownEntityType entityType => "Unknown entity type: " ++ entityType
  | .invalidPayload text => "Invalid payload: " ++ text
  | .uniqueConstraint field value =>
    "Unique constraint violated: " ++ field ++ " = '" ++ value ++ "' already exists"
  | .noGenerator => "No identifier generator configured"
  | .generation cause => cause.message
  | .config cause => cause.message

end WaterRegistry
