import WaterRegistry.Facility.Generator

/-!
# Generators

Three kinds of generators fill identifier fields.  A sequence numbers every requested field from one
counter.  The facility generator derives the identifier of a water point from its document.  A
prepared generator gives the same answer every time.  Where several are offered, the first primary
one is taken, and the first of all if none is primary.
-/

namespace WaterRegistry

/-- A generator that gives the same answer every time. -/
structure PreparedGenerator where
  name : String
  isPrimary : Bool
  values : List (String × String)
  failure : Option String

/-- Where a generator sends its searches. -/
inductive SearchSource where
  | store
  | script (script : Script)

/-- A generator with the state it keeps between requests. -/
inductive Generator where
  | sequence (label : String) (next : UInt64)
  | facility (source : SearchSource)
  | prepared (generator : PreparedGenerator)

namespace Generator

/-- A sequence that has not been used. -/
def newSequence (label : String) : Generator :=
  .sequence label 1

/-- The name that a generator goes by. -/
def name : Generator → String
  | .sequence _ _ => "SequenceIdGenService"
  | .facility _ => "WaterFacilityIdGenService"
  | .prepared generator => generator.name

/-- Whether a generator takes precedence over others. -/
def isPrimary : Generator → Bool
  | .sequence _ _ => false
  | .facility _ => true
  | .prepared generator => generator.isPrimary

/-- Whether a generator is in working order. -/
def isHealthy : Generator → Bool
  | .sequence _ _ | .facility _ => true
  | .prepared generator => generator.failure.isNone

/-- Numbers fields from a counter, and gives the counter after them. -/
def numberFields (label : String) (next : UInt64) (generated : GeneratedIdentifier) :
    List IdentifierField → GeneratedIdentifier × UInt64
  | [] => (generated, next)
  | field :: rest =>
    let id := label ++ "-" ++ toString next.toNat
    numberFields label (next + 1) (generated.insert field.path id) rest

/-- Gets an inquiry answered from a source; `search` is what a store answers.  There is no outcome
when a script has no result left. -/
def resolve (search : SearchQuery → SearchResult) (source : SearchSource) (inquiry : Inquiry) :
    Option Generation × SearchSource :=
  match source, inquiry with
  | .script script, .search query decide =>
    let (result, script) := script.answer query
    (result.map decide, .script script)
  | source, inquiry => (some (inquiry.answeredBy search), source)

/-- Generates values for fields, while `binding` is bound in the relay. -/
def generate (generator : Generator) (search : SearchQuery → SearchResult)
    (binding : Option Binding) (fields : List IdentifierField) : Option Generation × Generator :=
  match generator with
  | .sequence label next =>
    let (generated, next) := numberFields label next .empty fields
    (some (.ok generated), .sequence label next)
  | .facility source =>
    let (generation, source) := resolve search source (Facility.inquire binding fields)
    (generation, .facility source)
  | .prepared given =>
    let generation := match given.failure with
      | some text => .error (.configuration text)
      | none => .ok (.ofEntries given.values)
    (some generation, .prepared given)

/-- Takes note of the fields of a schema.  A sequence refuses a field without a name. -/
def saveFormat (generator : Generator) (fields : List IdentifierField) :
    Except GenerationError Unit :=
  match generator with
  | .sequence _ _ =>
    match fields.find? (·.bareName = "") with
    | some field =>
      .error (.configuration ("empty identifier field path '" ++ field.path ++ "'"))
    | none => .ok ()
  | .facility _ | .prepared _ => .ok ()

/-- Takes note of the fields of every schema that has any. -/
def saveFormats (generator : Generator) (config : Config) : Except RegistryError Unit :=
  config.schemas.forM fun schema =>
    if schema.identifierFields.isEmpty then .ok ()
    else (generator.saveFormat schema.identifierFields).mapError .generation

/-- The generator to be used out of several. -/
def select (candidates : List Generator) : Option Generator :=
  match candidates.find? isPrimary with
  | some generator => some generator
  | none => candidates.head?

end Generator
end WaterRegistry
