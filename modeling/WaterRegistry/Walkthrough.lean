import WaterRegistry.Survey.Import
import WaterRegistry.Text.Quoted

/-!
# A walk through the registry

The program starts a registry, registers a facility, registers it again with other spacing and case,
which the registry refuses, and imports a survey if one is given.  What it finds in the files around
it is handed in, and the lines that it adds to the log are handed to a writer one by one, so that the
program itself has neither input nor output.
-/

namespace WaterRegistry
namespace Walkthrough

/-- A file that is to be read: its path and what reading it gives. -/
structure SourceFile where
  path : String
  content : Except FileFault ByteArray

/-- The files around the program: a configuration and a survey, where they are given, and the
progress log. -/
structure Surroundings where
  config : Option SourceFile
  survey : Option SourceFile
  logPath : String
  log : LogFile

/-- The file that a path leads to from a place. -/
def SourceFile.ofPath (place : Place) (path : String) : SourceFile :=
  ⟨path, place.read path⟩

/-- What a program that runs at a place finds by the paths it is given. -/
def Surroundings.ofPaths (place : Place) (config survey : Option String) (logPath : String) :
    Surroundings where
  config := config.map (SourceFile.ofPath place)
  survey := survey.map (SourceFile.ofPath place)
  logPath := logPath
  log := .ofPath place logPath

/-- How the program ends. -/
inductive Ending where
  | completed
  /-- It ends early, for a reason that can be told. -/
  | refused (reason : String)
  /-- It breaks off. -/
  | crashed
  deriving DecidableEq

/-- The exit code of the program. -/
def Ending.exitCode : Ending → UInt32
  | .completed => 0
  | .refused _ => 1
  | .crashed => 101

/-- What the program has to say when it ends early. -/
def Ending.complaint? : Ending → Option String
  | .refused reason => some ("Error: " ++ quoted reason ++ "\n")
  | .completed | .crashed => none

/-- The configuration to be used. -/
def loadConfig : Option SourceFile → Except ConfigError Config
  | none => .ok FacilityRegistry.defaultConfig
  | some file => Config.ofFile file.path file.content

/-- The document of a facility that is registered. -/
def facilityDocument (geoCode county district : String) : Json :=
  .obj [
    ("geoCode", .str geoCode),
    ("waterPointType", .str "Tube well or borehole"),
    ("location", .obj [
      ("county", .str county),
      ("district", .str district),
      ("community", .str "Kpaytuo Town")])]

/-- The facility that is registered first. -/
def facility : Json :=
  facilityDocument "xvksf3s" "Nimba" "Sanniquellie Mahn"

/-- The same facility with other spacing and case. -/
def resubmitted : Json :=
  facilityDocument "XVKSF3S" " nimba " "Sanniquellie  Mahn"

/-- Registers the facility twice; only the first time has to succeed. -/
def registerTwice (registry : FacilityRegistry) : Except RegistryError FacilityRegistry := do
  let (osid, registry) ← match registry.create (Survey.facilityRoot facility) with
    | (.ok osid, registry) => .ok (osid, registry)
    | (.error error, _) => .error error
  let _ ← registry.entity facilityType osid
  pure (registry.create (Survey.facilityRoot resubmitted)).2

section

variable {m : Type → Type} [Monad m] (writer : Survey.LineWriter m)

/-- Imports the survey, if there is one.  The log has to be readable beforehand. -/
def importSurveyM (surroundings : Surroundings) (registry : FacilityRegistry) :
    m (Ending × LogFile) :=
  let log := surroundings.log
  match surroundings.survey with
  | none => pure (.completed, log)
  | some file =>
    match log.stats with
    | .error fault =>
      pure (.refused (Survey.ImportError.message surroundings.logPath (.log fault)), log)
    | .ok _ => do
      match ← Survey.importFileM writer registry log file.content with
      | (.ok _, _, log) => pure (.completed, log)
      | (.error error, _, log) => pure (.refused (error.message surroundings.logPath), log)

/-- Runs the program, and gives how it ends and what it leaves of the log. -/
def runM (surroundings : Surroundings) : m (Ending × LogFile) :=
  let log := surroundings.log
  match loadConfig surroundings.config with
  | .error error => pure (.refused error.message, log)
  | .ok config =>
    match FacilityRegistry.start? config, Generator.select FacilityRegistry.candidates with
    | some registry, some generator =>
      match generator.saveFormats config with
      | .error error => pure (.refused error.message, log)
      | .ok () =>
        match registerTwice registry with
        | .error error => pure (.refused error.message, log)
        | .ok registry => importSurveyM writer surroundings registry
    | none, _ => pure (.crashed, log)
    | _, none => pure (.refused RegistryError.noGenerator.message, log)

end

/-- Runs the program with times and faults of its lines that are known beforehand. -/
def run (stamp : Nat → String) (refusal : Nat → Option FileFault) (surroundings : Surroundings) :
    Ending × LogFile :=
  (runM (.known stamp refusal) surroundings).run

end Walkthrough
end WaterRegistry
