import WaterRegistry.Facility.Registry
import WaterRegistry.Survey.LogFile
import WaterRegistry.Survey.Row

/-!
# Importing a survey

An import registers the rows of a survey table one after the other and logs the outcome of each.
Records whose geo code the log already shows as created are skipped, so that an import that was
interrupted can simply be started again.  An import ends early when the log or the table cannot be
read, before any row is registered, or when a line cannot be added to the log.

The clock and the faults that writing can meet come from outside, and an import asks for them as it
goes: each line is stamped when its record has been attempted, and stands in the log before the next
record is attempted.  What an import does is written once, for any monad in which a writer answers.
Where the answers are known beforehand, `stamp i` is the time on the line of the `i`-th attempted
record, and `refusal i` the fault that keeps this line from being written.
-/

namespace WaterRegistry
namespace Survey

/-- Why an import ends early. -/
inductive ImportError where
  | table (cause : TableError)
  | log (cause : FileFault)
  deriving DecidableEq

/-- The wording of an import error, for a log at the given path. -/
def ImportError.message (logPath : String) : ImportError → String
  | .table cause => "Failed to read CSV: " ++ cause.message
  | .log cause => "Progress log " ++ logPath ++ ": " ++ cause.message

/-- What an import has done. -/
structure Summary where
  total : Nat
  skipped : Nat
  tally : Tally
  deriving DecidableEq

/-- The outcome of registering one document. -/
structure RowOutcome where
  status : UploadStatus
  message : String
  osid : Option String
  wfId : Option String
  deriving DecidableEq

/-- An outcome without a stored entity. -/
def RowOutcome.without (status : UploadStatus) (message : String) : RowOutcome :=
  ⟨status, message, none, none⟩

/-- The request to create a facility with a document. -/
def facilityRoot (document : Json) : Json :=
  .obj [(facilityType, document)]

/-- Registers a facility, and reads back the identifier it was stored with. -/
def register (registry : FacilityRegistry) (document : Json) : RowOutcome × FacilityRegistry :=
  match registry.create (facilityRoot document) with
  | (.ok osid, registry) =>
    let wfId := match registry.entity facilityType osid with
      | .ok stored => (stored.get? facilityIdField).bind Json.string?
      | .error _ => none
    (⟨.success, "Created", some osid, wfId⟩, registry)
  | (.error error, registry) => (.without error.status error.message, registry)

/-- Registers the row that a record holds, if it holds one. -/
def attempt (registry : FacilityRegistry) (header : List String) (record : Record) :
    RowOutcome × FacilityRegistry :=
  match Row.ofRecord header record with
  | .ok row => register registry row.toDocument
  | .error error => (.without .failed ("Transform error: " ++ error.message), registry)

/-- The geo code of a record; empty if the table has no such column. -/
def geoCodeOf (header : List String) (record : Record) : String :=
  ((header.idxOf? "geo_code").bind fun index => record.fields[index]?).getD ""

/-- The log entry for an outcome.  The identifier is logged only with an entity id. -/
def logEntry (geoCode : String) (outcome : RowOutcome) (timestamp : String) : ProgressEntry where
  geoCode := geoCode
  status := outcome.status
  message := outcome.message
  osid := outcome.osid
  wfId := if outcome.osid.isSome then outcome.wfId else none
  timestamp := timestamp

/-- What an import changes, and how far it has come. -/
structure Progress where
  registry : FacilityRegistry
  log : LogFile
  tally : Tally

/-- What writes the lines of an import, which are numbered as their attempts are. -/
structure LineWriter (m : Type → Type) where
  /-- Tells the time for a line. -/
  stamp : Nat → m String
  /-- Writes a line behind the log, or gives the fault that keeps it from being written. -/
  refusal : Nat → LogFile → ProgressEntry → m (Option FileFault)

/-- The writer whose times and faults are known beforehand. -/
def LineWriter.known (stamp : Nat → String) (refusal : Nat → Option FileFault) :
    LineWriter Id where
  stamp index := stamp index
  refusal index _ _ := refusal index

section

variable {m : Type → Type} [Monad m] (writer : LineWriter m)

/-- Attempts records one after the other, beginning with the one of number `index`. -/
def attemptAllM (header : List String) (index : Nat) (progress : Progress) :
    List Record → m (Except FileFault Unit × Progress)
  | [] => pure (.ok (), progress)
  | record :: rest => do
    let (outcome, registry) := attempt progress.registry header record
    let entry := logEntry (geoCodeOf header record) outcome (← writer.stamp index)
    match progress.log.write (← writer.refusal index progress.log entry) entry with
    | .error fault => pure (.error fault, { progress with registry })
    | .ok log =>
      attemptAllM header (index + 1) ⟨registry, log, progress.tally.record outcome.status⟩ rest

/-- The records that are not skipped. -/
def pending (uploaded : List String) (table : Table) : List Record :=
  table.records.filter fun record => geoCodeOf table.header record ∉ uploaded

/-- Imports a table that may be unreadable. -/
def importTableM (registry : FacilityRegistry) (log : LogFile) (table : Except TableError Table) :
    m (Except ImportError Summary × FacilityRegistry × LogFile) :=
  match log.uploaded with
  | .error fault => pure (.error (.log fault), registry, log)
  | .ok uploaded =>
    match table with
    | .error error => pure (.error (.table error), registry, log)
    | .ok table => do
      let rows := pending uploaded table
      let (ended, progress) ← attemptAllM writer table.header 0 ⟨registry, log, .zero⟩ rows
      let result := match ended with
        | .error fault => .error (.log fault)
        | .ok () =>
          .ok ⟨table.records.length, table.records.length - rows.length, progress.tally⟩
      pure (result, progress.registry, progress.log)

/-- Imports the table in a file.  A file that cannot be opened is noticed before the log is read; a
directory can be opened, and only reading it fails. -/
def importFileM (registry : FacilityRegistry) (log : LogFile) (file : Except FileFault ByteArray) :
    m (Except ImportError Summary × FacilityRegistry × LogFile) :=
  match file with
  | .error .isDirectory => importTableM writer registry log (.error (.unreadable .isDirectory))
  | .error fault => pure (.error (.table (.unreadable fault)), registry, log)
  | .ok bytes => importTableM writer registry log (Table.ofBytes bytes.data.toList)

end

section

variable (stamp : Nat → String) (refusal : Nat → Option FileFault)

/-- Attempts records one after the other, with times and faults that are known beforehand. -/
def attemptAll (header : List String) (index : Nat) (progress : Progress)
    (records : List Record) : Except FileFault Unit × Progress :=
  (attemptAllM (.known stamp refusal) header index progress records).run

/-- Imports a table, with times and faults that are known beforehand. -/
def importTable (registry : FacilityRegistry) (log : LogFile) (table : Except TableError Table) :
    Except ImportError Summary × FacilityRegistry × LogFile :=
  (importTableM (.known stamp refusal) registry log table).run

/-- Imports the table in a file, with times and faults that are known beforehand. -/
def importFile (registry : FacilityRegistry) (log : LogFile) (file : Except FileFault ByteArray) :
    Except ImportError Summary × FacilityRegistry × LogFile :=
  (importFileM (.known stamp refusal) registry log file).run

end

end Survey
end WaterRegistry
