import WaterRegistry.Proofs.Survey.Logged
import WaterRegistry.Proofs.Survey.Reading

/-!
# Imports with one log

A history is a list of requests to import files into one registry, with one log.  Imports that end
early belong to it as well: what they have created is stored and, up to the line that was refused, in
the log.  Every code that the log shows as created goes back to a record of one of the requests, whose
facility that request has created.

A record is skipped by its geo code alone.  So after an import the facility of each of its records is
stored, or else an earlier import has created another facility under the geo code of the record.
-/

namespace WaterRegistry
namespace Survey

open ProgressEntry

/-- A request to import a file, with the times of its lines and the faults that keep lines from being
written. -/
structure ImportRequest where
  stamp : Nat → String
  refusal : Nat → Option FileFault
  file : Except FileFault ByteArray

namespace ImportRequest

/-- The import that is requested. -/
def run (request : ImportRequest) (registry : FacilityRegistry) (log : LogFile) :
    Except ImportError Summary × FacilityRegistry × LogFile :=
  importFile request.stamp request.refusal registry log request.file

/-- The table in the file. -/
def table (request : ImportRequest) : Except TableError Table :=
  match request.file with
  | .error fault => .error (.unreadable fault)
  | .ok bytes => Table.ofBytes bytes.data.toList

/-- Whether an import creates a facility with an identifier, for a record with a geo code as it is
logged. -/
def Creates (request : ImportRequest) (before after : FacilityRegistry) (code id : String) : Prop :=
  ∃ table record row, request.table = .ok table ∧ record ∈ table.records ∧
    clean (geoCodeOf table.header record) = code ∧ Row.ofRecord table.header record = .ok row ∧
    row.key.id = id ∧ ¬ before.store.HasFacility id ∧ after.store.HasFacility id

variable {request : ImportRequest} {registry : FacilityRegistry} {log : LogFile}
  {logged : List ProgressEntry}

theorem run_eq_of_file {bytes : ByteArray} (h : request.file = .ok bytes) :
    request.run registry log =
      importTable request.stamp request.refusal registry log (Table.ofBytes bytes.data.toList) := by
  rw [run, importFile, h]
  rfl

theorem run_eq_of_table {table : Table} (h : request.table = .ok table) :
    request.run registry log =
      importTable request.stamp request.refusal registry log (.ok table) := by
  rw [ImportRequest.table] at h
  split at h
  · cases h
  · rename_i bytes hfile
    rw [run_eq_of_file hfile, h]

/-- Without a table nothing happens. -/
theorem run_eq_of_error {error : TableError} (h : request.table = .error error) :
    ∃ cause, request.run registry log = (.error cause, registry, log) := by
  have hunread : ∀ error, ∃ cause, importTable request.stamp request.refusal registry log
      (.error error) = (.error cause, registry, log) := by
    intro error
    cases hlog : log.uploaded with
    | error fault => exact ⟨_, importTable_of_unreadable_log _ _ hlog _ _⟩
    | ok uploaded =>
        rw [importTable, importTableM, hlog]
        exact ⟨_, rfl⟩
  rw [ImportRequest.table] at h
  split at h
  · rename_i fault hfile
    rw [run, importFile, hfile]
    cases fault with
    | isDirectory => exact hunread _
    | _ => exact ⟨_, rfl⟩
  · rename_i bytes hfile
    rw [run_eq_of_file hfile, h]
    exact hunread error

end ImportRequest

/-- The registry and the log after a history of imports. -/
def importEach (registry : FacilityRegistry) (log : LogFile) (history : List ImportRequest) :
    FacilityRegistry × LogFile :=
  history.foldl (fun state request => (request.run state.1 state.2).2) (registry, log)

/-- Whether one of the imports of a history, which began without a log, has created a facility with an
identifier for a record with a geo code as it is logged. -/
def Created (registry : FacilityRegistry) (history : List ImportRequest) (code id : String) : Prop :=
  ∃ previous request later, history = previous ++ request :: later ∧
    request.Creates (importEach registry .missing previous).1
      (importEach registry .missing (previous ++ [request])).1 code id

variable {registry : FacilityRegistry} {history : List ImportRequest}

theorem Created.append {code id : String} (h : Created registry history code id)
    (more : List ImportRequest) : Created registry (history ++ more) code id := by
  obtain ⟨previous, request, later, rfl, hcreates⟩ := h
  exact ⟨previous, request, later ++ more, by simp, hcreates⟩

/-- A request to import a text. -/
def importOf (csv : String) : ImportRequest :=
  ⟨fun _ => "now", fun _ => none, .ok csv.toUTF8⟩

end Survey
end WaterRegistry
