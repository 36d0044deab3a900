import WaterRegistry.Survey.Status
import WaterRegistry.Text.Blank
import WaterRegistry.Text.Split

/-!
# Entries of the progress log

A log line has six fields between bars: geo code, outcome, message, entity id, facility identifier
and time.  When an entry is written, bars and line breaks in its fields are replaced, so that it
stays one line of six fields; the time is written as it is.  Reading takes any line that has an
outcome in its second field and at least three fields.
-/

namespace WaterRegistry

/-- What the progress log holds about one attempted row. -/
structure ProgressEntry where
  geoCode : String
  status : UploadStatus
  message : String
  osid : Option String
  wfId : Option String
  timestamp : String
  deriving DecidableEq

namespace ProgressEntry

/-- What a character of a field is written as: bars and line breaks do not belong in a line. -/
def cleanChar (c : Char) : Char :=
  if c = '|' then '/' else if c = '\r' ∨ c = '\n' then ' ' else c

/-- A field as it is written. -/
def clean (field : String) : String :=
  String.ofList (field.toList.map cleanChar)

/-- A field that may be absent, as it is written. -/
def cleanOption (field : Option String) : String :=
  (field.map clean).getD ""

/-- The line of an entry. -/
def toLine (entry : ProgressEntry) : String :=
  String.intercalate "|" [
    clean entry.geoCode, entry.status.text, clean entry.message, cleanOption entry.osid,
    cleanOption entry.wfId, entry.timestamp]

/-- A field of a line; an empty one counts as absent. -/
def field? (fields : List String) (index : Nat) : Option String :=
  fields[index]?.filter (· ≠ "")

/-- The entry that the fields of a line make. -/
def ofFields? (fields : List String) : Option ProgressEntry :=
  match fields with
  | geoCode :: status :: message :: _ =>
    (UploadStatus.ofText? status).map fun status =>
      { geoCode, status, message
        osid := field? fields 3
        wfId := field? fields 4
        timestamp := (field? fields 5).getD "" }
  | _ => none

/-- The entry in a line, if it holds one.  White space around the line is left aside. -/
def ofLine? (line : String) : Option ProgressEntry :=
  ofFields? (splitOnChar '|' (trim line))

end ProgressEntry
end WaterRegistry
