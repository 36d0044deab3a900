import WaterRegistry.FileTree
import WaterRegistry.Survey.ProgressEntry
import WaterRegistry.Text.Utf8

/-!
# The progress log

The log is a text file that only grows: one line for every attempted row.  A file that does not
exist is an empty log, even where none can be created.  What stands at the log's path may also be
something that is no log, such as a directory, or a file whose bytes are not UTF-8.
-/

namespace WaterRegistry

/-- What stands at the path of a progress log. -/
inductive LogFile where
  | missing
  /-- No file, and none can be created, for the reason that is given. -/
  | uncreatable (fault : FileFault)
  /-- Something that can be neither read nor written, for the reason that is given. -/
  | unusable (fault : FileFault)
  | text (content : String)
  /-- A file whose bytes are not UTF-8. -/
  | garbled (bytes : ByteArray)

namespace LogFile

/-- The file with the given bytes. -/
def ofBytes (bytes : ByteArray) : LogFile :=
  match String.fromUTF8? bytes with
  | some content => .text content
  | none => .garbled bytes

/-- The log that a path leads to from a place. -/
def ofPath (place : Place) (path : String) : LogFile :=
  match place.follow path with
  | .error .notFound => .uncreatable .notFound
  | .error fault => .unusable fault
  | .ok target =>
    match target.found with
    | none => if Place.asksForDirectory path then .uncreatable .isDirectory else .missing
    | some (.directory _) => .unusable .isDirectory
    | some (.file content) =>
      if Place.asksForDirectory path then .unusable .notADirectory else .ofBytes content

/-- A line that a line feed ends, without the carriage return before it. -/
def endedLine (line : List Char) : List Char :=
  if line.getLast? = some '\r' then line.dropLast else line

/-- The lines among the pieces between line feeds: the last piece is a line only if it is not
empty. -/
def linesOfPieces : List (List Char) → List String
  | [] => []
  | [last] => if last.isEmpty then [] else [String.ofList last]
  | line :: rest => String.ofList (endedLine line) :: linesOfPieces rest

/-- The lines of a text. -/
def lines (content : String) : List String :=
  linesOfPieces (pieces '\n' content.toList)

/-- The entries of a text; lines that hold none are passed over. -/
def entriesOfText (content : String) : List ProgressEntry :=
  (lines content).filterMap ProgressEntry.ofLine?

/-- The entries of the log. -/
def entries : LogFile → Except FileFault (List ProgressEntry)
  | .missing | .uncreatable _ => .ok []
  | .unusable fault => .error fault
  | .text content => .ok (entriesOfText content)
  | .garbled _ => .error .notUtf8

/-- The geo codes of the rows that were created. -/
def uploaded (log : LogFile) : Except FileFault (List String) :=
  log.entries.map fun entries =>
    (entries.filter (·.status = .success)).map (·.geoCode)

/-- The numbers of entries by outcome. -/
def stats (log : LogFile) : Except FileFault Tally :=
  log.entries.map fun entries =>
    entries.foldl (fun tally entry => tally.record entry.status) .zero

/-- Adds the line of an entry at the end. -/
def append (log : LogFile) (entry : ProgressEntry) : Except FileFault LogFile :=
  let line := entry.toLine ++ "\n"
  match log with
  | .missing => .ok (.text line)
  | .uncreatable fault | .unusable fault => .error fault
  | .text content => .ok (.text (content ++ line))
  | .garbled bytes => .ok (.garbled (bytes ++ line.toUTF8))

/-- The log once the line of an entry has been written, unless there is a fault that refuses it. -/
def write (refusal : Option FileFault) (log : LogFile) (entry : ProgressEntry) :
    Except FileFault LogFile :=
  match refusal with
  | some fault => .error fault
  | none => log.append entry

/-- The content of the file as text, with U+FFFD where its bytes are not UTF-8. -/
def content? : LogFile → Option String
  | .missing | .uncreatable _ | .unusable _ => none
  | .text content => some content
  | .garbled bytes => some (Utf8.lossyText bytes.data.toList)

end LogFile
end WaterRegistry
