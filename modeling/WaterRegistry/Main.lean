import Std.Time.Format
import Std.Time.Zoned
import WaterRegistry.Walkthrough

/-!
# The program

Reads the environment and the files it names, and runs the walkthrough; each line of the log is
stamped and written when its row has been attempted.  `REGISTRY_CONFIG` names a configuration,
`BULK_CSV` a survey to be imported, and `BULK_PROGRESS_LOG` the progress log.
-/

namespace WaterRegistry
namespace Main

/-- Why a file cannot be opened. -/
def openFault : IO.Error → FileFault
  | .inappropriateType .. => .notADirectory
  | .invalidArgument .. => .nameTooLong
  | .permissionDenied .. => .denied
  | _ => .notFound

/-- Opens a file for reading, or tells why it cannot be opened. -/
def openSource (path : String) : IO (Except FileFault IO.FS.Handle) := do
  try
    return .ok (← IO.FS.Handle.mk path .read)
  catch error =>
    return .error (openFault error)

/-- Reads a file, or tells why it cannot be read.  Directories can be opened, but not read. -/
def readSource (path : String) : IO (Except FileFault ByteArray) := do
  match ← openSource path with
  | .error fault => return .error fault
  | .ok handle =>
    try
      return .ok (← handle.readBinToEnd)
    catch _ =>
      return .error .isDirectory

/-- A source file, if the environment variable names one. -/
def sourceFrom (name : String) : IO (Option Walkthrough.SourceFile) := do
  match ← IO.getEnv name with
  | some path => return some ⟨path, ← readSource path⟩
  | none => return none

/-- Whether the directory of a path exists. -/
def hasParent (path : String) : IO Bool := do
  if path = "" then return false
  let name := String.ofList (path.toList.reverse.dropWhile (· = '/')).reverse
  let file := (← IO.currentDir) / name
  match file.parent with
  | some parent => parent.isDir
  | none => return false

/-- What stands at the path of the log. -/
def readLog (path : String) : IO LogFile := do
  match ← readSource path with
  | .ok bytes => return .ofBytes bytes
  | .error .notFound =>
    if ¬ (← hasParent path) then return .uncreatable .notFound
    else if Place.asksForDirectory path then return .uncreatable .isDirectory
    else return .missing
  | .error fault => return .unusable fault

/-- Writes the line of an entry behind the log, or gives the fault that it meets.  What can be neither
read nor written gives its own fault. -/
def writeLine (path : String) (log : LogFile) (entry : ProgressEntry) : IO (Option FileFault) := do
  match log with
  | .uncreatable _ | .unusable _ => return none
  | .missing | .text _ | .garbled _ =>
    try
      IO.FS.withFile path .append fun handle => handle.putStr (entry.toLine ++ "\n")
      return none
    catch error =>
      return some (openFault error)

/-- The time of day, as log lines show it. -/
def now : IO String := do
  return (← Std.Time.PlainDateTime.now).format "uuuu-MM-dd HH:mm:ss"

/-- Runs the program on the files that the environment names. -/
def run : IO UInt32 := do
  let logPath := (← IO.getEnv "BULK_PROGRESS_LOG").getD "upload_progress.txt"
  let log ← readLog logPath
  let surroundings : Walkthrough.Surroundings :=
    { config := ← sourceFrom "REGISTRY_CONFIG", survey := ← sourceFrom "BULK_CSV", logPath, log }
  let (ending, _) ← Walkthrough.runM ⟨fun _ => now, fun _ => writeLine logPath⟩ surroundings
  match ending.complaint? with
  | some complaint => (← IO.getStderr).putStr complaint
  | none => pure ()
  return ending.exitCode

end Main
end WaterRegistry

/-- The entry point of the program. -/
def main : IO UInt32 :=
  WaterRegistry.Main.run
