/-!
# Faults of files

The ways in which reading or writing a file fails.
-/

namespace WaterRegistry

/-- Why a file cannot be read or written. -/
inductive FileFault where
  | notFound
  /-- The path goes on behind a file. -/
  | notADirectory
  | isDirectory
  | nameTooLong
  /-- The path holds the character that ends paths. -/
  | nulInName
  | denied
  | notUtf8
  deriving DecidableEq

/-- The wording of a file fault. -/
def FileFault.message : FileFault → String
  | .notFound => "No such file or directory (os error 2)"
  | .notADirectory => "Not a directory (os error 20)"
  | .isDirectory => "Is a directory (os error 21)"
  | .nameTooLong => "File name too long (os error 36)"
  | .nulInName => "file name contained an unexpected NUL byte"
  | .denied => "Permission denied (os error 13)"
  | .notUtf8 => "stream did not contain valid UTF-8"

end WaterRegistry
