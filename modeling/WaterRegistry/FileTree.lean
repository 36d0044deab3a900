import WaterRegistry.FileFault
import WaterRegistry.Text.Split

/-!
# Trees of files

A tree is a file, or a directory with a tree for each of its names.  A path is followed from a place
in a tree, one segment after the other: `.` stays, `..` goes up, and a name goes down.  Only a
directory can be left, so a path that goes on behind a file or behind nothing fails there, before
its next name is looked at.

A path that ends in a slash asks for a directory.  Names and paths are limited in their bytes.
-/

namespace WaterRegistry

/-- A file with its content, or a directory with its entries. -/
inductive FileTree where
  | file (content : ByteArray)
  | directory (entries : List (String × FileTree))

/-- A place in a tree: what stands there, if anything does, and the directories above it, nearest
first. -/
structure Place where
  found : Option FileTree
  above : List FileTree

namespace Place

/-- How many bytes a name may have. -/
def nameLimit : Nat := 255

/-- How many bytes a path may have. -/
def pathLimit : Nat := 4095

/-- The names between the slashes of a path. -/
def segments (path : String) : List String :=
  (splitOnChar '/' path).filter (· ≠ "")

/-- Whether a path asks for a directory. -/
def asksForDirectory (path : String) : Bool :=
  path.toList.getLast? = some '/'

/-- Whether a path starts from the root of the tree. -/
def isAbsolute (path : String) : Bool :=
  path.toList.head? = some '/'

/-- The root of the tree that a place is in. -/
def root (place : Place) : Place :=
  ⟨place.above.getLast?.or place.found, []⟩

/-- Goes on by one segment. -/
def enter (place : Place) (segment : String) : Except FileFault Place :=
  match place.found with
  | none => .error .notFound
  | some (.file _) => .error .notADirectory
  | some (.directory entries) =>
    if segment = "." then .ok place
    else if segment = ".." then
      match place.above with
      | [] => .ok place
      | parent :: above => .ok ⟨some parent, above⟩
    else if nameLimit < segment.utf8ByteSize then .error .nameTooLong
    else .ok ⟨entries.lookup segment, .directory entries :: place.above⟩

/-- Follows a path. -/
def follow (place : Place) (path : String) : Except FileFault Place :=
  if '\x00' ∈ path.toList then .error .nulInName
  else if path = "" then .error .notFound
  else if pathLimit < path.utf8ByteSize then .error .nameTooLong
  else (segments path).foldlM enter (if isAbsolute path then place.root else place)

/-- The content of the file that a path leads to. -/
def read (place : Place) (path : String) : Except FileFault ByteArray := do
  let target ← place.follow path
  match target.found with
  | none => .error .notFound
  | some (.directory _) => .error .isDirectory
  | some (.file content) =>
    if asksForDirectory path then .error .notADirectory else .ok content

end Place
end WaterRegistry
