import AccessProbe.Text.Quoted

/-! A file system that is only read. -/

namespace AccessProbe

/-- An entry of the file system. -/
inductive FileEntry where
  /-- A regular file. -/
  | content (bytes : List UInt8)
  | directory
  deriving DecidableEq, Repr

/-- The known entries by their paths. -/
abbrev Files := List (String × FileEntry)

/-- Why a file cannot be read, with the system's messages. -/
inductive FileError where
  | notFound
  | isDirectory
  deriving DecidableEq, Repr

def FileError.message : FileError → String
  | .notFound => "No such file or directory (os error 2)"
  | .isDirectory => "Is a directory (os error 21)"

/-- The names along a path, without `.` and empty ones. -/
def pathSteps (path : String) : List String :=
  (path.splitOn "/").filter fun name => name ≠ "" && name ≠ "."

/-- The entry at a path by its names. A directory is there if something lies below it. -/
def Files.entryAlong (files : Files) (path : String) : Except FileError FileEntry :=
  let steps := pathSteps path
  -- Two spellings of one path lead to the same entry.
  match files.find? fun file => pathSteps file.1 = steps with
  | some file => .ok file.2
  | none =>
    if path ≠ "" && (steps = [] || files.any fun file => steps.isPrefixOf (pathSteps file.1)) then .ok .directory
    else .error .notFound

/-- The entry at a path. -/
def Files.entry (files : Files) (path : String) : Except FileError FileEntry :=
  match files.lookup path with
  | some entry => .ok entry
  | none => files.entryAlong path

/-- The content of a file that has been opened. -/
def FileEntry.read : FileEntry → Except FileError (List UInt8)
  | .content bytes => .ok bytes
  -- A directory can be opened, and only reading it fails.
  | .directory => .error .isDirectory

end AccessProbe
