/-
Module: CacheDirectory.Settings.File
Purpose: Settings in files, and why a server cannot start.
Trusted boundary: none
Main exports: FileFailure, Folder, Folder.read, StartError, Settings.ofFile
-/
import CacheDirectory.Settings.Document

namespace CacheDirectory

/-! ### Files -/

/-- Why a file gives no text. -/
inductive FileFailure where
  | notFound
  | permissionDenied
  | notDirectory
  | isDirectory
  | notText
deriving DecidableEq, Repr, Inhabited

/-- The wording of a failure to read a file. -/
def FileFailure.message : FileFailure → String
  | .notFound => numberedFailure "No such file or directory" 2
  | .permissionDenied => numberedFailure "Permission denied" 13
  | .notDirectory => numberedFailure "Not a directory" 20
  | .isDirectory => numberedFailure "Is a directory" 21
  | .notText => "stream did not contain valid UTF-8"

/-- A directory that holds files by their names, and nothing else. -/
structure Folder where
  files : List (String × String) := []
deriving DecidableEq, Repr, Inhabited

namespace Folder

/-- The parts of a path from the folder on. A point stands for the directory that it
is in, and a path that ends in a slash or a point leads to a directory. -/
def parts (path : String) : List String :=
  path.splitOn "/"

/-- The text of the file that a path leads to, starting in the folder. Paths that
leave the folder lead to nothing. -/
def read (path : String) (folder : Folder) : Except FileFailure String :=
  let isStep (part : String) : Bool := part != "" && part != "."
  match (parts path).filter isStep with
  | [] => if path.isEmpty then .error .notFound else .error .isDirectory
  | name :: deeper =>
    if path.startsWith "/" then .error .notFound
    else
      match folder.files.lookup name with
      | none => .error .notFound
      | some text =>
        if deeper.isEmpty && (parts path).getLast? = some name then .ok text
        else .error .notDirectory

end Folder

/-! ### Settings -/

/-- Why a server cannot start, or settings cannot be shown. -/
inductive StartError where
  | unreadable (failure : FileFailure)
  /-- The settings in the file at a path are wrong. -/
  | file (path : String) (error : SettingsError)
  | unwritable (error : SettingsError)
  | connection (failure : ConnectionFailure)
deriving DecidableEq, Repr, Inhabited

namespace StartError

/-- The failure of the operating system behind a failed start. -/
def cause? : StartError → Option String
  | .unreadable failure => some failure.message
  | .connection failure => some failure.message
  | .file _ _ => none
  | .unwritable _ => none

/-- The wording of a failed start. -/
def message : StartError → String
  | .unreadable failure => "I/O error: " ++ failure.message
  | .file path error => "configuration error: " ++ path ++ ": " ++ error.message
  | .unwritable error => error.message
  | .connection failure => "I/O error: " ++ failure.message

end StartError

/-- The settings in the file at a path, given what reading it gave. -/
def Settings.ofFile (path : String) (contents : Except FileFailure String) :
    Except StartError Settings := do
  let text ← contents.mapError .unreadable
  (Settings.ofText text).mapError (.file path)

end CacheDirectory
