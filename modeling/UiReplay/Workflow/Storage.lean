import UiReplay.Workflow.Format
import UiReplay.Files.Basic

/-!
# Workflows in files

The extension of a path decides on the format before anything is touched.  Saving
makes the folders that lead to the file.  Loading checks the workflow.
-/

namespace UiReplay

/-- Why a workflow was not loaded or saved. -/
inductive StorageError where
  /-- A file or folder cannot be used. -/
  | access (path : String) (fault : FileFault)
  /-- The file holds no valid workflow. -/
  | content (cause : ContentError)
  /-- The extension is none that is known. -/
  | unsupported (path : String)
deriving DecidableEq

/-- The text of an error in a file, without the reason of the reader. -/
def ContentError.message : ContentError → String
  | .json => "invalid JSON workflow"
  | .yaml => "invalid YAML workflow"
  | .invalid p => "workflow failed validation: " ++ p.message

/-- The text of an error, without the reason of the reader. -/
def StorageError.message : StorageError → String
  | .access path fault => "failed to access " ++ path ++ ": " ++ fault.message
  | .content cause => cause.message
  | .unsupported path =>
      "unsupported workflow file extension for " ++ path ++ " (expected .json, .yaml or .yml)"

/-- The format of a path. -/
def Format.forPath (path : String) : Except StorageError Format :=
  match Format.ofPath? path with
  | some format => .ok format
  | none => .error (.unsupported path)

namespace Workflow

/-- The workflow in a file. -/
def load (files : Files) (path : String) : IdSupply.With (Except StorageError Workflow) :=
  match Format.forPath path with
  | .error e => pure (.error e)
  | .ok format =>
      match files.read? path with
      | .error fault => pure (.error (.access path fault))
      | .ok text => do
          match ← parse text format with
          | .ok w => return .ok w
          | .error cause => return .error (.content cause)

/-- Makes the folders that lead to a file. -/
def makeWay (files : Files) (path : String) : Except StorageError Files :=
  match FilePath.parent? path with
  | none => .ok files
  | some parent => (files.makeFolders? parent).mapError (.access parent)

/-- The files with a workflow written to a path. -/
def save (w : Workflow) (files : Files) (path : String) : Except StorageError Files := do
  let format ← Format.forPath path
  let files ← makeWay files path
  (files.write? path (some (w.render format))).mapError (.access path)

end Workflow

end UiReplay
