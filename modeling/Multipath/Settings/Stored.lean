import Multipath.Files.Tree
import Multipath.Settings.File
/-!
# Settings in files

Loading and saving settings by path. What is saved can be loaded; a file that holds nothing gives the
defaults.
-/

namespace Multipath

inductive StorageFault where
  | unreadable (path : String) (fault : FileFault)
  | malformed (path : String) (fault : Settings.TextFault)
  | folderFailed (path : String) (fault : FileFault)
  | unwritable (path : String) (fault : FileFault)
  deriving DecidableEq, Repr

def StorageFault.chain : StorageFault → List String
  | unreadable path fault => [s!"Failed to read scheduler config: {path}", fault.message]
  | malformed path fault => [s!"Failed to parse scheduler config: {path}", fault.message]
  | folderFailed path fault => [s!"Failed to create {path}", fault.message]
  | unwritable path fault => [s!"Failed to write scheduler config: {path}", fault.message]

/-- Makes the folder that a file at the path lies in. -/
def Files.prepare (files : Files) (path : String) : Except StorageFault Files :=
  match Path.parent path with
  | none => .ok files
  | some folder =>
    match files.makeFolders folder with
    | .ok files => .ok files
    | .error fault => .error (.folderFailed folder fault)

namespace Settings

def load (files : Files) (path : String) : Except StorageFault Settings :=
  match files.read path with
  | .error fault => .error (.unreadable path fault)
  | .ok text =>
    match parse text with
    | .error fault => .error (.malformed path fault)
    | .ok settings => .ok settings

def save (settings : Settings) (files : Files) (path : String) : Except StorageFault Files := do
  match (← files.prepare path).write path settings.render with
  | .error fault => .error (.unwritable path fault)
  | .ok files => .ok files

end Settings

end Multipath
