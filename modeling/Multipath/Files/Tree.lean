import Std.Data.HashMap
import Multipath.Files.Path
/-!
# Files and folders

`Files` is everything below the root, by the names that lead there, and the working folder that paths
without a slash in front start from. A path is walked name by name through folders; what is asked of
the place it leads to comes last. So a fault on the way always wins over one at the end, and a fault
of the text as a whole over both.
-/

namespace Multipath

inductive FileFault where
  | missing
  | exists
  /-- Something on the way, or the end of a path with a slash behind it, is a file. -/
  | notFolder
  | isFolder
  | nameTooLong
  | zeroCharacter
  deriving DecidableEq, Repr

def FileFault.message : FileFault → String
  | missing => "No such file or directory (os error 2)"
  | .exists => "File exists (os error 17)"
  | notFolder => "Not a directory (os error 20)"
  | isFolder => "Is a directory (os error 21)"
  | nameTooLong => "File name too long (os error 36)"
  | zeroCharacter => "file name contained an unexpected NUL byte"

inductive Entry where
  | file (text : String)
  | folder
  deriving DecidableEq, Repr

structure Files where
  /-- What there is, by its names from the root on. -/
  entries : Std.HashMap (List String) Entry := {}
  working : List String := []

namespace Files

/-- What is at a place. The root is always there. -/
def entry? (files : Files) (place : List String) : Option Entry :=
  if place = [] then some .folder else files.entries[place]?

def put (files : Files) (place : List String) (entry : Entry) : Files :=
  { files with entries := files.entries.insert place entry }

/-- The most bytes that a name may have. -/
def maxName : Nat := 255

/-- The most bytes that a path may have, with all that stands for nothing in it. -/
def maxPath : Nat := 4095

/-- What is at a place whose last name is looked for. -/
def look (files : Files) (place : List String) : Except FileFault (Option Entry) :=
  if place.getLast?.any (maxName < ·.utf8ByteSize) then .error .nameTooLong
  else .ok (files.entry? place)

/-- Goes from a folder to the one that a name stands for. -/
def enter (files : Files) (folder : List String) (name : String) : Except FileFault (List String) :=
  if name = "" || name = "." then .ok folder
  else if name = ".." then .ok folder.dropLast
  else do
    match ← files.look (folder ++ [name]) with
    | some .folder => .ok (folder ++ [name])
    | some (.file _) => .error .notFolder
    | none => .error .missing

/-- Where a path leads to: the folder, and the name in it, if it ends in a name. -/
structure Target where
  folder : List String
  name : Option String
  /-- A slash stands behind the name. -/
  slashed : Bool
  deriving DecidableEq, Repr

def Target.place (target : Target) : List String := target.folder ++ target.name.toList

def walk (files : Files) (names : List String) : Except FileFault (List String) :=
  names.foldlM files.enter (if names.head? = some "" then [] else files.working)

def locate (files : Files) (path : String) : Except FileFault Target :=
  if path.contains '\x00' then .error .zeroCharacter
  else if path = "" then .error .missing
  else if maxPath < path.utf8ByteSize then .error .nameTooLong
  else
    let backwards := (Path.names path).reverse
    match backwards.dropWhile (· = "") with
    | [] => .ok ⟨[], none, true⟩
    | last :: before => do
      if last = "." || last = ".." then return ⟨← files.walk (last :: before).reverse, none, false⟩
      let folder ← files.walk (if before = [] then ["."] else before.reverse)
      return ⟨folder, some last, backwards.head? = some ""⟩

def find (files : Files) (path : String) : Except FileFault Entry := do
  let target ← files.locate path
  match ← files.look target.place with
  | none => .error .missing
  | some .folder => .ok .folder
  | some (.file text) => if target.slashed then .error .notFolder else .ok (.file text)

def has (files : Files) (path : String) : Bool := (files.find path).isOk

def isFolder (files : Files) (path : String) : Bool := files.find path matches .ok .folder

def read (files : Files) (path : String) : Except FileFault String := do
  match ← files.find path with
  | .file text => .ok text
  | .folder => .error .isFolder

/-- The whole text of a file, which is made if it is not there. A path with a slash behind it is of no
file, whatever its last name. -/
def write (files : Files) (path text : String) : Except FileFault Files := do
  let target ← files.locate path
  if target.name.isNone || target.slashed then .error .isFolder
  else
    match ← files.look target.place with
    | some .folder => .error .isFolder
    | _ => .ok (files.put target.place (.file text))

def makeFolder (files : Files) (path : String) : Except FileFault Files := do
  let target ← files.locate path
  if (← files.look target.place).isSome then .error .exists
  else .ok (files.put target.place .folder)

/-- Makes the nearest folder of a path that can be made, going up from its end, and collects the ones
below it, which have to wait. The first one that is there already ends the search. The path is given by
its names, last to first; every step up has a name less. -/
def makeNearest (files : Files) (waiting : List String) :
    Nat → List String → Except FileFault (List String × Files)
  | 0, _ => .ok (waiting, files)
  | fuel + 1, backwards =>
    match Path.up backwards with
    | none => .ok (waiting, files)
    | some above =>
      let path := Path.unsplit backwards
      match files.makeFolder path with
      | .ok files => .ok (waiting, files)
      | .error .missing => files.makeNearest (path :: waiting) fuel above
      | .error .exists => if files.isFolder path then .ok (waiting, files) else .error .exists
      | .error fault => .error fault

/-- Makes folders, each in the one before. -/
def makeAll (files : Files) : List String → Except FileFault Files
  | [] => .ok files
  | path :: rest =>
    match files.makeFolder path with
    | .ok files => files.makeAll rest
    | .error fault =>
      if fault = .exists && files.isFolder path then files.makeAll rest else .error fault

/-- Makes a folder with all folders on the way that are missing. -/
def makeFolders (files : Files) (path : String) : Except FileFault Files := do
  let backwards := (Path.names path).reverse
  let (waiting, files) ← files.makeNearest [] (backwards.length + 1) backwards
  files.makeAll waiting

/-- A working folder with texts in it, by their names from there. -/
def ofTexts (working : List String) (texts : List (String × String)) : Files :=
  let withFolders (files : Files) (place : List String) : Files :=
    (List.range place.length).foldl (fun files n => files.put (place.take (n + 1)) .folder) files
  texts.foldl
    (fun files (name, text) =>
      let place := working ++ Path.names name
      (withFolders files place.dropLast).put place (.file text))
    { withFolders {} working with working }

/-- The texts in the working folder, by their names from there, in no order. -/
def texts (files : Files) : List (String × String) :=
  files.entries.toList.filterMap fun (place, entry) =>
    match entry with
    | .file text =>
      if files.working.isPrefixOf place then
        some (String.intercalate "/" (place.drop files.working.length), text)
      else none
    | .folder => none

end Files

end Multipath
