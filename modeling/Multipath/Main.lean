import Multipath.Command.Run
import Multipath.Text.Moment
import Std.Time.DateTime.Timestamp
/-!
# The program

Reads the command line, looks up what the file system holds along the path that the command is about,
carries the command out on that, and makes the changes to the files come true.
-/

namespace Multipath.Program

def pathOf (place : List String) : String := "/" ++ String.intercalate "/" place

def probe (place : List String) : IO (Option Entry) := do
  let path := (← IO.currentDir) / pathOf place
  if ← path.isDir then return some .folder
  else if ← path.pathExists then return some (.file (← IO.FS.readFile path))
  else return none

/-- The places that a walk along names comes by. -/
def visited (start : List String) : List String → List (List String)
  | [] => [start]
  | name :: rest =>
    let next :=
      if name = "" || name = "." then start
      else if name = ".." then start.dropLast
      else start ++ [name]
    start :: visited next rest

/-- The files along some paths. -/
def filesAlong (paths : List String) : IO Files := do
  let working := (Path.names (← IO.currentDir).toString).filter (· ≠ "")
  let places := paths.flatMap fun path =>
    visited (if path.startsWith "/" then [] else working) (Path.names path)
  places.foldlM
    (fun files place => do
      match ← probe place with
      | some entry => return if place = [] then files else files.put place entry
      | none => return files)
    { working }

/-- Makes the file system what the files have become, folders before what is in them. -/
def apply (before after : Files) : IO Unit := do
  for (place, entry) in after.entries.toList.mergeSort fun a b => a.1.length ≤ b.1.length do
    if before.entry? place ≠ some entry then
      match entry with
      | .folder => IO.FS.createDir (pathOf place)
      | .file text => IO.FS.writeFile (pathOf place) text

def userPath : IO (Option String) := do
  let folder ← match (← IO.getEnv "XDG_CONFIG_HOME").filter (·.startsWith "/") with
    | some folder => pure (some folder)
    | none => pure (((← IO.getEnv "HOME").filter (· ≠ "")).map (Path.join · ".config"))
  return folder.map fun folder => Path.join folder "circuit-mux/config.toml"

def number (bytes : ByteArray) : Nat := bytes.toList.foldl (fun n b => n * 256 + b.toNat) 0

def surroundings : IO Surroundings := do
  let now ← Std.Time.Timestamp.now
  let moment : Moment := ⟨now.toMillisecondsSinceUnixEpoch.val.toNat⟩
  return {
    userPath := ← userPath
    call := .make moment.milliseconds (number (← IO.getRandomBytes 10))
    entropy := (number (← IO.getRandomBytes 8)).toUInt64
    time := moment.time
    timestamp := moment.dateTime }

def pathIn : Command → Option String
  | .simulate _ _ path | .initialise path _ | .validate path | .display path => path

def carryOut (request : Request) : IO UInt32 := do
  let around ← surroundings
  let before ← filesAlong ((pathIn request.command).or around.userPath).toList
  let done := request.run around before
  apply before done.files
  IO.print done.output
  IO.eprint done.messages
  match done.failure with
  | none => return 0
  | some failure =>
    IO.eprint failure.text
    return 1

end Multipath.Program

def main (words : List String) : IO UInt32 := do
  match Multipath.Request.ofWords words with
  | .ok request => Multipath.Program.carryOut request
  | .error usage =>
    if usage.asked then
      IO.print usage.message
      return 0
    else
      IO.eprint usage.message
      return 2
