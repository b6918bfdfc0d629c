import Multipath.Command.Line
import Multipath.Settings.Check
import Multipath.Settings.Stored
import Multipath.Settings.Template
import Multipath.Simulation.Summary
/-!
# Carrying commands out

A command takes the files as they are and gives what it writes to the two outputs, the files
afterwards, and the failure it ended with, if any. Everything that it cannot know is passed in as
`Surroundings`.
-/

namespace Multipath

structure Surroundings where
  userPath : Option String
  call : CallId
  /-- In place of a missing seed. -/
  entropy : UInt64
  /-- The wall-clock time of events, as a table and as JSON write it. -/
  time : String
  timestamp : String

inductive Failure where
  | noProbability (option : String) (entry : Nat) (value : Float)
  | noSuccessProbability
  | noDuration
  | noUserFolder
  | storage (fault : StorageFault)
  | unfitForSimulation (flaw : Flaw)
  | refused (refusal : Refusal)
  | occupied (path : String)
  | templateUnwritable (path : String) (fault : FileFault)
  | noFile (path : String)
  | flawed (path : String) (flaw : Flaw)
  deriving DecidableEq

def Failure.chain : Failure → List String
  | noProbability option entry value =>
    [s!"--{option} entry {entry} must be within [0, 1] (got {Decimal.Layout.plain.render value})"]
  | noSuccessProbability => ["--rebuild-success must be within [0, 1]"]
  | noDuration => ["--duration-secs must be > 0"]
  | noUserFolder => ["Cannot determine config directory; pass an explicit path"]
  | storage fault => fault.chain
  | unfitForSimulation flaw => ["Invalid scheduler config for simulation", flaw.message]
  | refused refusal => [refusal.message]
  | occupied path => [s!"Config already exists at {path} (use --force to overwrite)"]
  | templateUnwritable path fault => [s!"Failed to write {path}", fault.message]
  | noFile path => [s!"No config file at {path}"]
  | flawed path flaw => [s!"Invalid config: {path}", flaw.message]

def Failure.text (failure : Failure) : String :=
  match failure.chain with
  | [] => "Error\n"
  | [only] => s!"Error: {only}\n"
  | first :: causes =>
    s!"Error: {first}\n\nCaused by:\n" ++ String.join (causes.map fun cause => s!"    {cause}\n")

structure Execution where
  output : String := ""
  messages : String := ""
  files : Files
  failure : Option Failure := none

structure Success where
  output : String := ""
  messages : String := ""
  files : Files

/-- Files are left as they were by a command that fails. -/
def Execution.ofResult (files : Files) : Except Failure Success → Execution
  | .ok s => { output := s.output, messages := s.messages, files := s.files }
  | .error failure => { files, failure := some failure }

namespace Surroundings

def pathOr (s : Surroundings) (path : Option String) : Except Failure String :=
  (path.or s.userPath).elim (.error .noUserFolder) .ok

def load (files : Files) (path : String) : Except Failure Settings :=
  match Settings.load files path with
  | .ok settings => .ok settings
  | .error fault => .error (.storage fault)

/-- The settings in a file that was given, or in the user's own if there is one, or the defaults. -/
def settingsInUse (s : Surroundings) (files : Files) (path : Option String) :
    Except Failure Settings :=
  match path with
  | some path => load files path
  | none =>
    match s.userPath.filter files.has with
    | some path => load files path
    | none => .ok {}

end Surroundings

/-- The first of some probabilities that is none. -/
def checkProbabilities (option : String) (values : List Float) : Except Failure Unit :=
  match values.zipIdx.find? fun (x, _) => !within 0.0 1.0 x with
  | some (x, entry) => .error (.noProbability option entry x)
  | none => .ok ()

/-- What is wrong with a scenario, whatever the settings. -/
def Simulation.Scenario.check (scenario : Simulation.Scenario) : Except Failure Unit := do
  checkProbabilities "loss" scenario.loss
  checkProbabilities "send-failure" scenario.sendFailure
  if !within 0.0 1.0 scenario.rebuildSuccess then .error .noSuccessProbability
  else if scenario.seconds = 0 then .error .noDuration
  else .ok ()

/-- Settings with the number of circuits and the seed of a scenario. -/
def Settings.forScenario (settings : Settings) (scenario : Simulation.Scenario)
    (circuits : Option UInt64) : Settings :=
  { settings with
    circuits := circuits.getD settings.circuits
    selection := { settings.selection with seed := scenario.seed.or settings.selection.seed } }

namespace Command

def simulateCall (s : Surroundings) (files : Files) (format : Format)
    (scenario : Simulation.Scenario) (circuits : Option UInt64) (path : Option String) :
    Except Failure Success := do
  scenario.check
  let settings := (← s.settingsInUse files path).forScenario scenario circuits
  match settings.check with
  | .error flaw => .error (.unfitForSimulation flaw)
  | .ok () =>
    match Simulation.run settings scenario s.call s.entropy with
    | .error refusal => .error (.refused refusal)
    | .ok report =>
      let output := match format with
        | .text => report.toText s.time
        | .json => (report.toJson s.timestamp).render 0 ++ "\n"
      .ok { output, files }

/-- A file that is there is only replaced by force. -/
def writeTemplate (s : Surroundings) (files : Files) (path : Option String) (force : Bool) :
    Except Failure Success := do
  let path ← s.pathOr path
  if files.has path && !force then .error (.occupied path)
  else match files.prepare path with
    | .error fault => .error (.storage fault)
    | .ok prepared =>
      match prepared.write path template with
      | .error fault => .error (.templateUnwritable path fault)
      | .ok files => .ok { messages := s!"Wrote default scheduler config to: {path}\n", files }

def checkFile (s : Surroundings) (files : Files) (path : Option String) :
    Except Failure Success := do
  let path ← s.pathOr path
  if !files.has path then .error (.noFile path)
  else
    let settings ← Surroundings.load files path
    match settings.check with
    | .error flaw => .error (.flawed path flaw)
    | .ok () => .ok { messages := s!"Configuration is valid: {path}\n", files }

def showSettings (s : Surroundings) (files : Files) (format : Format) (path : Option String) :
    Except Failure Success := do
  let settings ← s.settingsInUse files path
  let output := match format with
    | .text => settings.render
    | .json => settings.toJson.render 0 ++ "\n"
  .ok { output, files }

end Command

def Request.run (request : Request) (s : Surroundings) (files : Files) : Execution :=
  Execution.ofResult files <|
    match request.command with
    | .simulate scenario circuits path =>
      Command.simulateCall s files request.format scenario circuits path
    | .initialise path force => Command.writeTemplate s files path force
    | .validate path => Command.checkFile s files path
    | .display path => Command.showSettings s files request.format path

end Multipath
