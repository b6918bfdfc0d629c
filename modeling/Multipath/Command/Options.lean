import Multipath.Decimal.Reading
import Multipath.Simulation.Run
import Multipath.Text.Pieces
/-!
# What a command line can say

A command line is read scope by scope: the program, the group of commands about settings, and the
commands themselves. Each scope has its own options, and `--format` belongs to all of them. `Options`
holds what all options together say, and `Request` what is to be done.
-/

namespace Multipath

inductive Format where
  | text
  | json
  deriving DecidableEq, Repr

structure Options where
  format : Format := .text
  path : Option String := none
  force : Bool := false
  circuits : Option UInt64 := none
  scenario : Simulation.Scenario := {}

inductive Command where
  | simulate (scenario : Simulation.Scenario) (circuits : Option UInt64) (path : Option String)
  | initialise (path : Option String) (force : Bool)
  | validate (path : Option String)
  | display (path : Option String)

structure Request where
  command : Command
  format : Format

inductive Usage where
  | help
  | version
  | unknownArgument
  | unknownCommand
  | missingCommand
  /-- A group of commands is named, and nothing besides. -/
  | nothingNamed
  | noSuchValue
  /-- A value that its option cannot read. -/
  | unfitValue
  /-- A value for an option that takes none. -/
  | strayValue
  | repeatedOption
  deriving DecidableEq, Repr

namespace Usage

/-- Asked for, and not a mistake. -/
def asked : Usage → Bool
  | help | version => true
  | _ => false

def overview : String :=
  String.join (lines.map (· ++ "\n"))
where
  lines : List String := [
    "circuit-mux: adaptive multipath scheduling for voice frames",
    "",
    "Usage: cmx [--format text|json] simulate [OPTIONS]",
    "       cmx [--format text|json] config init [--path PATH] [--force]",
    "       cmx [--format text|json] config validate [PATH]",
    "       cmx [--format text|json] config show [PATH]"]

def message : Usage → String
  | help | nothingNamed => overview
  | version => "cmx 0.1.0\n"
  | unknownArgument => "error: unexpected argument found\n"
  | unknownCommand => "error: unrecognized subcommand\n"
  | missingCommand => "error: a subcommand is required\n"
  | noSuchValue => "error: a value is missing or not one of the possible values\n"
  | unfitValue => "error: invalid value\n"
  | strayValue => "error: unexpected value for an option that takes none\n"
  | repeatedOption => "error: an option cannot be used multiple times\n"

end Usage

inductive Intake where
  /-- It takes none. -/
  | none (set : Options → Options)
  | one (read : String → Except Usage (Options → Options))
  /-- It takes at least one, each a list with commas, and may be given again. -/
  | many (read : String → Except Usage (Options → Options))

structure Parameter where
  name : String
  intake : Intake

namespace Parameter

def takesValues (p : Parameter) : Bool := p.intake matches .one _ | .many _

def takesMany (p : Parameter) : Bool := p.intake matches .many _

def read (p : Parameter) (texts : List String) : Except Usage (List (Options → Options)) :=
  match p.intake with
  | .none set => .ok [set]
  | .one read => texts.mapM read
  | .many read => (texts.flatMap (Text.split ',')).mapM read

def flag (name : String) (set : Options → Options) : Parameter := ⟨name, .none set⟩

def natural (name : String) (set : UInt64 → Options → Options) : Parameter where
  name
  intake := .one fun text =>
    (Decimal.natural? UInt64.size text).elim (.error .unfitValue) fun n => .ok (set n.toUInt64)

def readReal (set : Float → Options → Options) (text : String) :
    Except Usage (Options → Options) :=
  (Decimal.number? text).elim (.error .unfitValue) fun x => .ok (set x)

def real (name : String) (set : Float → Options → Options) : Parameter :=
  ⟨name, .one (readReal set)⟩

def reals (name : String) (set : Float → Options → Options) : Parameter :=
  ⟨name, .many (readReal set)⟩

/-- A path is any text but the empty one. -/
def path (name : String) : Parameter where
  name
  intake := .one fun text =>
    if text = "" then .error .noSuchValue else .ok fun o => { o with path := some text }

def format : Parameter where
  name := "format"
  intake := .one fun text =>
    if text = "text" then .ok fun o => { o with format := .text }
    else if text = "json" then .ok fun o => { o with format := .json }
    else .error .noSuchValue

end Parameter

inductive Scope where
  | program
  | settings
  | simulate
  | initialise
  | validate
  | display
  deriving DecidableEq, Repr

namespace Scope

def commands : Scope → List (String × Scope)
  | program => [("simulate", .simulate), ("config", .settings)]
  | settings => [("init", .initialise), ("validate", .validate), ("show", .display)]
  | _ => []

def isGroup (scope : Scope) : Bool := !scope.commands.isEmpty

def inScenario (change : Simulation.Scenario → Simulation.Scenario) (o : Options) : Options :=
  { o with scenario := change o.scenario }

def ownParameters : Scope → List Parameter
  | simulate => [
    .natural "circuits" fun n o => { o with circuits := some n },
    .natural "duration-secs" fun n => inScenario ({ · with seconds := n.toNat }),
    .natural "seed" fun n => inScenario ({ · with seed := some n }),
    .reals "loss" fun x => inScenario fun s => { s with loss := s.loss ++ [x] },
    .reals "send-failure" fun x => inScenario fun s => { s with sendFailure := s.sendFailure ++ [x] },
    .natural "feedback-interval-ms" fun n => inScenario ({ · with feedbackInterval := n.toNat }),
    .real "rebuild-success" fun x => inScenario ({ · with rebuildSuccess := x }),
    .natural "rebuild-latency-ms" fun n => inScenario ({ · with rebuildLatency := n.toNat }),
    .path "config",
    .flag "events" (inScenario ({ · with events := true }))]
  | initialise => [.path "path", .flag "force" fun o => { o with force := true }]
  | _ => []

def parameters (scope : Scope) : List Parameter := scope.ownParameters ++ [.format]

/-- What a word that belongs to no option stands for. -/
def positional? : Scope → Option Parameter
  | validate | display => some (.path "PATH")
  | _ => none

/-- The options that only say something about the program itself. -/
def inquiry? (scope : Scope) (name : String) : Option Usage :=
  if name = "help" then some .help
  else if name = "version" && scope = .program then some .version
  else none

/-- The same by a single letter. -/
def shortInquiry? (scope : Scope) (letter : Char) : Option Usage :=
  if letter = 'h' then some .help
  else if letter = 'V' && scope = .program then some .version
  else none

def command? (scope : Scope) (o : Options) : Option Command :=
  match scope with
  | program | settings => none
  | simulate => some (.simulate o.scenario o.circuits o.path)
  | initialise => some (.initialise o.path o.force)
  | validate => some (.validate o.path)
  | display => some (.display o.path)

end Scope

end Multipath
