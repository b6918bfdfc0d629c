import Multipath.Command.Options
/-!
# Reading a command line

Words are read from left to right. An option holds the words after it until it has all it takes, and
is judged when something else is recognised behind it or the line ends; so the first fault to be
noticed is not always the first one on the line. A word that begins with a dash is never a value,
unless it is joined to its option by an equals sign or follows a lone `--`, behind which there are no
options.
-/

namespace Multipath

structure Progress where
  seen : List String := []
  changes : List (Options → Options) := []
  /-- The option that holds words, and the words. -/
  held : Option (Parameter × List String) := none

namespace Progress

def judge (p : Parameter) (words : List String) (progress : Progress) : Except Usage Progress := do
  if p.takesValues && words.isEmpty then .error .noSuchValue
  else if !p.takesMany && progress.seen.contains p.name then .error .repeatedOption
  else
    let changes ← p.read words
    return { progress with
      seen := p.name :: progress.seen
      changes := progress.changes ++ changes }

def settle (progress : Progress) : Except Usage Progress :=
  match progress.held with
  | none => .ok progress
  | some (p, words) => judge p words { progress with held := none }

/-- An option with all its words, behind whatever was held. -/
def give (p : Parameter) (words : List String) (progress : Progress) : Except Usage Progress := do
  judge p words (← progress.settle)

def hold (p : Parameter) (words : List String) (progress : Progress) : Except Usage Progress := do
  return { ← progress.settle with held := some (p, words) }

def open? (progress : Progress) : Option (Parameter × List String) :=
  progress.held.filter fun (p, words) => p.takesMany || words.isEmpty

def has (progress : Progress) (p : Parameter) : Bool :=
  progress.seen.contains p.name || progress.held.any (·.1.name = p.name)

/-- An option by its name, with the value joined to it. -/
def long (scope : Scope) (name : String) (value : Option String) (progress : Progress) :
    Except Usage Progress :=
  match scope.inquiry? name with
  | some inquiry =>
    if value.isSome then .error .strayValue else progress.settle.bind fun _ => .error inquiry
  | none =>
    match scope.parameters.find? (·.name = name) with
    | none => .error .unknownArgument
    | some p =>
      match p.takesValues, value with
      | true, some value => progress.give p [value]
      | true, none => progress.hold p []
      | false, some _ => .error .strayValue
      | false, none => progress.give p []

def short (scope : Scope) (letters : List Char) (progress : Progress) : Except Usage Progress :=
  match letters.head?.bind scope.shortInquiry? with
  | some inquiry => progress.settle.bind fun _ => .error inquiry
  | none => .error .unknownArgument

/-- A word that is neither an option nor a value of one, behind a lone `--` or before it. -/
def word (scope : Scope) (word : String) (behind : Bool) (progress : Progress) :
    Except Usage Progress :=
  match scope.positional?.filter (!progress.has ·) with
  | some p => progress.hold p [word]
  | none =>
    let named := word = "help" || (scope.commands.lookup word).isSome
    if scope.isGroup && !(behind && named) then .error .unknownCommand else .error .unknownArgument

/-- The end of the line. A group of commands is not enough. -/
def finish (scope : Scope) (progress : Progress) :
    Except Usage (Scope × List (Options → Options)) := do
  let progress ← progress.settle
  if scope.isGroup then .error (if progress.seen.isEmpty then .nothingNamed else .missingCommand)
  else .ok (scope, progress.changes)

end Progress

/-- An option as it is typed: its name, and the value joined to it. -/
def splitOption (option : List Char) : String × Option String :=
  match option.dropWhile (· ≠ '=') with
  | [] => (String.ofList option, none)
  | _ :: value => (String.ofList (option.takeWhile (· ≠ '=')), some (String.ofList value))

def explain (scope : Scope) : List String → Usage
  | [] => .help
  | name :: rest =>
    match scope.commands.lookup name with
    | some command => explain command rest
    | none => if name = "help" && scope.isGroup && rest.isEmpty then .help else .unknownCommand

namespace Scope

/-- The words behind a lone `--`. -/
def readBehind (scope : Scope) (progress : Progress) :
    List String → Except Usage (Scope × List (Options → Options))
  | [] => progress.finish scope
  | word :: rest => do scope.readBehind (← progress.word scope word true) rest

/-- The words in a scope: the command they lead to, and what its options and those of the scopes
around it say, the outer ones first. What is held outside is judged after the command was read. -/
def read (scope : Scope) (progress : Progress) :
    List String → Except Usage (Scope × List (Options → Options))
  | [] => progress.finish scope
  | word :: rest =>
    match if progress.open?.isSome then none else scope.commands.lookup word with
    | some command => do
      let (last, changes) ← command.read {} rest
      return (last, (← progress.settle).changes ++ changes)
    | none =>
      if word = "help" && scope.isGroup && progress.open?.isNone then .error (explain scope rest)
      else match word.toList with
        | ['-', '-'] => scope.readBehind progress rest
        | '-' :: '-' :: option => do
          let (name, value) := splitOption option
          scope.read (← progress.long scope name value) rest
        | '-' :: letter :: letters => do
          scope.read (← progress.short scope (letter :: letters)) rest
        | _ =>
          match progress.open? with
          | some (p, words) => scope.read { progress with held := some (p, words ++ [word]) } rest
          | none => do scope.read (← progress.word scope word false) rest

end Scope

def Request.ofWords (words : List String) : Except Usage Request := do
  let (scope, changes) ← Scope.program.read {} words
  let options := changes.foldl (fun o change => change o) {}
  match scope.command? options with
  | some command => return { command, format := options.format }
  | none => .error .missingCommand

end Multipath
