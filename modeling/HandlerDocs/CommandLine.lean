import HandlerDocs.Generation

/-!
# The command line

There are two commands: `generate` writes snippets, `handlers` lists the handlers that have one.
Options are written as `--name value` or `--name=value`, each at most once, in any order. A value
that stands for itself does not start with a dash, unless it is a single dash.

* `Command.ofArguments` — the command that arguments ask for.
* `run` — carries out what arguments ask for, and gives the exit code.
* `Host` — what a command asks of its surroundings; `Host.session` keeps everything in memory.
-/

namespace HandlerDocs

/-! ### Commands -/

/-- A command with its options. -/
inductive Command
  /-- Generates snippets and writes them to the standard output or a file. -/
  | generate (request : GenerateRequest) (output : Option String)
  /-- Lists the handlers of a snapshot. -/
  | handlers (snapshotPath : String)
  deriving DecidableEq, Repr

/-- Why arguments ask for no command. -/
inductive NoCommand
  /-- They ask for the usage. -/
  | help
  /-- They ask for the version. -/
  | version
  /-- They cannot be understood. -/
  | misuse
  deriving DecidableEq, Repr

/-! ### Arguments -/

/-- An option of a command. -/
structure OptionRule where
  /-- The name, without dashes. -/
  name : String
  /-- Whether its value may be empty. -/
  mayBeEmpty : Bool
  deriving DecidableEq, Repr

/-- The options of `generate`. -/
def generateRules : List OptionRule :=
  [⟨"snapshot", true⟩, ⟨"handler", true⟩, ⟨"config", false⟩, ⟨"output", false⟩]

/-- The options of `handlers`. -/
def handlersRules : List OptionRule :=
  [⟨"snapshot", true⟩]

/-- An option as it is written: its name, and its value if it is in the same argument. -/
def writtenOption? (argument : String) : Option (String × Option String) :=
  match argument.toList with
  | '-' :: '-' :: text =>
    let name := String.ofList (text.takeWhile (· != '='))
    match text.dropWhile (· != '=') with
    | [] => some (name, none)
    | _ :: value => some (name, some (String.ofList value))
  | _ => none

/-- Whether an argument stands for itself and is no option. -/
def isOperand (argument : String) : Bool :=
  argument = "-" || argument.toList.head? != some '-'

/-- Whether an argument asks for the usage. -/
def asksForHelp (argument : String) : Bool :=
  argument = "--help" || ['-', 'h'].isPrefixOf argument.toList

/-- Adds the value of an option to the others. -/
def addOption (rules : List OptionRule) (name value : String) (options : List (String × String)) :
    Except NoCommand (List (String × String)) :=
  match rules.find? (·.name == name) with
  | none => .error .misuse
  | some rule =>
    if (options.lookup name).isSome || (value = "" && !rule.mayBeEmpty) then .error .misuse
    else .ok ((name, value) :: options)

/-- Reads options behind the `done` ones. -/
def readOptions (rules : List OptionRule) (done : List (String × String)) :
    List String → Except NoCommand (List (String × String))
  | [] => .ok done
  | ["--"] => .ok done
  | argument :: rest =>
    if asksForHelp argument then .error .help
    else
      match writtenOption? argument, rest with
      | some (name, some value), rest => do
        readOptions rules (← addOption rules name value done) rest
      | some (name, none), value :: rest => do
        if isOperand value then readOptions rules (← addOption rules name value done) rest
        else .error .misuse
      | _, _ => .error .misuse

/-- Whether an argument asks for the version. -/
def asksForVersion (argument : String) : Bool :=
  argument = "--version" || ['-', 'V'].isPrefixOf argument.toList

/-- The value of an option that is required. -/
def required (name : String) (options : List (String × String)) : Except NoCommand String :=
  match options.lookup name with
  | some value => .ok value
  | none => .error .misuse

/-- What is asked for behind the word `help`. -/
def helpOn : List String → NoCommand
  | [] | ["generate"] | ["handlers"] | ["help"] => .help
  | _ => .misuse

namespace Command

/-- The command that arguments ask for. -/
def ofArguments : List String → Except NoCommand Command
  | "generate" :: arguments => do
    let options ← readOptions generateRules [] arguments
    let snapshotPath ← required "snapshot" options
    return generate
      { snapshotPath, handler := options.lookup "handler", configPath := options.lookup "config" }
      (options.lookup "output")
  | "handlers" :: arguments => do
    let options ← readOptions handlersRules [] arguments
    return handlers (← required "snapshot" options)
  | "help" :: arguments => .error (helpOn arguments)
  | argument :: _ =>
    if asksForHelp argument then .error .help
    else if asksForVersion argument then .error .version
    else .error .misuse
  | [] => .error .misuse

/-- The files that a command reads. -/
def inputs : Command → List String
  | generate request _ => request.snapshotPath :: request.configPath.toList
  | handlers snapshotPath => [snapshotPath]

end Command

/-! ### Output -/

/-- A text filled up with blanks. -/
def padded (width : Nat) (text : String) : String :=
  text ++ String.ofList (List.replicate (width - text.length) ' ')

/-- The line that lists a handler. -/
def HandlerRoute.line (route : HandlerRoute) : String :=
  padded 8 route.method.name ++ " " ++ padded 40 route.path ++ " " ++ route.name ++ "\n"

/-- The list of handlers. -/
def listing (routes : List HandlerRoute) : String :=
  if routes.isEmpty then "No handlers with a supported request mapping.\n"
  else String.join (routes.map HandlerRoute.line)

/-- The version of the program. -/
def versionLine : String :=
  "restdocgen 0.1.0\n"

/-- How the program is used. -/
def usage : String :=
  "Usage: restdocgen generate --snapshot FILE [--handler NAME] [--config FILE] [--output FILE]\n" ++
  "       restdocgen handlers --snapshot FILE\n" ++
  "       restdocgen --help | --version\n"

/-! ### Running -/

/-- What a command asks of its surroundings. -/
structure Host (m : Type → Type) where
  /-- Writes to the standard output, and tells whether that was possible. -/
  print : String → m Bool
  /-- Writes a file with a path, and tells whether that was possible. -/
  save : String → String → m Bool
  /-- Tells a failure to the user. -/
  report : String → m Unit

section

variable {m : Type → Type} [Monad m]

/-- The sink of a command: a file, or the standard output, where a text gets an end of line. -/
def Host.sink (host : Host m) : Option String → Sink m
  | some path => ⟨host.save path⟩
  | none => ⟨fun text => host.print (text ++ "\n")⟩

/-- Tells a failure and gives its exit code. -/
def Host.fail (host : Host m) (e : RunError) : m Nat := do
  host.report (e.message?.getD "A file cannot be read or written.")
  return 1

/-- Carries out a command, and gives the exit code. -/
def Command.run (host : Host m) (read : String → Option String) : Command → m Nat
  | generate request output => do
    match ← request.execute (host.sink output) read with
    | .ok _ => return 0
    | .error e => host.fail e
  | handlers snapshotPath => do
    match listHandlers read snapshotPath with
    | .ok routes => if ← host.print (listing routes) then return 0 else return 1
    | .error e => host.fail e

/-- Carries out what arguments ask for, and gives the exit code. -/
def run (host : Host m) (read : String → Option String) (arguments : List String) : m Nat :=
  match Command.ofArguments arguments with
  | .ok command => command.run host read
  | .error .help => do if ← host.print usage then return 0 else return 1
  | .error .version => do if ← host.print versionLine then return 0 else return 1
  | .error .misuse => do
    host.report usage
    return 2

end

/-! ### Sessions in memory -/

/-- The files and the output of a run that is kept in memory. -/
structure Session where
  /-- The working directory. -/
  files : Files := {}
  /-- The standard output. -/
  output : String := ""
  deriving DecidableEq, Repr

/-- The host that keeps everything in memory. -/
def Host.session : Host (StateM Session) where
  print text := fun s => (true, { s with output := s.output ++ text })
  save path text := fun s =>
    let (saved, files) := s.files.write path text
    (saved, { s with files })
  report _ := pure ()

/-- The exit code of a run that is kept in memory, and what it leaves behind. -/
def Session.run (files : Files) (arguments : List String) : Nat × Session :=
  (HandlerDocs.run Host.session files.read? arguments).run { files }

end HandlerDocs
