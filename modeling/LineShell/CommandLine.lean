import LineShell.Dialogue
import LineShell.LogFilter

/-!
# The command line of the program

The program holds a dialogue, runs a batch of lines, or prints suggestions. Two options may stand
before or after the name of what to do: `--log-level` with a value, and `--json`. Arguments are
read from left to right; the first thing that is wrong, and the first request for help or for the
version, settles the matter.
-/

namespace LineShell.CommandLine

/-! ### Invocations -/

inductive Action where
  | dialogue
  | batch (lines : List String)
  | suggest (line : String)
deriving DecidableEq, Repr

structure Invocation where
  action : Action
  json : Bool
  logLevel : Option String
deriving DecidableEq, Repr

/-- What the arguments come to: an invocation, a text to print, or an error in their use. -/
inductive Request where
  | invoke (i : Invocation)
  | print (text : String)
  | misuse
deriving DecidableEq, Repr

/-! ### Texts -/

def programName : String := "webterm"

def versionText : String := programName ++ " 0.1.0\n"

def optionRows : String :=
  "Options:\n" ++
  "      --log-level <LOG_LEVEL>  Tracing filter (e.g. \"debug\" or \"webterm=trace\"); " ++
    "overrides RUST_LOG\n" ++
  "      --json                   Emit JSON instead of text\n" ++
  "  -h, --help                   Print help\n"

def helpText : String :=
  "In-memory shell interpreter\n\nUsage: " ++ programName ++ " [OPTIONS] [COMMAND]\n\n" ++
  "Commands:\n" ++
  "  repl     Start an interactive session (default)\n" ++
  "  run      Run command lines in order and exit with the last exit code\n" ++
  "  suggest  Print completion suggestions for a partial line\n" ++
  "  help     Print this message or the help of the given subcommand(s)\n\n" ++
  optionRows ++
  "  -V, --version                Print version\n"

inductive Verb where
  | repl
  | run
  | suggest
deriving DecidableEq, Repr

def Verb.ofName? (name : String) : Option Verb :=
  [("repl", repl), ("run", run), ("suggest", suggest)].lookup name

def Verb.helpText : Verb → String
  | repl =>
    "Start an interactive session (default)\n\nUsage: " ++ programName ++ " repl [OPTIONS]\n\n" ++
      optionRows
  | run =>
    "Run command lines in order and exit with the last exit code\n\nUsage: " ++ programName ++
      " run [OPTIONS] <LINE>...\n\nArguments:\n  <LINE>...  \n\n" ++ optionRows
  | suggest =>
    "Print completion suggestions for a partial line\n\nUsage: " ++ programName ++
      " suggest [OPTIONS] <PARTIAL>\n\nArguments:\n  <PARTIAL>  \n\n" ++ optionRows

def helpOfHelp : String :=
  "Print this message or the help of the given subcommand(s)\n\nUsage: " ++ programName ++
    " help [COMMAND]...\n\nArguments:\n  [COMMAND]...  Print help for the subcommand(s)\n"

def helpRequest : List String → Request
  | [] => .print helpText
  | ["help"] => .print helpOfHelp
  | [name] =>
    match Verb.ofName? name with
    | some verb => .print verb.helpText
    | none => .misuse
  | _ => .misuse

/-! ### Options -/

/-- The options given so far at one level, each at most once. -/
structure Options where
  json : Bool
  logLevel : Option String
deriving DecidableEq, Repr

inductive OptionToken where
  | json
  | logLevel (value : Option String)
  | help
  | version
  | unknown
deriving DecidableEq, Repr

def logLevelValue? (argument : String) : Option String :=
  let lead := "--log-level="
  if Text.begins lead argument then some (String.ofList (argument.toList.drop lead.length))
  else none

/-- What an argument is as an option; an argument that is none may be a value. Of short options
written together the first one decides. -/
def optionToken? (argument : String) : Option OptionToken :=
  match argument.toList with
  | '-' :: '-' :: _ =>
    if argument = "--json" then some .json
    else if argument = "--log-level" then some (.logLevel none)
    else if argument = "--help" then some .help
    else if argument = "--version" then some .version
    else
      match logLevelValue? argument with
      | some value => some (.logLevel (some value))
      | none => some .unknown
  | '-' :: 'h' :: _ => some .help
  | '-' :: 'V' :: _ => some .version
  | '-' :: _ :: _ => some .unknown
  | _ => none

def Options.setLogLevel (o : Options) (value : String) : Option Options :=
  if o.logLevel.isSome then none else some { o with logLevel := some value }

/-- The options with the log level that is an argument of its own; an argument that begins an option
is no such value. -/
def separateLogLevel (o : Options) (value : String) : Option Options :=
  if (optionToken? value).isSome then none else o.setLogLevel value

def Options.setJson (o : Options) : Option Options :=
  if o.json then none else some { o with json := true }

/-! ### Arguments -/

/-- The action of a verb with the values after it; none when there are too few or too many. -/
def Verb.action? : Verb → List String → Option Action
  | repl, [] => some .dialogue
  | run, line :: lines => some (.batch (line :: lines))
  | suggest, [line] => some (.suggest line)
  | _, _ => none

def Verb.takesValue : Verb → Nat → Bool
  | repl, _ => false
  | run, _ => true
  | suggest, n => n = 0

/-- The invocation of a verb; an option after the verb outranks the same one before it. -/
def finish (verb : Verb) (outer inner : Options) (values : List String) : Request :=
  match verb.action? values with
  | some action => .invoke ⟨action, outer.json || inner.json, inner.logLevel.or outer.logLevel⟩
  | none => .misuse

/-- The arguments after `--`: all of them are values. -/
def plainValues (verb : Verb) (outer inner : Options) (values : List String) :
    List String → Request
  | [] => finish verb outer inner values
  | argument :: rest =>
    if verb.takesValue values.length then
      plainValues verb outer inner (values ++ [argument]) rest
    else .misuse

def verbArguments (verb : Verb) (outer inner : Options) (values : List String) :
    List String → Request
  | [] => finish verb outer inner values
  | argument :: rest =>
    if argument = "--" then plainValues verb outer inner values rest
    else
      match optionToken? argument with
      | none =>
        if verb.takesValue values.length then
          verbArguments verb outer inner (values ++ [argument]) rest
        else .misuse
      | some .json =>
        match inner.setJson with
        | some inner => verbArguments verb outer inner values rest
        | none => .misuse
      | some (.logLevel (some value)) =>
        match inner.setLogLevel value with
        | some inner => verbArguments verb outer inner values rest
        | none => .misuse
      | some (.logLevel none) =>
        match rest with
        | [] => .misuse
        | value :: rest =>
          match separateLogLevel inner value with
          | some inner => verbArguments verb outer inner values rest
          | none => .misuse
      | some .help => .print verb.helpText
      | some .version | some .unknown => .misuse

/-- The arguments up to the verb; without one the program holds a dialogue. -/
def arguments (outer : Options) : List String → Request
  | [] => .invoke ⟨.dialogue, outer.json, outer.logLevel⟩
  | argument :: rest =>
    match optionToken? argument with
    | none =>
      if argument = "help" then helpRequest rest
      else
        match Verb.ofName? argument with
        | some verb => verbArguments verb outer ⟨false, none⟩ [] rest
        | none => .misuse
    | some .json =>
      match outer.setJson with
      | some outer => arguments outer rest
      | none => .misuse
    | some (.logLevel (some value)) =>
      match outer.setLogLevel value with
      | some outer => arguments outer rest
      | none => .misuse
    | some (.logLevel none) =>
      match rest with
      | [] => .misuse
      | value :: rest =>
        match separateLogLevel outer value with
        | some outer => arguments outer rest
        | none => .misuse
    | some .help => .print helpText
    | some .version => .print versionText
    | some .unknown =>
      if argument = "--" ∧ rest = [] then .invoke ⟨.dialogue, outer.json, outer.logLevel⟩
      else .misuse

/-! ### Running -/

/-- What the program comes to: the bytes that it prints and its exit status. -/
structure Ended where
  printed : List UInt8
  status : Nat
deriving DecidableEq

/-- What arguments come to; a filter that cannot be read is an error in their use. -/
def Request.ofArguments (args : List String) : Request :=
  match arguments ⟨false, none⟩ args with
  | .invoke i => if i.logLevel.any fun l => !LogFilter.isFilter l then .misuse else .invoke i
  | other => other

/-- What a run of a session comes to; an early stop is a failure. -/
def Ended.ofRun (r : Run) : Ended :=
  ⟨r.screen.shown, match r.ending with | .ok code => code.number | .error _ => 1⟩

def perform (clock : Clock) (input : List UInt8) (i : Invocation) : Ended :=
  match i.action with
  | .dialogue => .ofRun (dialogue clock .new .unlimited input)
  | .batch lines => .ofRun (batch clock i.json .new .unlimited lines)
  | .suggest line => ⟨textBytes (suggestionText i.json (Session.new.suggest line)), 0⟩

/-- What the program comes to, given its arguments, the clock and the bytes of its input. -/
def run (clock : Clock) (input : List UInt8) (args : List String) : Ended :=
  match Request.ofArguments args with
  | .invoke i => perform clock input i
  | .print text => ⟨textBytes text, 0⟩
  | .misuse => ⟨[], 2⟩

end LineShell.CommandLine
