import LineShell.Builtin
import LineShell.Token
import LineShell.Unicode.Case

/-!
# Completion

Suggestions for a line that is being typed. While the first word is typed they are names of
commands, regardless of case; after it they are the switches of the command and then the children
of the directory that the word at hand names so far. Accepting a suggestion replaces the word at
hand by its label.
-/

namespace LineShell

/-! ### Suggestions -/

inductive SuggestionKind where
  | command
  | switch
  | directory
  | file
deriving DecidableEq, Repr

def SuggestionKind.word : SuggestionKind → String
  | command => "command"
  | switch => "flag"
  | directory => "dir"
  | file => "file"

def Kind.suggested : Kind → SuggestionKind
  | file => .file
  | directory => .directory

/-- A candidate: what it completes, the text it stands for, and a note beside it. -/
structure Suggestion where
  kind : SuggestionKind
  label : String
  hint : Option String
deriving DecidableEq, Repr

namespace Completion

def commandLimit : Nat := 8

def argumentLimit : Nat := 10

/-! ### The word at hand -/

/-- Whether the first word is still being typed, or has not begun. -/
def inCommand (line : String) : Bool :=
  match Token.tokenize line with
  | [] => true
  | [_] => !Token.endsWithSeparator line
  | _ => false

/-- The word at hand: the last one, and nothing after a separator. -/
def current (line : String) : String :=
  if Token.endsWithSeparator line then "" else (Token.tokenize line).getLast?.getD ""

/-! ### Candidates -/

/-- The commands whose name begins with what is typed, regardless of case. -/
def commandCandidates (registry : Registry) (typed : String) : List Suggestion :=
  let low := Unicode.toLower typed
  (registry.commands.filter fun c => Text.begins low (Unicode.toLower c.name)).map fun c =>
    ⟨.command, c.name, some c.summary⟩

/-- The switches of a command that begin with what is typed. -/
def switchCandidates (page : Page) (typed : String) : List Suggestion :=
  (page.switches.filter fun s => Text.begins typed s.flag).map fun s =>
    ⟨.switch, s.flag, some "option"⟩

/-- A typed path in two parts: up to its last slash, and the beginning of a name after it. -/
def splitPath (typed : List Char) : List Char × List Char :=
  let name := (typed.reverse.takeWhile (· ≠ '/')).reverse
  (typed.take (typed.length - name.length), name)

/-- The label of a child of the typed directory; directories end in a slash. -/
def pathLabel (directory : String) (e : Node.Entry) : String :=
  directory ++ e.name ++ if e.kind = .directory then "/" else ""

/-- The children of the typed directory whose name begins with the typed beginning. -/
def pathCandidates (files : FileSystem) (typed : String) : List Suggestion :=
  let (directory, name) := splitPath typed.toList
  match files.list (some (String.ofList directory)) with
  | .error _ => []
  | .ok entries =>
    (entries.filter fun e => name.isPrefixOf e.name.toList).map fun e =>
      ⟨e.kind.suggested, pathLabel (String.ofList directory) e, some e.kind.word⟩

/-- The suggestions without those whose kind and label came earlier. -/
def distinct (seen : List (SuggestionKind × String)) : List Suggestion → List Suggestion
  | [] => []
  | s :: rest =>
    if seen.contains (s.kind, s.label) then distinct seen rest
    else s :: distinct ((s.kind, s.label) :: seen) rest

def argumentCandidates (files : FileSystem) (page : Page) (typed : String) : List Suggestion :=
  distinct [] (switchCandidates page typed ++
    if Text.begins "-" typed then [] else pathCandidates files typed)

/-! ### Suggesting and accepting -/

def suggest (files : FileSystem) (registry : Registry) (line : String) : List Suggestion :=
  if inCommand line then
    (commandCandidates registry ((Token.tokenize line).headD "")).take commandLimit
  else
    match registry.find? ((Token.tokenize line).headD "") with
    | none => []
    | some command =>
      (argumentCandidates files command.toPage (current line)).take argumentLimit

/-- The line without the run of other characters after its last blank. -/
def committed (line : String) : String :=
  String.ofList (line.toList.reverse.dropWhile fun c => !Text.isBlank c).reverse

/-- The line with a label in place of the word at hand; after a command a space follows. -/
def accept (line label : String) : String :=
  if inCommand line then label ++ " " else committed line ++ label

def inlineHelp (registry : Registry) (line : String) : String :=
  match Token.tokenize line with
  | [] => "Type a command. Try 'help' or 'ls -l'."
  | name :: _ =>
    match registry.find? name with
    | some command => command.usage.getD command.name
    | none => "Unknown command. Type 'help'."

end Completion

end LineShell
