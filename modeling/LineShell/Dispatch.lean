import LineShell.Builtin
import LineShell.Duration
import LineShell.Token

/-!
# Running a command line

A line is cut into words, the first word names a command, and the command's handler runs on all of
them. A blank line does nothing. Any other line has exactly one result: an unknown command and a
handler's error are failures with a text of their own.
-/

namespace LineShell

/-- What the clock shows for one line: when it began, when it was recorded, and how long it ran. -/
structure Stopwatch where
  began : Calendar.Moment
  recorded : Calendar.Moment
  elapsed : Duration

structure Execution where
  output : String
  exit : ExitCode
  elapsed : Duration
deriving DecidableEq, Repr

/-- The result that stands for a line that was cancelled before it ran. -/
def Execution.interrupted : Execution := ⟨"", .interrupted, .zero⟩

/-- What running a line left: its result, the file system, and how often it asked for the screen
to be cleared. -/
structure Dispatched where
  execution : Execution
  files : FileSystem
  clears : Nat

/-- The output that is shown for a handler's result; an error is a failure. -/
def shownOutput : Except CommandError Output → Output
  | .ok output => output
  | .error e => .failure ("Error: " ++ e.message)

namespace Registry

/-- Run the command that the first word names, if there is one. -/
def run (r : Registry) (now : Calendar.Moment) (files : FileSystem) (name : String)
    (argv : List String) : Reply :=
  match r.find? name with
  | none => ⟨.ok (.failure (name ++ ": command not found")), files, 0⟩
  | some command => command.handler.run ⟨argv, files, r.pages, now⟩

def dispatch (r : Registry) (watch : Stopwatch) (files : FileSystem) (line : String) :
    Option Dispatched :=
  match Token.tokenize line with
  | [] => none
  | name :: rest =>
    let reply := r.run watch.began files name (name :: rest)
    let output := shownOutput reply.result
    some ⟨⟨output.text, output.exit, watch.elapsed⟩, reply.files, reply.clears⟩

end Registry

end LineShell
