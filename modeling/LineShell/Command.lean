import LineShell.Calendar
import LineShell.FileSystem

/-!
# Commands

A command is a page that describes it and a handler that runs it. A handler is given a call: the
words of the line, the file system, the pages of all commands and the time. It replies with an
output or an error, the file system afterwards, and how often it asked for the screen to be
cleared. A reply with an error may still have changed the file system.
-/

namespace LineShell

/-! ### Results -/

/-- How a line ended. Handlers succeed or fail; only a cancelled line is interrupted. -/
inductive ExitCode where
  | success
  | failure
  | interrupted
deriving DecidableEq, Repr

def ExitCode.number : ExitCode → Nat
  | success => 0
  | failure => 1
  | interrupted => 130

structure Output where
  text : String
  exit : ExitCode
deriving DecidableEq, Repr

namespace Output

def success (text : String) : Output := ⟨text, .success⟩

/-- The output of a failure that the command explains itself. -/
def failure (text : String) : Output := ⟨text, .failure⟩

/-- A success that prints nothing. -/
def silent : Output := success ""

end Output

inductive CommandError where
  | badPattern (reason : String)
  | files (e : FileError)
  | failed (message : String)
deriving DecidableEq

def CommandError.message : CommandError → String
  | badPattern reason => "Invalid regular expression: " ++ reason
  | files e => e.message
  | failed message => message

/-! ### Descriptions -/

structure Switch where
  flag : String
  description : String
deriving DecidableEq, Repr

/-- How many words a parameter takes: one, one or none, or any number. -/
inductive Arity where
  | required
  | optional
  | variadic
deriving DecidableEq, Repr

structure Parameter where
  name : String
  arity : Arity
deriving DecidableEq, Repr

namespace Parameter

def text (p : Parameter) : String :=
  match p.arity with
  | .required => "<" ++ p.name ++ ">"
  | .optional => "[" ++ p.name ++ "]"
  | .variadic => p.name ++ "..."

def arityText (p : Parameter) : String :=
  match p.arity with
  | .required => "required"
  | .optional => "optional"
  | .variadic => "zero or more values"

end Parameter

structure Page where
  name : String
  summary : String
  usage : Option String
  switches : List Switch
  parameters : List Parameter
deriving DecidableEq, Repr

/-- The usage line, and without one the name followed by the parameters. -/
def Page.synopsis (p : Page) : String :=
  p.usage.getD (p.parameters.foldl (fun line x => line ++ " " ++ x.text) p.name)

/-! ### Handlers -/

structure Call where
  argv : List String
  files : FileSystem
  pages : List Page
  now : Calendar.Moment

namespace Call

/-- The words after the first, which names the command. -/
def arguments (c : Call) : List String := c.argv.tail

def hasFlag (c : Call) (flag : String) : Bool := c.arguments.contains flag

end Call

structure Reply where
  result : Except CommandError Output
  files : FileSystem
  clears : Nat

/-- A reply to a call that leaves the file system and the screen alone. -/
def Call.answer (c : Call) (output : Output) : Reply := ⟨.ok output, c.files, 0⟩

/-- An error that leaves the file system and the screen alone. -/
def Call.refuse (c : Call) (e : CommandError) : Reply := ⟨.error e, c.files, 0⟩

/-- When a handler's work is done: before it returns, or later. The result is the same. -/
inductive Timing where
  | immediate
  | deferred
deriving DecidableEq, Repr

structure Handler where
  timing : Timing
  run : Call → Reply

structure Command extends Page where
  handler : Handler

end LineShell
