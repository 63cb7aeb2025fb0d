import LineShell.Completion
import LineShell.Dispatch

/-!
# Sessions

A session runs lines with the built-in commands and remembers them. Its history holds the latest
entries, at most as many as its capacity; a line that clears the screen empties the history before
it is recorded itself. Blank lines leave no trace.
-/

namespace LineShell

structure HistoryEntry where
  command : String
  output : String
  recorded : Calendar.Moment
  exit : ExitCode
  elapsed : Duration
deriving DecidableEq, Repr

/-- The state of a shell. The history has its oldest entry first. -/
structure Session where
  files : FileSystem
  history : List HistoryEntry
  capacity : Nat
  lastExit : ExitCode

structure Outcome where
  execution : Execution
  cleared : Bool
deriving DecidableEq, Repr

namespace Session

/-! ### Beginning -/

/-- A new session that keeps at most `capacity` entries, and at least one. -/
def withCapacity (capacity : Nat) : Session :=
  ⟨.seeded, [], max capacity 1, .success⟩

def defaultCapacity : Nat := 1000

def new : Session := withCapacity defaultCapacity

/-- The text before a line that is typed. -/
def prompt (s : Session) : String := s.files.cwd.toString ++ " $ "

/-! ### Recording -/

/-- Remember a line; when the history is full the oldest entry is dropped. -/
def record (s : Session) (now : Calendar.Moment) (line : String) (e : Execution) : Session :=
  let kept := if s.history.length = s.capacity then s.history.tail else s.history
  { s with
    history := kept ++ [⟨line, e.output, now, e.exit, e.elapsed⟩]
    lastExit := e.exit }

/-- Record a line that was cancelled while it was typed. -/
def interrupt (s : Session) (now : Calendar.Moment) (line : String) : Option Session :=
  if Text.isBlankLine line then none else some (s.record now line .interrupted)

/-! ### Running -/

variable [Engine]

def execute (s : Session) (watch : Stopwatch) (line : String) : Option (Outcome × Session) :=
  (Builtin.registry.dispatch watch s.files line).map fun d =>
    let cleared := d.clears ≠ 0
    let s := { s with files := d.files, history := if cleared then [] else s.history }
    (⟨d.execution, cleared⟩, s.record watch.recorded line d.execution)

/-! ### Help while typing -/

def suggest (s : Session) (line : String) : List Suggestion :=
  Completion.suggest s.files Builtin.registry line

def hint (_ : Session) (line : String) : String := Completion.inlineHelp Builtin.registry line

end Session

end LineShell
