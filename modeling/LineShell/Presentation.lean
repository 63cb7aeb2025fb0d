import LineShell.Json
import LineShell.Session

/-!
# What a session shows

The texts that a session writes: the outcome of a line, suggestions, and the history. An output is
shown as it is, with the newline it lacks at its end.
-/

namespace LineShell

/-! ### Outcomes -/

/-- What clears a terminal: erase everything and go to the upper left corner. -/
def clearSequence : String := "\x1b[2J\x1b[H"

/-- The line that reports how a command ended and how long it ran. -/
def Execution.statusLine (e : Execution) : String :=
  "[exit " ++ toString e.exit.number ++ " | " ++ e.elapsed.text ++ "]\n"

def Outcome.text (o : Outcome) : String :=
  (if o.cleared then clearSequence else "") ++ Text.closeLine o.execution.output ++
    o.execution.statusLine

/-- The outcome of a line in a batch: its output, or a JSON object in a line of its own. -/
def Outcome.batchText (json : Bool) (o : Outcome) : String :=
  if json then Json.execution o.execution ++ "\n" else Text.closeLine o.execution.output

/-! ### Suggestions -/

/-- A suggestion in a line of its own, with its note in a second column. -/
def Suggestion.row (s : Suggestion) : String :=
  match s.hint with
  | some hint => Text.padRight 24 s.label ++ " " ++ hint ++ "\n"
  | none => s.label ++ "\n"

def suggestionRows (list : List Suggestion) : String := String.join (list.map Suggestion.row)

def suggestionText (json : Bool) (list : List Suggestion) : String :=
  if json then Json.suggestions list ++ "\n" else suggestionRows list

/-! ### History -/

def HistoryEntry.row (number : Nat) (e : HistoryEntry) : String :=
  Text.padLeft 4 (toString number) ++ "  " ++ e.recorded.text ++ "  [" ++
    toString e.exit.number ++ "]  " ++ Text.padLeft 9 (e.elapsed.millisecondsText 2) ++ "  " ++
    e.command ++ "\n"

/-- The history in numbered rows, the oldest entry first. -/
def Session.historyRows (s : Session) : String :=
  String.join (s.history.zipIdx.map fun (e, i) => e.row (i + 1))

end LineShell
