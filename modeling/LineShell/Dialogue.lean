import LineShell.Presentation
import LineShell.Screen

/-!
# Dialogues and batches

Two ways to drive a session. A *dialogue* reads bytes: it shows the prompt, takes a line up to and
including its newline, and answers it, until a line asks to quit, a line is not valid UTF-8, or the
input ends. Lines that begin with a colon and a known word ask about the session and are not run.
A *batch* runs the lines of a list and shows their results.

Both write to a screen and stop where it refuses a byte, in the state that the session has then: a
line has been recorded before anything of its answer is shown.
-/

namespace LineShell

/-! ### Lines of input -/

/-- Cut bytes after each newline; a rest without newline is the last line. -/
def inputLines (bytes : List UInt8) : List (List UInt8) :=
  bytes.foldr (fun b lines =>
    if b = 10 then [b] :: lines
    else
      match lines with
      | [] => [[b]]
      | line :: rest => (b :: line) :: rest) []

def decodeLine (bytes : List UInt8) : Option String := String.fromUTF8? ⟨bytes.toArray⟩

/-- The line without the newlines and carriage returns at its end. -/
def stripLineEnd (line : String) : String :=
  String.ofList (line.toList.reverse.dropWhile fun c => c == '\n' || c == '\r').reverse

/-! ### Requests -/

inductive Request where
  | run (line : String)
  | suggest (line : String)
  | hint (line : String)
  | history
  | quit
deriving DecidableEq, Repr

/-- The request of a line: a colon, a known word, and a space before what it is about. -/
def Request.ofLine (line : String) : Request :=
  match line.toList with
  | ':' :: rest =>
    let word := String.ofList (rest.takeWhile (· ≠ ' '))
    let about := String.ofList ((rest.dropWhile (· ≠ ' ')).drop 1)
    if word = "suggest" then .suggest about
    else if word = "hint" then .hint about
    else if word = "history" then .history
    else if word = "quit" ∨ word = "q" then .quit
    else .run line
  | _ => .run line

variable [Engine]

def Session.respond (s : Session) (watch : Stopwatch) : Request → Session × String
  | .run line =>
    match s.execute watch line with
    | some (outcome, s) => (s, outcome.text)
    | none => (s, "")
  | .suggest line => (s, suggestionRows (s.suggest line))
  | .hint line => (s, s.hint line ++ "\n")
  | .history => (s, s.historyRows)
  | .quit => (s, "")

/-! ### Turns -/

/-- What a line of a dialogue leads to: an answer and the session after it, the end that the line
asks for, or a stop because the line is no text. -/
inductive Turn where
  | answer (s : Session) (text : String)
  | leave
  | unreadable

def Session.turn (s : Session) (watch : Stopwatch) (line : List UInt8) : Turn :=
  match decodeLine line with
  | none => .unreadable
  | some text =>
    match Request.ofLine (stripLineEnd text) with
    | .quit => .leave
    | request =>
      let (s, answer) := s.respond watch request
      .answer s answer

/-! ### Runs -/

inductive RunError where
  | invalidText
  | screenClosed
deriving DecidableEq, Repr

def RunError.message : RunError → String
  | invalidText => "stream did not contain valid UTF-8"
  | screenClosed => "screen closed"

/-- How a run ended: the session, the screen, and the exit code or the reason to stop. -/
structure Run where
  session : Session
  screen : Screen
  ending : Except RunError ExitCode

/-- What the clock shows for the n-th line of a run. -/
abbrev Clock := Nat → Stopwatch

/-- A dialogue over lines of input, the n-th of the run first. -/
def dialogueFrom (clock : Clock) (n : Nat) (s : Session) (screen : Screen) :
    List (List UInt8) → Run
  | [] =>
    let (screen, shown) := screen.write s.prompt
    if !shown then ⟨s, screen, .error .screenClosed⟩
    else
      let (screen, shown) := screen.write "\n"
      ⟨s, screen, if shown then .ok s.lastExit else .error .screenClosed⟩
  | line :: rest =>
    let (screen, shown) := screen.write s.prompt
    if !shown then ⟨s, screen, .error .screenClosed⟩
    else
      match s.turn (clock n) line with
      | .unreadable => ⟨s, screen, .error .invalidText⟩
      | .leave => ⟨s, screen, .ok s.lastExit⟩
      | .answer s text =>
        let (screen, shown) := screen.write text
        if !shown then ⟨s, screen, .error .screenClosed⟩
        else dialogueFrom clock (n + 1) s screen rest

def dialogue (clock : Clock) (s : Session) (screen : Screen) (input : List UInt8) : Run :=
  dialogueFrom clock 0 s screen (inputLines input)

/-- A batch over lines, the n-th of the run first. -/
def batchFrom (clock : Clock) (json : Bool) (n : Nat) (s : Session) (screen : Screen) :
    List String → Run
  | [] => ⟨s, screen, .ok s.lastExit⟩
  | line :: rest =>
    match s.execute (clock n) line with
    | none => batchFrom clock json (n + 1) s screen rest
    | some (outcome, s) =>
      let (screen, shown) := screen.write (outcome.batchText json)
      if !shown then ⟨s, screen, .error .screenClosed⟩
      else batchFrom clock json (n + 1) s screen rest

def batch (clock : Clock) (json : Bool) (s : Session) (screen : Screen) (lines : List String) :
    Run :=
  batchFrom clock json 0 s screen lines

end LineShell
