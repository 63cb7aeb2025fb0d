import LineShell.CommandLine
import Std.Time.Zoned

/-!
# The program

The outer layer: it reads the clock and the input, runs the session line by line so that an answer
is shown before the next line is read, and writes what the session shows. Everything that is
shown, and the exit status, is computed elsewhere.
-/

namespace LineShell.Main

/-! ### The clock -/

/-- The present moment in local time, and in universal time where the zone is unknown. -/
def presentMoment : IO Calendar.Moment := do
  let now ← Std.Time.Timestamp.now
  let offset : Int ←
    try
      let rules ← Std.Time.Database.defaultGetLocalZoneRules
      pure (rules.timezoneAt now).offset.second.val
    catch _ => pure 0
  let nanos : Int := now.toNanosecondsSinceUnixEpoch.val
  return ⟨nanos / 1_000_000_000, (nanos % 1_000_000_000).toNat, offset⟩

/-- What the clock shows for some work. The work is done once here to be timed; doing it again with
the answer gives the same apart from the times. -/
def timed {α : Type} (work : Stopwatch → α) : IO Stopwatch := do
  let began ← presentMoment
  let start ← IO.monoNanosNow
  let _ ← IO.lazyPure fun _ => work ⟨began, began, .zero⟩
  let stop ← IO.monoNanosNow
  return ⟨began, ← presentMoment, ⟨stop - start⟩⟩

/-! ### Input and output -/

/-- The bytes up to and including the next newline, or up to the end of the input. -/
partial def readLine (input : IO.FS.Stream) (line : ByteArray) : IO ByteArray := do
  let next ← input.read 1
  if next.isEmpty then return line
  else if next.toList = [10] then return line ++ next
  else readLine input (line ++ next)

def display (output : IO.FS.Stream) (bytes : List UInt8) : IO Unit := do
  output.write ⟨bytes.toArray⟩
  output.flush

/-! ### Actions -/

partial def converse (input output : IO.FS.Stream) (s : Session) : IO Nat := do
  display output (textBytes s.prompt)
  let line := (← readLine input .empty).toList
  if line.isEmpty then
    display output (textBytes "\n")
    return s.lastExit.number
  else
    let watch ← timed fun watch => s.turn watch line
    match s.turn watch line with
    | .answer s text =>
      display output (textBytes text)
      converse input output s
    | .leave => return s.lastExit.number
    | .unreadable =>
      IO.eprintln RunError.invalidText.message
      return 1

/-- Run lines in order, each as a batch of its own that goes on with the session of the last. -/
def runLines (output : IO.FS.Stream) (json : Bool) (lines : List String) : IO Nat := do
  let final ← lines.foldlM (fun s line => do
    let watch ← timed fun watch => s.execute watch line
    let run := batch (fun _ => watch) json s .unlimited [line]
    display output run.screen.shown
    return run.session) Session.new
  return final.lastExit.number

/-- Do what the arguments ask for and give the exit status. -/
def perform (input output : IO.FS.Stream) (args : List String) : IO Nat := do
  match CommandLine.Request.ofArguments args with
  | .invoke i =>
    match i.action with
    | .dialogue => converse input output .new
    | .batch lines => runLines output i.json lines
    | .suggest line =>
      display output (textBytes (suggestionText i.json (Session.new.suggest line)))
      return 0
  | .print text =>
    display output (textBytes text)
    return 0
  | .misuse =>
    IO.eprintln (CommandLine.programName ++ ": invalid arguments; try --help")
    return 2

end LineShell.Main

/-- The program: a failure to read or write is reported and ends with status 1. -/
def main (args : List String) : IO UInt32 := do
  try
    let status ← LineShell.Main.perform (← IO.getStdin) (← IO.getStdout) args
    return status.toUInt32
  catch e =>
    IO.eprintln (toString e)
    return 1
