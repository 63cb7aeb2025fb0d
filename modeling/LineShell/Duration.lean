import LineShell.Numeric.Binary

/-!
# Durations

An elapsed time is a whole number of nanoseconds. It is shown in three forms: in words for a
status line, in milliseconds with fixed decimals for the history, and as a 53-bit number of
milliseconds for machine-readable output.

The number of milliseconds is what 53-bit arithmetic makes of
`(seconds + nanoseconds / 10 ^ 9) · 1000`, each step rounded; the printed digits depend on it.
-/

namespace LineShell

open Numeric (Binary)

/-- An elapsed time in nanoseconds. -/
structure Duration where
  nanos : Nat
deriving DecidableEq, Repr

namespace Duration

def ofParts (seconds nanos : Nat) : Duration := ⟨seconds * 1_000_000_000 + nanos⟩

def zero : Duration := ⟨0⟩

def seconds (d : Duration) : Nat := d.nanos / 1_000_000_000

def subsecond (d : Duration) : Nat := d.nanos % 1_000_000_000

def wholeMilliseconds (d : Duration) : Nat := d.nanos / 1_000_000

/-- Milliseconds in 53-bit arithmetic. -/
def milliseconds (d : Duration) : Binary :=
  ((Binary.nearest d.seconds 1).add (Binary.nearest d.subsecond 1_000_000_000)).scale 1000

/-! ### Texts -/

/-- The words of a status line: milliseconds below a second, seconds with one decimal below a
minute, else minutes and the seconds beyond them, a half rounding up. -/
def text (d : Duration) : String :=
  let ms := d.wholeMilliseconds
  if ms < 1000 then toString ms ++ " ms"
  else if ms < 60000 then (Binary.nearest ms 1000).fixed 1 ++ " s"
  else toString (ms / 60000) ++ "m " ++ toString ((ms % 60000 + 500) / 1000) ++ "s"

def millisecondsText (d : Duration) (places : Nat) : String := d.milliseconds.fixed places ++ " ms"

end Duration

end LineShell
