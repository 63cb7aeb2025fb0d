import LineShell.Completion
import LineShell.Dispatch
import LineShell.Numeric.Shortest

/-!
# Machine-readable output

Results and suggestions as compact JSON texts. A string escapes the quote, the backslash and all
characters below the space, and nothing else, so a text never holds a line break. A number has the
fewest digits that read back as the same 53-bit number.
-/

namespace LineShell.Json

/-! ### Strings -/

def hexDigit (n : Nat) : Char := Char.ofNat (if n < 10 then '0'.toNat + n else 'a'.toNat + n - 10)

def escape (c : Char) : List Char :=
  if c = '"' then ['\\', '"']
  else if c = '\\' then ['\\', '\\']
  else if c = '\x08' then ['\\', 'b']
  else if c = '\t' then ['\\', 't']
  else if c = '\n' then ['\\', 'n']
  else if c = '\x0c' then ['\\', 'f']
  else if c = '\r' then ['\\', 'r']
  else if c.toNat < 0x20 then
    ['\\', 'u', '0', '0', hexDigit (c.toNat / 16), hexDigit (c.toNat % 16)]
  else [c]

def string (s : String) : String :=
  "\"" ++ String.ofList (s.toList.flatMap escape) ++ "\""

/-! ### Numbers -/

/-- Where the plain notation of numbers ends: the smallest and the largest number of digits before
the point that it takes. A negative number counts the zeros right after the point. -/
structure PlainRange where
  lowest : Int
  highest : Int

def plainRange : PlainRange := ⟨-4, 16⟩

/-- Digits in plain notation with at least one digit on each side of the point. -/
def plain (digits : List Char) (point : Int) : List Char :=
  if point ≤ 0 then '0' :: '.' :: List.replicate (-point).toNat '0' ++ digits
  else
    let n := point.toNat
    if digits.length ≤ n then digits ++ List.replicate (n - digits.length) '0' ++ ['.', '0']
    else digits.take n ++ '.' :: digits.drop n

/-- Digits in exponent notation: one digit, the others after a point, and a signed exponent. -/
def exponential (digits : List Char) (point : Int) : List Char :=
  let mantissa := if digits.length ≤ 1 then digits else digits.take 1 ++ '.' :: digits.drop 1
  let e := point - 1
  mantissa ++ 'e' :: (if e < 0 then '-' else '+') :: (toString e.natAbs).toList

def number (b : Numeric.Binary) : String :=
  match b.shortest? with
  | none => "0.0"
  | some d =>
    let digits := (toString d.digits).toList
    let point : Int := digits.length + d.scale
    String.ofList
      (if plainRange.lowest ≤ point ∧ point ≤ plainRange.highest then plain digits point
       else exponential digits point)

/-! ### Results and suggestions -/

def field (key value : String) : String := string key ++ ":" ++ value

def object (fields : List String) : String := "\x7b" ++ String.intercalate "," fields ++ "\x7d"

def execution (e : Execution) : String :=
  object
    [ field "output" (string e.output), field "exitCode" (toString e.exit.number),
      field "durationMs" (number e.elapsed.milliseconds) ]

/-- A suggestion; one without a note has no member for it. -/
def suggestion (s : Suggestion) : String :=
  object ([field "kind" (string s.kind.word), field "label" (string s.label)] ++
    (s.hint.map fun h => field "hint" (string h)).toList)

def suggestions (list : List Suggestion) : String :=
  "[" ++ String.intercalate "," (list.map suggestion) ++ "]"

end LineShell.Json
