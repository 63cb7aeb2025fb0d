import LineShell.Text.Layout

/-!
# Errors in patterns

A pattern that cannot be read is refused with a cause and the place where it was found. The
message shows the pattern with carets under the place; a pattern of several lines is shown
between two rules with line numbers. A pattern that can be read is still refused when it is too
large to run.
-/

namespace LineShell.Pattern

/-! ### Places -/

/-- A place between characters of a pattern: line and column, both counted from one. -/
structure Position where
  line : Nat
  column : Nat
deriving DecidableEq, Repr

namespace Position

def start : Position := ⟨1, 1⟩

/-- The place after a character that stands at `p`. -/
def after (p : Position) (c : Char) : Position :=
  if c = '\n' then ⟨p.line + 1, 1⟩ else ⟨p.line, p.column + 1⟩

def before (p q : Position) : Bool :=
  p.line < q.line || (p.line == q.line && p.column < q.column)

end Position

/-- A stretch of a pattern, from a place up to another. -/
structure Span where
  start : Position
  stop : Position
deriving DecidableEq, Repr

def Span.point (p : Position) : Span := ⟨p, p⟩

def Span.inLine (s : Span) : Bool := s.start.line == s.stop.line

def Span.before (s t : Span) : Bool :=
  s.start.before t.start || (s.start == t.start && s.stop.before t.stop)

/-! ### Causes -/

def nestLimit : Nat := 250

/-- Why a pattern cannot be read. Where a cause concerns a second place, it holds that place. -/
inductive Cause where
  | classEscapeInvalid
  | classRangeInvalid
  | classRangeLiteral
  | classUnclosed
  | decimalInvalid
  | escapeHexEmpty
  | escapeHexInvalid
  | escapeHexInvalidDigit
  | escapeUnexpectedEnd
  | escapeUnrecognized
  | flagDanglingNegation
  | flagDuplicate (earlier : Span)
  | flagRepeatedNegation (earlier : Span)
  | flagUnexpectedEnd
  | flagUnrecognized
  | groupNameDuplicate (earlier : Span)
  | groupNameEmpty
  | groupNameInvalid
  | groupNameUnexpectedEnd
  | groupUnclosed
  | groupUnopened
  | nestLimitExceeded
  | repetitionCountInvalid
  | repetitionCountEmpty
  | repetitionCountUnclosed
  | repetitionMissing
  | wordBoundaryUnclosed
  | wordBoundaryUnrecognized
  | wordBoundaryUnexpectedEnd
  | unicodeClassInvalid
  | unicodeNotAllowed
  | unicodePropertyNotFound
  | unicodeValueNotFound
  | invalidText
  | backreference
  | lookAround
deriving DecidableEq, Repr

namespace Cause

def text : Cause → String
  | classEscapeInvalid => "invalid escape sequence found in character class"
  | classRangeInvalid => "invalid character class range, the start must be <= the end"
  | classRangeLiteral => "invalid range boundary, must be a literal"
  | classUnclosed => "unclosed character class"
  | decimalInvalid => "decimal literal invalid"
  | escapeHexEmpty => "hexadecimal literal empty"
  | escapeHexInvalid => "hexadecimal literal is not a Unicode scalar value"
  | escapeHexInvalidDigit => "invalid hexadecimal digit"
  | escapeUnexpectedEnd => "incomplete escape sequence, reached end of pattern prematurely"
  | escapeUnrecognized => "unrecognized escape sequence"
  | flagDanglingNegation => "dangling flag negation operator"
  | flagDuplicate _ => "duplicate flag"
  | flagRepeatedNegation _ => "flag negation operator repeated"
  | flagUnexpectedEnd => "expected flag but got end of regex"
  | flagUnrecognized => "unrecognized flag"
  | groupNameDuplicate _ => "duplicate capture group name"
  | groupNameEmpty => "empty capture group name"
  | groupNameInvalid => "invalid capture group character"
  | groupNameUnexpectedEnd => "unclosed capture group name"
  | groupUnclosed => "unclosed group"
  | groupUnopened => "unopened group"
  | nestLimitExceeded =>
    "exceed the maximum number of nested parentheses/brackets (" ++ toString nestLimit ++ ")"
  | repetitionCountInvalid => "invalid repetition count range, the start must be <= the end"
  | repetitionCountEmpty => "repetition quantifier expects a valid decimal"
  | repetitionCountUnclosed => "unclosed counted repetition"
  | repetitionMissing => "repetition operator missing expression"
  | wordBoundaryUnclosed =>
    "special word boundary assertion is either unclosed or contains an invalid character"
  | wordBoundaryUnrecognized =>
    "unrecognized special word boundary assertion, " ++
      "valid choices are: start, end, start-half or end-half"
  | wordBoundaryUnexpectedEnd =>
    "found either the beginning of a special word boundary or a bounded repetition on a \\b " ++
      "with an opening brace, but no closing brace"
  | unicodeClassInvalid => "invalid Unicode character class"
  | unicodeNotAllowed => "Unicode not allowed here"
  | unicodePropertyNotFound => "Unicode property not found"
  | unicodeValueNotFound => "Unicode property value not found"
  | invalidText => "pattern can match invalid UTF-8"
  | backreference => "backreferences are not supported"
  | lookAround => "look-around, including look-ahead and look-behind, is not supported"

/-- The second place that the cause concerns. -/
def earlier? : Cause → Option Span
  | flagDuplicate s | flagRepeatedNegation s | groupNameDuplicate s => some s
  | _ => none

end Cause

structure Fault where
  cause : Cause
  span : Span
deriving DecidableEq, Repr

/-! ### Messages -/

/-- The lines of a pattern without their ends, which are a newline or a carriage return and a
newline. -/
def patternLines (pattern : String) : List String :=
  let lines := Text.cut '\n' pattern.toList
  let ended := lines.dropLast.map fun l => if l.getLast? = some '\r' then l.dropLast else l
  (match lines.getLast? with
    | none | some [] => ended
    | some last => ended ++ [last]).map String.ofList

/-- Carets under the given stretches of one line, after a margin; each has at least one. -/
def caretRow (margin : Nat) (spans : List Span) : String :=
  (spans.foldl (fun (row, column) s =>
      let gap := s.start.column - 1 - column
      let width := max 1 (s.stop.column - s.start.column)
      (row ++ Text.spaces gap ++ String.ofList (List.replicate width '^'), column + gap + width))
    (Text.spaces margin, 0)).1

def notated (pattern : String) (numberWidth : Nat) (spans : List Span) : String :=
  let margin := if numberWidth = 0 then 4 else numberWidth + 2
  String.join ((patternLines pattern).zipIdx.map fun (line, i) =>
    let head :=
      if numberWidth = 0 then Text.spaces 4
      else Text.padLeft numberWidth (toString (i + 1)) ++ ": "
    let here := spans.filter fun s => s.inLine && s.start.line == i + 1
    head ++ line ++ "\n" ++ if here.isEmpty then "" else caretRow margin here ++ "\n")

/-- How a stretch that runs over several lines is described. -/
def acrossLines (s : Span) : String :=
  "on line " ++ toString s.start.line ++ " (column " ++ toString s.start.column ++
    ") through line " ++ toString s.stop.line ++ " (column " ++ toString (s.stop.column - 1) ++ ")"

def Fault.message (pattern : String) (f : Fault) : String :=
  let spans :=
    match f.cause.earlier? with
    | none => [f.span]
    | some o => if f.span.before o then [f.span, o] else [o, f.span]
  let ending := "error: " ++ f.cause.text
  if pattern.toList.contains '\n' then
    let count := (patternLines pattern).length +
      (if pattern.toList.getLast? = some '\n' then 1 else 0)
    let width := if count ≤ 1 then 0 else (toString count).length
    let rule := String.ofList (List.replicate 79 '~') ++ "\n"
    let far := spans.filter (!·.inLine)
    "regex parse error:\n" ++ rule ++ notated pattern width spans ++ rule ++
      (if far.isEmpty then "" else String.intercalate "\n" (far.map acrossLines) ++ "\n") ++ ending
  else "regex parse error:\n" ++ notated pattern 0 spans ++ ending

inductive Error where
  | unreadable (pattern : String) (fault : Fault)
  | tooLarge
deriving DecidableEq

def sizeLimit : Nat := 10485760

def Error.message : Error → String
  | unreadable pattern fault => fault.message pattern
  | tooLarge => "Compiled regex exceeds size limit of " ++ toString sizeLimit ++ " bytes."

end LineShell.Pattern
