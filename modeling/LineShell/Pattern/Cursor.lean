import LineShell.Pattern.Syntax
import LineShell.Text.Blank

/-!
# Reading a pattern from left to right

A cursor holds what is left of the pattern, where that stands, whether white space is free (the
flag `x`), and the group names met so far. Reading moves the cursor and may fail with a fault.
White space that is free includes comments, which run from `#` to the end of their line.
-/

namespace LineShell.Pattern

open Text (isBlank)

/-- A place in a pattern with what reading has to remember there. -/
structure Cursor where
  rest : List Char
  position : Position
  freeSpacing : Bool
  names : List (String × Span)

/-- A step of reading: moves the cursor, and may fail. -/
abbrev Reading := StateT Cursor (Except Fault)

namespace Reading

/-! ### Looking -/

def fail {α : Type} (cause : Cause) (span : Span) : Reading α := fun _ => .error ⟨cause, span⟩

def peek : Reading (Option Char) := fun c => .ok (c.rest.head?, c)

def atEnd : Reading Bool := fun c => .ok (c.rest.isEmpty, c)

def here : Reading Position := fun c => .ok (c.position, c)

def charSpan : Reading Span := fun c =>
  .ok (⟨c.position, match c.rest with | [] => c.position | d :: _ => c.position.after d⟩, c)

def remaining : Reading Nat := fun c => .ok (c.rest.length, c)

/-- What follows blanks and the beginning of a comment, and else the first character. -/
def firstSolid (inComment : Bool) : List Char → Option Char
  | [] => none
  | c :: cs =>
    if isBlank c then firstSolid inComment cs
    else if !inComment && c == '#' then firstSolid true cs
    else some c

/-- The character after the next one; where white space is free, the first after it that is
neither blank nor begins a comment. -/
def peekSecond : Reading (Option Char) := fun c =>
  let after := c.rest.drop 1
  .ok (if c.freeSpacing then (firstSolid false after).or after.head? else after.head?, c)

/-! ### Moving -/

def bump : Reading Unit := fun c =>
  match c.rest with
  | [] => .ok ((), c)
  | d :: rest => .ok ((), { c with rest := rest, position := c.position.after d })

/-- What is left after free white space and comments, and where that stands. -/
def passFree (inComment : Bool) : List Char → Position → List Char × Position
  | [], p => ([], p)
  | c :: cs, p =>
    if inComment then passFree (c ≠ '\n') cs (p.after c)
    else if isBlank c then passFree false cs (p.after c)
    else if c = '#' then passFree true cs (p.after c)
    else (c :: cs, p)

def passSpace : Reading Unit := fun c =>
  if c.freeSpacing then
    let (rest, position) := passFree false c.rest c.position
    .ok ((), { c with rest, position })
  else .ok ((), c)

/-- Move past the next character and the free white space after it. -/
def step : Reading Unit := do
  bump
  passSpace

def accept (text : String) : Reading Bool := fun c =>
  if text.toList.isPrefixOf c.rest then
    .ok (true, { c with
      rest := c.rest.drop text.length
      position := text.toList.foldl Position.after c.position })
  else .ok (false, c)

/-- Take characters while `p` holds, moving past each with `move`; at most `n` of them. -/
def collectUpTo (p : Char → Bool) (move : Reading Unit) : Nat → Reading (List Char)
  | 0 => pure []
  | n + 1 => do
    match ← peek with
    | none => pure []
    | some c =>
      if p c then
        move
        return c :: (← collectUpTo p move n)
      else pure []

def collect (p : Char → Bool) (move : Reading Unit) : Reading (List Char) := do
  collectUpTo p move (← remaining)

end Reading

end LineShell.Pattern
