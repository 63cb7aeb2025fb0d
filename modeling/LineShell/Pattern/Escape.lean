import LineShell.Pattern.Cursor

/-!
# Escapes in patterns

What a backslash introduces: a literal, a class, a property, a condition on a place, or a fault.
-/

namespace LineShell.Pattern

open Text (isBlank)
open Reading

/-! ### Character classes of the syntax -/

/-- Characters with a meaning of their own somewhere in a pattern. -/
def isMeta (c : Char) : Bool := "\\.+*?()|[]\x7b\x7d^$#&-~".toList.contains c

/-- Characters that a backslash makes literal: all ASCII characters but letters, digits and the
angle brackets. -/
def isEscapable (c : Char) : Bool :=
  isMeta c || (c.toNat < 0x80 && !c.isAlphanum && c != '<' && c != '>')

def isHexDigit (c : Char) : Bool :=
  c.isDigit || ('a' ≤ c && c ≤ 'f') || ('A' ≤ c && c ≤ 'F')

def hexNumber (digits : List Char) : Nat :=
  digits.foldl (fun n c => 16 * n +
    (if c.isDigit then c.toNat - '0'.toNat
     else if 'a' ≤ c then c.toNat - 'a'.toNat + 10
     else c.toNat - 'A'.toNat + 10)) 0

/-- The character with that code point; a surrogate or a number out of range has none. -/
def charOf? (n : Nat) : Option Char := if n.isValidChar then some (Char.ofNat n) else none

/-! ### Numbers -/

/-- A decimal number with blanks around it. A failure is an answer, because another fault may come
before it. -/
def decimal (whenEmpty : Cause) : Reading (Except Fault Nat) := do
  let _ ← collect isBlank bump
  let start ← here
  let digits ← collect Char.isDigit step
  let span : Span := ⟨start, ← here⟩
  let _ ← collect isBlank step
  if digits.isEmpty then return .error ⟨whenEmpty, span⟩
  let n := digits.foldl (fun n c => 10 * n + (c.toNat - '0'.toNat)) 0
  if n < 0x100000000 then return .ok n
  return .error ⟨.decimalInvalid, span⟩

/-- Hexadecimal digits of a fixed number, the cursor on the first of them. -/
def hexDigits : Nat → Reading (List Char)
  | 0 => pure []
  | n + 1 => do
    match ← peek with
    | none => fail .escapeUnexpectedEnd (.point (← here))
    | some c =>
      if !isHexDigit c then fail .escapeHexInvalidDigit (← charSpan)
      else
        step
        return c :: (← hexDigits n)

/-- A hexadecimal literal, the cursor on the letter that introduces it. -/
def hexLiteral (start : Position) (width : Nat) : Reading (Span × Leaf) := do
  step
  match ← peek with
  | none => fail .escapeUnexpectedEnd (.point (← here))
  | some '\x7b' => do
    let brace ← here
    let first := (← charSpan).stop
    step
    let digits ← collect isHexDigit step
    match ← peek with
    | none => fail .escapeUnexpectedEnd ⟨brace, ← here⟩
    | some c =>
      if c ≠ '\x7d' then fail .escapeHexInvalidDigit (← charSpan)
      else
        let last ← here
        step
        if digits.isEmpty then fail .escapeHexEmpty ⟨brace, ← here⟩
        else
          match charOf? (hexNumber digits) with
          | none => fail .escapeHexInvalid ⟨first, last⟩
          | some c => return (⟨start, ← here⟩, .atom (.literal c false))
  | some _ => do
    let first ← here
    let digits ← hexDigits width
    match charOf? (hexNumber digits) with
    | none => fail .escapeHexInvalid ⟨first, ← here⟩
    | some c => return (⟨start, ← here⟩, .atom (.literal c (width == 2)))

/-! ### Properties and boundaries -/

def queryOf (text : List Char) : Query :=
  let halves (separator : List Char) : Option (List Char × List Char) :=
    ((List.range text.length).find? fun i => separator.isPrefixOf (text.drop i)).map fun i =>
      (text.take i, text.drop (i + separator.length))
  match (halves ['!', '=']).or ((halves [':']).or (halves ['='])) with
  | some (name, value) => .valued (String.ofList name) (String.ofList value)
  | none => .named (String.ofList text)

def property (start : Position) (negated : Bool) : Reading (Span × Leaf) := do
  step
  match ← peek with
  | none => fail .escapeUnexpectedEnd (.point (← here))
  | some '\x7b' => do
    step
    let text ← collect (· ≠ '\x7d') step
    if ← atEnd then fail .escapeUnexpectedEnd (.point (← here))
    else
      bump
      return (⟨start, ← here⟩, .atom (.property (queryOf text) negated))
  | some '\\' => do fail .unicodeClassInvalid (← charSpan)
  | some c => do
    step
    return (⟨start, ← here⟩, .atom (.property (.letter c) negated))

def boundaryNames : List (String × Look) :=
  [ ("start", .wordStart), ("end", .wordEnd), ("start-half", .wordStartHalf),
    ("end-half", .wordEndHalf) ]

/-- The named word boundary after `\b`, the cursor on the brace. Braces that begin with neither a
letter nor a hyphen are left to be read as a repetition. -/
def namedBoundary (start : Position) : Reading (Span × Leaf) := do
  let before ← get
  step
  let inner ← here
  let isNameChar (c : Char) : Bool := c.isAlpha || c == '-'
  match ← peek with
  | none => fail .wordBoundaryUnexpectedEnd ⟨start, ← here⟩
  | some c =>
    if !isNameChar c then
      set before
      return (⟨start, ← here⟩, .look .wordBoundary)
    else
      let name ← collect isNameChar step
      match ← peek with
      | some '\x7d' => do
        let stop ← here
        bump
        match boundaryNames.lookup (String.ofList name) with
        | some look => return (⟨start, ← here⟩, .look look)
        | none => fail .wordBoundaryUnrecognized ⟨inner, stop⟩
      | _ => fail .wordBoundaryUnclosed ⟨before.position, ← here⟩

/-! ### All escapes -/

def controlEscapes : List (Char × Char) :=
  [('a', '\x07'), ('f', '\x0c'), ('t', '\t'), ('n', '\n'), ('r', '\r'), ('v', '\x0b')]

def classEscapes : List (Char × Shorthand × Bool) :=
  [ ('d', .digit, false), ('D', .digit, true), ('s', .space, false), ('S', .space, true),
    ('w', .word, false), ('W', .word, true) ]

def lookEscapes : List (Char × Look) :=
  [ ('A', .textStart), ('z', .textEnd), ('B', .notWordBoundary), ('<', .wordStart),
    ('>', .wordEnd) ]

def hexWidths : List (Char × Nat) := [('x', 2), ('u', 4), ('U', 8)]

def escape : Reading (Span × Leaf) := do
  let start ← here
  bump
  match ← peek with
  | none => fail .escapeUnexpectedEnd ⟨start, ← here⟩
  | some c =>
    if c.isDigit then fail .backreference ⟨start, (← charSpan).stop⟩
    else if let some width := hexWidths.lookup c then hexLiteral start width
    else if c = 'p' ∨ c = 'P' then property start (c == 'P')
    else
      bump
      let span : Span := ⟨start, ← here⟩
      if let some (kind, negated) := classEscapes.lookup c then
        return (span, .atom (.shorthand kind negated))
      else if isEscapable c then return (span, .atom (.literal c false))
      else if let some control := controlEscapes.lookup c then
        return (span, .atom (.literal control false))
      else if let some look := lookEscapes.lookup c then return (span, .look look)
      else if c = 'b' then
        match ← peek with
        | some '\x7b' => namedBoundary start
        | _ => return (span, .look .wordBoundary)
      else fail .escapeUnrecognized span

end LineShell.Pattern
