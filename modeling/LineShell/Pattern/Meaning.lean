import LineShell.Pattern.Property
import LineShell.Pattern.Regex

/-!
# What the syntax of a pattern means

Flags and properties are resolved and the syntax becomes a regular expression over characters.
Flags given inside a group hold for the rest of that group, in all its later branches; flags of a
group hold inside it. Without Unicode only ASCII characters can be named by a class, since any
other single byte would be no text.

Expressions are simplified while they are built: empty parts of sequences are left out, and what all
alternatives begin with stands once in front of them. This changes the size of a pattern, and not
what matches.
-/

namespace LineShell.Pattern

open Unicode (CharSet)

/-! ### Flags -/

structure Flags where
  ignoreCase : Bool
  multiLine : Bool
  dotAll : Bool
  unicode : Bool
  crlf : Bool
  swapGreed : Bool
deriving DecidableEq, Repr

def Flags.initial (ignoreCase : Bool) : Flags := ⟨ignoreCase, false, false, true, false, false⟩

def Flags.apply (f : Flags) (items : List FlagItem) : Flags :=
  { ignoreCase := (switchOf .ignoreCase items).getD f.ignoreCase
    multiLine := (switchOf .multiLine items).getD f.multiLine
    dotAll := (switchOf .dotAll items).getD f.dotAll
    unicode := (switchOf .unicode items).getD f.unicode
    crlf := (switchOf .crlf items).getD f.crlf
    swapGreed := (switchOf .swapGreed items).getD f.swapGreed }

/-! ### Sets -/

/-- The letters of ASCII in both cases, if one case of them is in the set. -/
def asciiFold (s : CharSet) : CharSet :=
  let letters := (List.range 26).filter fun i => s.contains (0x41 + i) || s.contains (0x61 + i)
  s.union (.ofRanges (letters.flatMap fun i => [(0x41 + i, 0x41 + i), (0x61 + i, 0x61 + i)]))

/-- The set with both cases of its letters when case is ignored. -/
def Flags.fold (f : Flags) (s : CharSet) : CharSet :=
  if f.ignoreCase then (if f.unicode then s.foldCase else asciiFold s) else s

/-- The set outside a set, which without Unicode is never text. -/
def Flags.negate (f : Flags) (span : Span) (negated : Bool) (s : CharSet) :
    Except Fault CharSet :=
  if !negated then .ok s
  else if f.unicode then .ok s.complement
  else .error ⟨.invalidText, span⟩

def Flags.words (f : Flags) : CharSet :=
  if f.unicode then Unicode.wordCharacters else .ofTable "30-39 41-5A 5F 61-7A"

def Flags.shorthand (f : Flags) : Shorthand → CharSet
  | .digit => if f.unicode then Unicode.decimalDigits else .ofTable "30-39"
  | .space => if f.unicode then Unicode.whiteSpace else .ofTable "9-D 20"
  | .word => f.words

/-- A literal character. Without Unicode, a byte that is not ASCII is no text. -/
def Flags.literal (f : Flags) (span : Span) (c : Char) (byte : Bool) : Except Fault Char :=
  if !f.unicode && byte && 0x80 ≤ c.toNat then .error ⟨.invalidText, span⟩ else .ok c

/-- A literal character inside brackets, where without Unicode only ASCII may stand. -/
def Flags.classLiteral (f : Flags) (span : Span) (c : Char) (byte : Bool) : Except Fault Char := do
  let c ← f.literal span c byte
  if !f.unicode && 0x80 ≤ c.toNat then .error ⟨.unicodeNotAllowed, span⟩ else .ok c

def Flags.property (f : Flags) (span : Span) (query : Query) (negated : Bool) :
    Except Fault CharSet :=
  if !f.unicode then .error ⟨.unicodeNotAllowed, span⟩
  else
    match query.members with
    | .ok s => f.negate span negated (f.fold s)
    | .error cause => .error ⟨cause, span⟩

/-- The set of an atom inside brackets; the case of a literal is folded with the brackets. -/
def Atom.members (f : Flags) (span : Span) : Atom → Except Fault CharSet
  | .literal c byte => (f.classLiteral span c byte).map .single
  | .shorthand kind negated => f.negate span negated (f.shorthand kind)
  | .property query negated => f.property span query negated

def SetOperation.apply : SetOperation → CharSet → CharSet → CharSet
  | .intersection, s, t => s.inter t
  | .difference, s, t => s.difference t
  | .symmetricDifference, s, t => s.symmDifference t

mutual

def ClassSet.members (f : Flags) : ClassSet → Except Fault CharSet
  | .empty _ => .ok .empty
  | .atom span a => a.members f span
  | .range span first last firstByte lastByte => do
    let first ← f.classLiteral span first firstByte
    let last ← f.classLiteral span last lastByte
    return .range first.toNat last.toNat
  | .ascii span ranges negated =>
    f.negate span negated (f.fold (.ofRanges (ranges.map fun r => (r.1.toNat, r.2.toNat))))
  | .bracketed span negated set => do
    let inner ← set.members f
    f.negate span negated (f.fold inner)
  | .union _ items => membersOfItems f items
  | .binary _ op left right => do
    let left ← left.members f
    let right ← right.members f
    return op.apply (f.fold left) (f.fold right)

def ClassSet.membersOfItems (f : Flags) : List ClassSet → Except Fault CharSet
  | [] => .ok .empty
  | item :: rest => do
    let s ← item.members f
    let t ← membersOfItems f rest
    return s.union t

end

/-! ### Building expressions -/

def Regex.isOnlyEmpty : Regex → Bool
  | empty | condition _ => true
  | chars _ => false
  | seq first second => first.isOnlyEmpty && second.isOnlyEmpty
  | alt first second => first.isOnlyEmpty && second.isOnlyEmpty
  | repetition _ max _ body => max == some 0 || body.isOnlyEmpty
  | capture body => body.isOnlyEmpty

/-- A repetition. Repeating the empty text is the same as taking it once at most; taking nothing
is empty, and taking exactly one is no repetition. -/
def Regex.repeated (min : Nat) (max : Option Nat) (lazy : Bool) (body : Regex) : Regex :=
  let (min, max) :=
    if body.isOnlyEmpty then (Nat.min min 1, some ((max.map (Nat.min · 1)).getD 1)) else (min, max)
  if min = 0 && max == some 0 then empty
  else if min = 1 && max == some 1 then body
  else .repetition min max lazy body

/-- The parts of a sequence; an empty expression is none. -/
def Regex.parts : Regex → List Regex
  | empty => []
  | seq first second => first.parts ++ second.parts
  | r => [r]

def Regex.sequence (rs : List Regex) : Regex :=
  match rs.flatMap parts with
  | [] => empty
  | r :: rest => rest.foldl .seq r

def Regex.branches : Regex → List Regex
  | alt first second => first.branches ++ second.branches
  | r => [r]

def setsOf? : List Regex → Option (List CharSet)
  | [] => some []
  | .chars s :: rest => (setsOf? rest).map (s :: ·)
  | _ => none

/-- One expression or another; single characters make one set. -/
def Regex.anyOf (rs : List Regex) : Regex :=
  let branches := rs.flatMap branches
  match setsOf? branches with
  | some sets => .chars (sets.foldl .union .empty)
  | none =>
    match branches with
    | [] => empty
    | r :: rest => rest.foldl .alt r

def Regex.isLiteral : Regex → Bool
  | chars s => match s.ranges with
    | [(lo, hi)] => lo == hi
    | _ => false
  | _ => false

def Regex.hasCapture : Regex → Bool
  | capture _ => true
  | seq first second | alt first second => first.hasCapture || second.hasCapture
  | repetition _ _ _ body => body.hasCapture
  | empty | chars _ | condition _ => false

/-- The parts of a sequence, where neighbouring literal characters are one part. -/
def Regex.units (r : Regex) : List (List Regex) :=
  r.parts.splitBy fun a b => a.isLiteral && b.isLiteral

/-- What two lists begin with. Captures are never the same, since each has a number of its own. -/
def commonUnits (us vs : List (List Regex)) : List (List Regex) :=
  ((us.zip vs).takeWhile fun p => p.1 == p.2 && !p.1.any Regex.hasCapture).map Prod.fst

/-- One expression or another. What all of them begin with is taken out in front, if each is a
sequence of at least two parts. -/
def Regex.choice (rs : List Regex) : Regex :=
  let units := (rs.flatMap branches).map Regex.units
  let front :=
    match units with
    | [] => []
    | first :: rest => if units.all (2 ≤ ·.length) then rest.foldl commonUnits first else []
  let rests := units.map fun us => sequence (us.drop front.length).flatten
  if front.isEmpty then anyOf rs else sequence (front.flatten ++ [anyOf rests])

/-! ### Meaning -/

def Flags.condition (f : Flags) : Look → Condition
  | .lineStart => if f.multiLine then (if f.crlf then .crlfStart else .lineStart) else .start
  | .lineEnd => if f.multiLine then (if f.crlf then .crlfStop else .lineStop) else .stop
  | .textStart => .start
  | .textEnd => .stop
  | .wordBoundary => .boundary f.words
  | .notWordBoundary => .noBoundary f.words
  | .wordStart => .wordStart f.words
  | .wordEnd => .wordStop f.words
  | .wordStartHalf => .wordStartHalf f.words
  | .wordEndHalf => .wordStopHalf f.words

/-- The set of any character: all of them, or all but the ends of lines. -/
def Flags.anyCharacter (f : Flags) : CharSet :=
  if f.dotAll then .all
  else if f.crlf then (CharSet.ofTable "A D").complement
  else (CharSet.ofTable "A").complement

def Leaf.meaning (f : Flags) (span : Span) : Leaf → Except Fault Regex
  | .atom (.literal c byte) => do
    let c ← f.literal span c byte
    return .chars (f.fold (.single c))
  | .atom a => (a.members f span).map .chars
  | .dot => if f.unicode then .ok (.chars f.anyCharacter) else .error ⟨.invalidText, span⟩
  | .look l => .ok (.condition (f.condition l))

mutual

/-- The meaning of a pattern under flags, with the flags after it. -/
def Ast.meaning (f : Flags) : Ast → Except Fault (Regex × Flags)
  | .empty _ => .ok (.empty, f)
  | .flags _ items => .ok (.empty, f.apply items)
  | .leaf span l => do return (← l.meaning f span, f)
  | .bracketed span negated set => do
    let inner ← set.members f
    return (.chars (← f.negate span negated (f.fold inner)), f)
  | .repetition _ min max lazy body => do
    let (r, f) ← body.meaning f
    return (.repeated min max (lazy != f.swapGreed) r, f)
  | .group _ kind body => do
    match kind with
    | .capturing => do
      let (r, _) ← body.meaning f
      return (.capture r, f)
    | .plain items => do
      let (r, _) ← body.meaning (f.apply items)
      return (r, f)
  | .alternation _ branches => do
    let (rs, f) ← meanings f branches
    return (.choice rs, f)
  | .concat _ items => do
    let (rs, f) ← meanings f items
    return (.sequence rs, f)

/-- The meanings of parts in order, each under the flags that the ones before it leave. -/
def Ast.meanings (f : Flags) : List Ast → Except Fault (List Regex × Flags)
  | [] => .ok ([], f)
  | item :: rest => do
    let (r, f) ← item.meaning f
    let (rs, f) ← meanings f rest
    return (r :: rs, f)

end

end LineShell.Pattern
