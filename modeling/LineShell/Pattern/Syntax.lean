import LineShell.Pattern.Error

/-!
# The syntax of patterns

What a pattern says, before flags and properties are resolved. Every node keeps the stretch of
the pattern that it was read from, because errors that are found later point back to it.
-/

namespace LineShell.Pattern

/-! ### Parts -/

inductive Flag where
  | ignoreCase
  | multiLine
  | dotAll
  | swapGreed
  | unicode
  | crlf
  | freeSpacing
deriving DecidableEq, Repr

/-- One item of a flag group: a switch, or the sign that turns the following switches off. -/
inductive FlagItem where
  | negation
  | flag (f : Flag)
deriving DecidableEq, Repr

inductive Look where
  | lineStart
  | lineEnd
  | textStart
  | textEnd
  | wordBoundary
  | notWordBoundary
  | wordStart
  | wordEnd
  | wordStartHalf
  | wordEndHalf
deriving DecidableEq, Repr

inductive Shorthand where
  | digit
  | space
  | word
deriving DecidableEq, Repr

/-- How a property is asked for: by one letter, by name, or by name and value. -/
inductive Query where
  | letter (c : Char)
  | named (name : String)
  | valued (name value : String)
deriving DecidableEq, Repr

/-- What stands for a set of characters by itself. A literal written with two hexadecimal digits
is a byte when Unicode is off. -/
inductive Atom where
  | literal (c : Char) (byte : Bool)
  | shorthand (kind : Shorthand) (negated : Bool)
  | property (query : Query) (negated : Bool)
deriving DecidableEq, Repr

inductive Leaf where
  | atom (a : Atom)
  | dot
  | look (l : Look)
deriving DecidableEq, Repr

def asciiClasses : List (String × List (Char × Char)) :=
  [ ("alnum", [('0', '9'), ('A', 'Z'), ('a', 'z')]),
    ("alpha", [('A', 'Z'), ('a', 'z')]),
    ("ascii", [('\x00', '\x7f')]),
    ("blank", [('\t', '\t'), (' ', ' ')]),
    ("cntrl", [('\x00', '\x1f'), ('\x7f', '\x7f')]),
    ("digit", [('0', '9')]),
    ("graph", [('!', '~')]),
    ("lower", [('a', 'z')]),
    ("print", [(' ', '~')]),
    ("punct", [('!', '/'), (':', '@'), ('[', '\x60'), ('\x7b', '~')]),
    ("space", [('\t', '\r'), (' ', ' ')]),
    ("upper", [('A', 'Z')]),
    ("word", [('0', '9'), ('A', 'Z'), ('_', '_'), ('a', 'z')]),
    ("xdigit", [('0', '9'), ('A', 'F'), ('a', 'f')]) ]

inductive SetOperation where
  | intersection
  | difference
  | symmetricDifference
deriving DecidableEq, Repr

/-! ### Classes and patterns -/

inductive ClassSet where
  | empty (span : Span)
  | atom (span : Span) (a : Atom)
  | range (span : Span) (first last : Char) (firstByte lastByte : Bool)
  | ascii (span : Span) (ranges : List (Char × Char)) (negated : Bool)
  | bracketed (span : Span) (negated : Bool) (set : ClassSet)
  | union (span : Span) (items : List ClassSet)
  | binary (span : Span) (op : SetOperation) (left right : ClassSet)

def ClassSet.span : ClassSet → Span
  | empty s | atom s _ | range s _ _ _ _ | ascii s _ _ | bracketed s _ _ | union s _
  | binary s _ _ _ => s

/-- What a group is for: to capture, or only to hold together, with flags of its own. -/
inductive GroupKind where
  | capturing
  | plain (items : List FlagItem)
deriving DecidableEq, Repr

inductive Ast where
  | empty (span : Span)
  | flags (span : Span) (items : List FlagItem)
  | leaf (span : Span) (l : Leaf)
  | bracketed (span : Span) (negated : Bool) (set : ClassSet)
  | repetition (span : Span) (min : Nat) (max : Option Nat) (lazy : Bool) (body : Ast)
  | group (span : Span) (kind : GroupKind) (body : Ast)
  | alternation (span : Span) (branches : List Ast)
  | concat (span : Span) (items : List Ast)

namespace Ast

def span : Ast → Span
  | empty s | flags s _ | leaf s _ | bracketed s _ _ | repetition s _ _ _ _ | group s _ _
  | alternation s _ | concat s _ => s

/-- Items one after the other; one item is itself, and no item is the empty pattern. -/
def ofItems (span : Span) : List Ast → Ast
  | [] => empty span
  | [item] => item
  | items => concat span items

/-- Whether a repetition may apply to it: not to nothing and not to flags. -/
def isRepeatable : Ast → Bool
  | empty _ | flags _ _ => false
  | _ => true

end Ast

/-! ### Nesting -/

mutual

/-- The first stretch of a class that lies deeper than the limit, when the class itself lies at
the given depth. -/
def ClassSet.tooDeep? (depth : Nat) : ClassSet → Option Span
  | .bracketed s _ set => if nestLimit ≤ depth then some s else set.tooDeep? (depth + 1)
  | .union s items => if nestLimit ≤ depth then some s else tooDeepItem? (depth + 1) items
  | .binary s _ left right =>
    if nestLimit ≤ depth then some s
    else (left.tooDeep? (depth + 1)).or (right.tooDeep? (depth + 1))
  | _ => none

def ClassSet.tooDeepItem? (depth : Nat) : List ClassSet → Option Span
  | [] => none
  | item :: rest => (item.tooDeep? depth).or (tooDeepItem? depth rest)

end

mutual

/-- The first stretch of a pattern that lies deeper than the limit, when the pattern itself lies
at the given depth. -/
def Ast.tooDeep? (depth : Nat) : Ast → Option Span
  | .bracketed s _ set => if nestLimit ≤ depth then some s else set.tooDeep? (depth + 1)
  | .repetition s _ _ _ body => if nestLimit ≤ depth then some s else body.tooDeep? (depth + 1)
  | .group s _ body => if nestLimit ≤ depth then some s else body.tooDeep? (depth + 1)
  | .alternation s branches =>
    if nestLimit ≤ depth then some s else tooDeepItem? (depth + 1) branches
  | .concat s items => if nestLimit ≤ depth then some s else tooDeepItem? (depth + 1) items
  | _ => none

def Ast.tooDeepItem? (depth : Nat) : List Ast → Option Span
  | [] => none
  | item :: rest => (item.tooDeep? depth).or (tooDeepItem? depth rest)

end

end LineShell.Pattern
