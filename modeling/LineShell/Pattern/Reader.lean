import LineShell.Pattern.Bracket
import LineShell.Unicode.Property

/-!
# Reading patterns

From text to syntax. Open groups and alternations are kept on a stack; every round of the loop
moves the cursor, so the loop ends. Nesting is checked on the finished syntax, so any other fault
comes first.
-/

namespace LineShell.Pattern

open Text (isBlank)
open Reading

/-! ### Branches -/

/-- The items of the branch at hand, the last one first, and where the branch begins. -/
structure Branch where
  start : Position
  reversed : List Ast

def Branch.toAst (b : Branch) (stop : Position) : Ast := .ofItems ⟨b.start, stop⟩ b.reversed.reverse

def Branch.push (b : Branch) (item : Ast) : Branch := { b with reversed := item :: b.reversed }

/-- What waits on the stack: what stands before an open group, or the earlier branches of an
alternation, the last one first. -/
inductive Frame where
  | group (outer : Branch) (bracket : Span) (kind : GroupKind) (freeSpacing : Bool)
  | alternation (start : Position) (reversed : List Ast)

/-! ### Flags -/

def flagLetters : List (Char × Flag) :=
  [ ('i', .ignoreCase), ('m', .multiLine), ('s', .dotAll), ('U', .swapGreed), ('u', .unicode),
    ('R', .crlf), ('x', .freeSpacing) ]

/-- Flags up to the colon or the bracket that ends them, each with its stretch. -/
def flagItems : Nat → List (FlagItem × Span) → Reading (List (FlagItem × Span))
  | 0, items => pure items
  | n + 1, items => do
    match ← peek with
    | none => fail .flagUnexpectedEnd (.point (← here))
    | some c =>
      if c = ':' ∨ c = ')' then return items
      let span ← charSpan
      let item ←
        if c = '-' then pure FlagItem.negation
        else
          match flagLetters.lookup c with
          | some f => pure (.flag f)
          | none => fail .flagUnrecognized span
      match items.lookup item with
      | some earlier =>
        fail (if c = '-' then .flagRepeatedNegation earlier else .flagDuplicate earlier) span
      | none =>
        bump
        if ← atEnd then fail .flagUnexpectedEnd (.point (← here))
        flagItems n (items ++ [(item, span)])

/-- The flags of a group; the sign that turns flags off may not come last. -/
def flagGroup : Reading (List FlagItem) := do
  let items ← flagItems (← remaining) []
  match items.getLast? with
  | some (.negation, span) => fail .flagDanglingNegation span
  | _ => return items.map Prod.fst

/-- What flag items do to one switch: turn it on, turn it off, or leave it. -/
def switchOf (f : Flag) (items : List FlagItem) : Option Bool :=
  let on := items.takeWhile (· != .negation)
  let off := items.dropWhile (· != .negation)
  if on.contains (.flag f) then some true
  else if off.contains (.flag f) then some false
  else none

/-! ### Groups -/

def numeric : Unicode.CharSet := Unicode.categoryUnion ["Nd", "Nl", "No"]

def isNameChar (first : Bool) (c : Char) : Bool :=
  c == '_' || Unicode.alphabetic.contains c.toNat ||
    (!first && (c == '.' || c == '[' || c == ']' || numeric.contains c.toNat))

/-- The name of a group, the cursor after the angle bracket; the name must be new. -/
def groupName : Reading Unit := do
  let start ← here
  let lead ← collectUpTo (isNameChar true) bump 1
  let more ← if lead.isEmpty then pure [] else collect (isNameChar false) bump
  let span : Span := ⟨start, ← here⟩
  match ← peek with
  | none => fail .groupNameUnexpectedEnd (.point span.stop)
  | some '>' =>
    bump
    let name := String.ofList (lead ++ more)
    if lead.isEmpty then fail .groupNameEmpty (.point start)
    match (← get).names.lookup name with
    | some earlier => fail (.groupNameDuplicate earlier) span
    | none => modify fun c => { c with names := (name, span) :: c.names }
  | some _ => fail .groupNameInvalid (← charSpan)

/-- What an opening bracket begins: a group, or flags for what follows. -/
inductive Opening where
  | group (bracket : Span) (kind : GroupKind)
  | flags (span : Span) (items : List FlagItem)

/-- Whether a look-around comes next; it is passed. -/
def lookAround : Reading Bool := do
  if ← accept "?=" then return true
  if ← accept "?!" then return true
  if ← accept "?<=" then return true
  accept "?<!"

/-- Whether a group name comes next; its introduction is passed. -/
def nameAhead : Reading Bool := do
  if ← accept "?P<" then return true
  accept "?<"

def openGroup : Reading Opening := do
  let bracket ← charSpan
  step
  if ← lookAround then fail .lookAround ⟨bracket.start, ← here⟩
  let inner ← here
  if ← nameAhead then
    groupName
    return .group bracket .capturing
  if ← accept "?" then
    if ← atEnd then fail .groupUnclosed bracket
    let items ← flagGroup
    let ended ← peek
    bump
    if ended == some ')' then
      if items.isEmpty then fail .repetitionMissing (.point inner)
      return .flags ⟨bracket.start, ← here⟩ items
    return .group bracket (.plain items)
  return .group bracket .capturing

def closeGroup (branch : Branch) (stack : List Frame) : Reading (Branch × List Frame) := do
  let stop ← here
  let finish (body : Ast) (outer : Branch) (bracket : Span) (kind : GroupKind) (free : Bool)
      (below : List Frame) : Reading (Branch × List Frame) := do
    modify fun c => { c with freeSpacing := free }
    bump
    return (outer.push (.group ⟨bracket.start, ← here⟩ kind body), below)
  match stack with
  | .group outer bracket kind free :: below =>
    finish (branch.toAst stop) outer bracket kind free below
  | .alternation start reversed :: .group outer bracket kind free :: below =>
    finish (.alternation ⟨start, stop⟩ (branch.toAst stop :: reversed).reverse) outer bracket kind
      free below
  | _ => fail .groupUnopened (← charSpan)

def nextBranch (branch : Branch) (stack : List Frame) : Reading (Branch × List Frame) := do
  let body := branch.toAst (← here)
  bump
  let next : Branch := ⟨← here, []⟩
  match stack with
  | .alternation start reversed :: below =>
    return (next, .alternation start (body :: reversed) :: below)
  | _ => return (next, .alternation branch.start [body] :: stack)

def finishPattern (branch : Branch) (stack : List Frame) : Reading Ast := do
  let stop ← here
  let body := branch.toAst stop
  match stack with
  | [] => return body
  | [.alternation start reversed] => return .alternation ⟨start, stop⟩ (body :: reversed).reverse
  | .group _ bracket _ _ :: _ | .alternation _ _ :: .group _ bracket _ _ :: _ =>
    fail .groupUnclosed bracket
  | _ => return body

/-! ### Repetitions -/

/-- The item that a repetition applies to, and the branch before it. -/
def repeatable (branch : Branch) : Reading (Ast × Branch) := do
  match branch.reversed with
  | item :: before =>
    if item.isRepeatable then return (item, { branch with reversed := before })
    else fail .repetitionMissing (.point (← here))
  | [] => fail .repetitionMissing (.point (← here))

/-- Pass the question mark that makes a repetition lazy; the answer says whether there is one. -/
def passLazy : Reading Bool := do
  if (← peek) == some '?' then
    bump
    return true
  else return false

def signRepetition (branch : Branch) (min : Nat) (max : Option Nat) : Reading Branch := do
  let (body, before) ← repeatable branch
  bump
  let lazy ← passLazy
  return before.push (.repetition ⟨body.span.start, ← here⟩ min max lazy body)

/-- The bounds of a counted repetition, the cursor after the brace at `start`. -/
def bounds (start : Position) : Reading (Nat × Option Nat) := do
  let unclosed {α : Type} : Reading α := do fail .repetitionCountUnclosed ⟨start, ← here⟩
  let need : Except Fault Nat → Reading Nat
    | .ok n => pure n
    | .error f => fail f.cause f.span
  let low ← decimal .repetitionCountEmpty
  match ← peek with
  | none => unclosed
  | some ',' =>
    step
    match ← peek with
    | none => unclosed
    | some '\x7d' => return (← need low, none)
    | some _ =>
      let low ← need low
      let high ← need (← decimal .repetitionCountEmpty)
      return (low, some high)
  | some _ =>
    let n ← need low
    return (n, some n)

def countedRepetition (branch : Branch) : Reading Branch := do
  let start ← here
  let (body, before) ← repeatable branch
  step
  if ← atEnd then fail .repetitionCountUnclosed ⟨start, ← here⟩
  let (min, max) ← bounds start
  if (← peek) != some '\x7d' then fail .repetitionCountUnclosed ⟨start, ← here⟩
  step
  let lazy ← passLazy
  let stop ← here
  if max.any (· < min) then fail .repetitionCountInvalid ⟨start, stop⟩
  return before.push (.repetition ⟨body.span.start, stop⟩ min max lazy body)

/-! ### The loop -/

def leaf : Reading Ast := do
  match ← peek with
  | some '\\' => do
    let (span, l) ← escape
    return .leaf span l
  | some c => do
    let span ← charSpan
    bump
    return .leaf span
      (if c = '.' then .dot
       else if c = '^' then .look .lineStart
       else if c = '$' then .look .lineEnd
       else .atom (.literal c false))
  | none => return .empty (.point (← here))

def patternRest : Nat → Branch → List Frame → Reading Ast
  | 0, branch, stack => finishPattern branch stack
  | n + 1, branch, stack => do
    passSpace
    match ← peek with
    | none => finishPattern branch stack
    | some '(' => do
      match ← openGroup with
      | .flags span items =>
        modify fun c => { c with freeSpacing := (switchOf .freeSpacing items).getD c.freeSpacing }
        patternRest n (branch.push (.flags span items)) stack
      | .group bracket kind =>
        let free := (← get).freeSpacing
        let items := match kind with | .plain items => items | .capturing => []
        modify fun c => { c with freeSpacing := (switchOf .freeSpacing items).getD free }
        patternRest n ⟨← here, []⟩ (.group branch bracket kind free :: stack)
    | some ')' => do
      let (branch, stack) ← closeGroup branch stack
      patternRest n branch stack
    | some '|' => do
      let (branch, stack) ← nextBranch branch stack
      patternRest n branch stack
    | some '[' => do patternRest n (branch.push (← bracketClass)) stack
    | some '?' => do patternRest n (← signRepetition branch 0 (some 1)) stack
    | some '*' => do patternRest n (← signRepetition branch 0 none) stack
    | some '+' => do patternRest n (← signRepetition branch 1 none) stack
    | some '\x7b' => do patternRest n (← countedRepetition branch) stack
    | some _ => do patternRest n (branch.push (← leaf)) stack

def readPattern (text : String) : Except Fault Ast := do
  let cursor : Cursor := ⟨text.toList, .start, false, []⟩
  let (ast, _) ← (patternRest (text.length + 1) ⟨.start, []⟩ []).run cursor
  match ast.tooDeep? 0 with
  | some span => .error ⟨.nestLimitExceeded, span⟩
  | none => .ok ast

end LineShell.Pattern
