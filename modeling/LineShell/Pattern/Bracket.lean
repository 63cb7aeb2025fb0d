import LineShell.Pattern.Escape

/-!
# Bracketed classes in patterns

The text between brackets: literals, ranges, named classes, nested brackets, and the operations
between sets, which all bind equally and to the left. Open brackets and pending operations are
kept on a stack.
-/

namespace LineShell.Pattern

open Reading

/-! ### Collecting items -/

/-- Items read so far, the last one first, with the stretch that they cover. -/
structure Items where
  span : Span
  reversed : List ClassSet

namespace Items

def start (p : Position) : Items := ⟨.point p, []⟩

def push (items : Items) (item : ClassSet) : Items :=
  { span := ⟨if items.reversed.isEmpty then item.span.start else items.span.start, item.span.stop⟩
    reversed := item :: items.reversed }

def toSet (items : Items) : ClassSet :=
  match items.reversed with
  | [] => .empty items.span
  | [item] => item
  | reversed => .union items.span reversed.reverse

end Items

/-- What waits on the stack: the items around an open bracket, with the bracket's stretch, or the
left side of an operation. -/
inductive ClassFrame where
  | opened (outer : Items) (bracket : Span) (negated : Bool)
  | operation (op : SetOperation) (left : ClassSet)

def applyPending (right : ClassSet) : List ClassFrame → ClassSet × List ClassFrame
  | .operation op left :: stack =>
    (.binary ⟨left.span.start, right.span.stop⟩ op left right, stack)
  | stack => (right, stack)

def failUnclosed {α : Type} : List ClassFrame → Reading α
  | .opened _ bracket _ :: _ => fail .classUnclosed bracket
  | .operation _ _ :: stack => failUnclosed stack
  | [] => do fail .classUnclosed (.point (← here))

/-! ### Opening brackets -/

/-- Hyphens at the beginning of a class stand for themselves. -/
def leadingHyphens (start : Position) : Nat → Items → Reading Items
  | 0, items => pure items
  | n + 1, items => do
    match ← peek with
    | some '-' => do
      let items := items.push (.atom (← charSpan) (.literal '-' false))
      step
      if ← atEnd then fail .classUnclosed (.point start)
      else leadingHyphens start n items
    | _ => pure items

/-- The beginning of a class, the cursor on its bracket: the stretch of what opens it, whether it
is negated, and its first items, which are hyphens or one closing bracket. -/
def openBracket : Reading (Span × Bool × Items) := do
  let start ← here
  step
  if ← atEnd then fail .classUnclosed ⟨start, ← here⟩
  let negated := (← peek) == some '^'
  if negated then
    step
    if ← atEnd then fail .classUnclosed ⟨start, ← here⟩
  let items ← leadingHyphens start (← remaining) (.start (← here))
  let items ←
    if items.reversed.isEmpty && (← peek) == some ']' then do
      let items := items.push (.atom (← charSpan) (.literal ']' false))
      step
      if ← atEnd then fail .classUnclosed ⟨start, ← here⟩
      pure items
    else pure items
  return (⟨start, ← here⟩, negated, items)

/-! ### Items -/

/-- A named class such as `[:alpha:]`, the cursor on its bracket. When there is none the cursor
stays. -/
def namedClass? : Reading (Option ClassSet) := do
  let before ← get
  if !(← accept "[:") then return none
  let negated ← accept "^"
  let name ← collect (· ≠ ':') bump
  if ← accept ":]" then
    match asciiClasses.lookup (String.ofList name) with
    | some ranges => return some (.ascii ⟨before.position, ← here⟩ ranges negated)
    | none =>
      set before
      return none
  else
    set before
    return none

def classLeaf : Reading (Span × Leaf) := do
  match ← peek with
  | some '\\' => escape
  | some c => do
    let span ← charSpan
    bump
    return (span, .atom (.literal c false))
  | none => do fail .classUnclosed (.point (← here))

/-- What stands for a set by itself may stand inside brackets, conditions may not. -/
def leafItem : Span × Leaf → Reading ClassSet
  | (span, .atom a) => pure (.atom span a)
  | (span, _) => fail .classEscapeInvalid span

/-- An end of a range must be a literal. -/
def rangeEnd : Span × Leaf → Reading (Char × Bool)
  | (_, .atom (.literal c byte)) => pure (c, byte)
  | (span, _) => fail .classRangeLiteral span

/-- A single item or a range. A hyphen before a closing bracket or another hyphen makes no
range. -/
def classItem (stack : List ClassFrame) : Reading ClassSet := do
  let first ← classLeaf
  passSpace
  if ← atEnd then failUnclosed stack
  let second ← peekSecond
  if (← peek) != some '-' || second == some ']' || second == some '-' then leafItem first
  else
    step
    if ← atEnd then failUnclosed stack
    let last ← classLeaf
    let span : Span := ⟨first.1.start, last.1.stop⟩
    let (low, lowByte) ← rangeEnd first
    let (high, highByte) ← rangeEnd last
    if high < low then fail .classRangeInvalid span
    return .range span low high lowByte highByte

def operation? : Reading (Option SetOperation) := do
  if ← accept "&&" then return some .intersection
  if ← accept "--" then return some .difference
  if ← accept "~~" then return some .symmetricDifference
  return none

/-! ### Classes -/

/-- The rest of a class, up to the bracket that closes the outermost open one. Every round moves
the cursor, so as many rounds as characters are left are enough. -/
def classRest : Nat → List ClassFrame → Items → Reading Ast
  | 0, stack, _ => failUnclosed stack
  | n + 1, stack, items => do
    passSpace
    match ← peek with
    | none => failUnclosed stack
    | some '[' => do
      match ← namedClass? with
      | some item => classRest n stack (items.push item)
      | none => do
        let (bracket, negated, inner) ← openBracket
        classRest n (.opened items bracket negated :: stack) inner
    | some ']' => do
      let (set, stack) := applyPending items.toSet stack
      bump
      let stop ← here
      match stack with
      | .opened outer bracket negated :: below =>
        let span : Span := ⟨bracket.start, stop⟩
        if below.isEmpty then return .bracketed span negated set
        else classRest n below (outer.push (.bracketed span negated set))
      | _ => fail .classUnclosed (.point stop)
    | some _ => do
      match ← operation? with
      | some op =>
        let (left, stack) := applyPending items.toSet stack
        classRest n (.operation op left :: stack) (.start (← here))
      | none => do classRest n stack (items.push (← classItem stack))

def bracketClass : Reading Ast := do
  let rounds ← remaining
  let outer := Items.start (← here)
  let (bracket, negated, items) ← openBracket
  classRest rounds [.opened outer bracket negated] items

end LineShell.Pattern
