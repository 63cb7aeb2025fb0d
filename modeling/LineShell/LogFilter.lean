import LineShell.Pattern
import LineShell.Text.Layout

/-!
# Log filters

The filter that the command line takes for log messages: directives between commas, each a level,
or a target and a part in square brackets with a level after an equals sign. Nothing that this
program prints depends on a filter, so all that is decided here is whether it can be read.
-/

namespace LineShell.LogFilter

/-! ### Levels and fields -/

/-- Whether a text is a level: empty, a name in any case, or a number up to five. -/
def isLevel (text : List Char) : Bool :=
  let word := String.ofList (text.map Char.toLower)
  let digits := if text.head? = some '+' then text.tail else text
  let number := digits.foldl (fun n c => 10 * n + (c.toNat - '0'.toNat)) 0
  ["", "error", "warn", "info", "debug", "trace", "off"].contains word ||
    (!digits.isEmpty && digits.all Char.isDigit && number ≤ 5)

/-- Whether a text is a field: a name, and after an equals sign a value that can be searched for. -/
def isField (text : List Char) : Bool :=
  !text.isEmpty &&
    match Text.cut '=' text with
    | _ :: value :: _ =>
      match Pattern.compile false (String.ofList value) with
      | .ok _ => true
      | .error _ => false
    | _ => true

/-! ### Directives -/

/-- What is being read: its kind and its characters so far, the last one first. -/
inductive State where
  | start
  | levelOrTarget
  | span
  | field (reversed : List Char)
  | fields
  | afterSpan
  | level (reversed : List Char)

/-- The state after one more character, if it may stand there. -/
def State.next? (c : Char) : State → Option State
  | start =>
    if c = '[' then some .span
    else if c = '-' ∨ c = ':' ∨ c = '_' ∨ Pattern.isNameChar false c then
      if c = '.' ∨ c = ']' then none else some .levelOrTarget
    else none
  | levelOrTarget =>
    if c = '=' then some (.level []) else if c = '[' then some .span else some .levelOrTarget
  | span =>
    if c = ']' then some .afterSpan else if c = '\x7b' then some (.field []) else some .span
  | field reversed =>
    if c = '\x7d' then if isField reversed.reverse then some .fields else none
    else some (.field (c :: reversed))
  | fields => if c = ']' then some .afterSpan else none
  | afterSpan => if c = '=' then some (.level []) else none
  | level reversed => some (.level (c :: reversed))

def State.isFinal : State → Bool
  | levelOrTarget | afterSpan => true
  | level reversed => isLevel reversed.reverse
  | _ => false

def isDirective (text : List Char) : Bool :=
  let trimmed := (text.dropWhile Text.isBlank).reverse.dropWhile Text.isBlank |>.reverse
  (trimmed.foldl (fun s c => s.bind (State.next? c)) (some .start)).any State.isFinal

def isFilter (text : String) : Bool :=
  text.isEmpty || (Text.cut ',' text.toList).all isDirective

end LineShell.LogFilter
