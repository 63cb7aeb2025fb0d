import LineShell.Pattern.Syntax
import LineShell.Unicode.Property

/-!
# What patterns match

A regular expression says how one gets from a place in a line to another. `Plan.reach` takes the
set of places where one may stand and gives the set of places that one can get to; the sets are
bit masks, so a character moves all places at once. A line matches when some place can be reached
from some place, and so the empty expression matches every line.

Before a line is searched, the expression is specialised to it (`Regex.plan`): each set of
characters becomes the mask of the places before such a character, each condition the mask of the
places where it holds.
-/

namespace LineShell.Pattern

open Unicode (CharSet)

/-! ### Expressions -/

/-- Conditions on a place, once flags are resolved. Words are given by the set of their
characters. -/
inductive Condition where
  | start
  | stop
  | lineStart
  | lineStop
  | crlfStart
  | crlfStop
  | boundary (words : CharSet)
  | noBoundary (words : CharSet)
  | wordStart (words : CharSet)
  | wordStop (words : CharSet)
  | wordStartHalf (words : CharSet)
  | wordStopHalf (words : CharSet)
deriving DecidableEq, Repr

/-- Regular expressions over characters. Whether a repetition is lazy does not change what matches;
it only tells repetitions apart. -/
inductive Regex where
  | empty
  | chars (set : CharSet)
  | condition (c : Condition)
  | seq (first second : Regex)
  | alt (first second : Regex)
  | repetition (min : Nat) (max : Option Nat) (lazy : Bool) (body : Regex)
  | capture (body : Regex)
deriving DecidableEq, Repr

/-! ### Conditions on places -/

def isIn (set : CharSet) (c : Option Char) : Bool := c.any fun c => set.contains c.toNat

/-- Whether a condition holds between two neighbours; none stands for an end of the line. -/
def Condition.holds (before after : Option Char) : Condition → Bool
  | start => before.isNone
  | stop => after.isNone
  | lineStart => before.isNone || before == some '\n'
  | lineStop => after.isNone || after == some '\n'
  | crlfStart =>
    before.isNone || before == some '\n' || (before == some '\r' && after != some '\n')
  | crlfStop => after.isNone || after == some '\r' || (after == some '\n' && before != some '\r')
  | boundary words => isIn words before != isIn words after
  | noBoundary words => isIn words before == isIn words after
  | wordStart words => !isIn words before && isIn words after
  | wordStop words => isIn words before && !isIn words after
  | wordStartHalf words => !isIn words before
  | wordStopHalf words => !isIn words after

/-! ### Plans for one line -/

inductive Plan where
  | stay
  | move (places : Nat)
  | check (places : Nat)
  | seq (first second : Plan)
  | alt (first second : Plan)
  | repetition (min : Nat) (max : Option Nat) (body : Plan)

/-- The mask whose bits are the given ones, the lowest first. -/
def maskOf (bits : List Bool) : Nat := bits.foldr (fun b mask => 2 * mask + b.toNat) 0

/-- The places of a line: each with the character before it and the one after it. -/
def places (line : List Char) : List (Option Char × Option Char) :=
  (none :: line.map some).zip (line.map some ++ [none])

def Regex.plan (line : List Char) : Regex → Plan
  | empty => .stay
  | chars set => .move (maskOf (line.map fun c => set.contains c.toNat))
  | condition c => .check (maskOf ((places line).map fun p => c.holds p.1 p.2))
  | seq first second => .seq (first.plan line) (second.plan line)
  | alt first second => .alt (first.plan line) (second.plan line)
  | repetition min max _ body => .repetition min max (body.plan line)
  | capture body => body.plan line

/-! ### Reaching places -/

/-- Apply a step `n` times; a set that the step does not change is final. -/
def iterate (f : Nat → Nat) : Nat → Nat → Nat
  | 0, s => s
  | n + 1, s => let t := f s; if t = s then s else iterate f n t

/-- Apply a step up to `n` times and keep every place on the way. -/
def spread (f : Nat → Nat) : Nat → Nat → Nat
  | 0, s => s
  | n + 1, s => let t := s ||| f s; if t = s then s else spread f n t

/-- The places that a plan leads to from a set of places, in a line with the given number of
places. Without an upper bound there are no more rounds than places, since each adds one. -/
def Plan.reach (count : Nat) : Plan → Nat → Nat
  | stay, s => s
  | move places, s => (s &&& places) <<< 1
  | check places, s => s &&& places
  | seq first second, s => second.reach count (first.reach count s)
  | alt first second, s => first.reach count s ||| second.reach count s
  | repetition min max body, s =>
    let rounds := match max with | some m => m - min | none => count
    spread (body.reach count) rounds (iterate (body.reach count) min s)

def Regex.matches (r : Regex) (line : List Char) : Bool :=
  let count := line.length + 1
  (r.plan line).reach count (Nat.pow 2 count - 1) != 0

/-- The empty expression matches every line. -/
theorem Regex.matches_empty (line : List Char) : Regex.empty.matches line = true := by
  have h : Nat.pow 2 (line.length + 1) = Nat.pow 2 line.length * 2 := rfl
  have hp : 0 < Nat.pow 2 line.length := Nat.two_pow_pos line.length
  simp only [Regex.matches, Regex.plan, Plan.reach, bne_iff_ne]
  omega

end LineShell.Pattern
